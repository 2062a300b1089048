import GatewayEvents.LogLine
import GatewayEvents.Resource.Endpoint

/-! The status that handlers see: whether the local host is the active gateway, and the
remote endpoints by identity. The flag keeps the last value written; an entry stays until
it is removed under its own identity. -/
namespace GatewayEvents

structure GatewayState where
  onGateway : Bool
  remote : Table String Endpoint
  deriving Repr

namespace GatewayState

def initial : GatewayState := ⟨false, .empty⟩

instance : Inhabited GatewayState := ⟨initial⟩

def setOnGateway (s : GatewayState) (value : Bool) : GatewayState := { s with onGateway := value }

def upsert (s : GatewayState) (identity : String) (endpoint : Endpoint) : GatewayState :=
  { s with remote := s.remote.insert identity endpoint }

/-- Also answers whether there was anything to remove. -/
def remove (s : GatewayState) (identity : String) : Bool × GatewayState :=
  ((s.remote.get? identity).isSome, { s with remote := s.remote.erase identity })

def contains (s : GatewayState) (identity : String) : Bool := s.remote.contains identity

def get? (s : GatewayState) (identity : String) : Option Endpoint := s.remote.get? identity

def identities (s : GatewayState) : List String := s.remote.keys

def snapshot (s : GatewayState) : List Endpoint := s.remote.values

def size (s : GatewayState) : Nat := s.remote.size

def isEmpty (s : GatewayState) : Bool := s.size = 0

def describe (s : GatewayState) : String :=
  "GatewayState(on_gateway: " ++ Json.boolText s.onGateway ++ ", remote endpoints: "
    ++ toString s.size ++ ")"

def changeLine (identity : String) (what : String) (after : GatewayState) : LogLine where
  level := .debug
  component := .gatewayState
  message := "Remote endpoint " ++ identity ++ " " ++ what
    ++ " (total: " ++ toString after.size ++ ")"

/-- Only an identity that was not known before is an addition. -/
def upsertLines (s : GatewayState) (identity : String) (endpoint : Endpoint) : List LogLine :=
  if s.contains identity then [] else [changeLine identity "added" (s.upsert identity endpoint)]

def removeLines (s : GatewayState) (identity : String) : List LogLine :=
  let removed := s.remove identity
  if removed.1 then [changeLine identity "removed" removed.2] else []

@[simp] theorem onGateway_upsert (s : GatewayState) (identity : String) (e : Endpoint) :
    (s.upsert identity e).onGateway = s.onGateway := rfl

@[simp] theorem onGateway_remove (s : GatewayState) (identity : String) :
    (s.remove identity).2.onGateway = s.onGateway := rfl

@[simp] theorem get?_setOnGateway (s : GatewayState) (value : Bool) (identity : String) :
    (s.setOnGateway value).get? identity = s.get? identity := rfl

@[simp] theorem get?_upsert (s : GatewayState) (identity i : String) (e : Endpoint) :
    (s.upsert identity e).get? i = if i = identity then some e else s.get? i :=
  Table.get?_insert ..

@[simp] theorem get?_remove (s : GatewayState) (identity i : String) :
    (s.remove identity).2.get? i = if i = identity then none else s.get? i :=
  Table.get?_erase ..

end GatewayState
end GatewayEvents
