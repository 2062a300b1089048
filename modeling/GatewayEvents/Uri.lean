/-! Addresses of resources on a server: a path, perhaps with a query behind it. A fragment
is never sent. Some characters have to be escaped, and an address that holds one of them
as it is names nothing. -/
namespace GatewayEvents.Uri

/-- What may stand in a path: all but blanks, controls and a few marks. -/
def isPathChar (c : Char) : Bool :=
  0x21 ≤ c.toNat && c ≠ '#' && c ≠ '<' && c ≠ '>' && c ≠ '?' && c ≠ '\x60'

def isQueryChar (c : Char) : Bool :=
  0x21 ≤ c.toNat && c ≠ '"' && c ≠ '#' && c ≠ '<' && c ≠ '>'

def withoutFragment (s : String) : List Char := s.toList.takeWhile (· ≠ '#')

/-- The address up to its query. -/
def path (s : String) : String := String.ofList ((withoutFragment s).takeWhile (· ≠ '?'))

def query (s : String) : List Char := ((withoutFragment s).dropWhile (· ≠ '?')).drop 1

inductive Fault where
  | tooLong
  | invalidCharacter
  deriving DecidableEq, Repr

def Fault.message : Fault → String
  | .tooLong => "uri too long"
  | .invalidCharacter => "invalid uri character"

/-- An address has no more bytes than this. -/
def longest : Nat := 65534

/-- What keeps an address from being one. -/
def fault? (s : String) : Option Fault :=
  if longest < s.utf8ByteSize then some .tooLong
  else if (path s).toList.all isPathChar ∧ (query s).all isQueryChar then none
  else some .invalidCharacter

end GatewayEvents.Uri
