import GatewayEvents.Resolver

/-! A client of a server that is given by the lists it serves, or of none. Asking for a kind costs
one request for its group and version; the kind is served by the first resource of that kind that is
not a part of another. -/
namespace GatewayEvents.Client

/-- A resource as a server describes it; what it leaves open follows from where it is listed. -/
structure Served where
  name : String
  kind : String
  group : Option String
  version : Option String

def Served.isWhole (s : Served) : Bool := !s.name.toList.contains '/'

/-- Group and version in one text: the group, if there is one, ends at the first slash. -/
def splitGroupVersion (s : String) : String × String :=
  match s.toList.dropWhile (· ≠ '/') with
  | [] => ("", s)
  | _ :: version => (String.ofList (s.toList.takeWhile (· ≠ '/')), String.ofList version)

def joinGroupVersion (gv : String × String) : String :=
  if gv.1.isEmpty then gv.2 else gv.1 ++ "/" ++ gv.2

def Served.resource (s : Served) (groupVersion : String) : ApiResource :=
  let listed := splitGroupVersion groupVersion
  ⟨s.group.getD listed.1, s.version.getD listed.2, joinGroupVersion listed, s.kind, s.name⟩

/-- A server answers for a group and version with its resources or an error status. -/
abbrev Server := String → Except Status (List Served)

def listRoot (k : ResourceKind) : String := if k.group.isEmpty then "/api/" else "/apis/"

/-- What keeps a kind from being asked for. -/
def addressFault? (k : ResourceKind) : Option Uri.Fault := Uri.fault? (listRoot k ++ k.apiVersion)

/-- The list is found by path alone. -/
def ofServer (server : Server) : Client where
  pinnedKind k :=
    match addressFault? k with
    | some fault => (.error (.invalidAddress fault), [])
    | none =>
      let groupVersion := Uri.path k.apiVersion
      let requests := ["GET " ++ listRoot k ++ groupVersion]
      match server groupVersion with
      | .error status => (.error (.refused status), requests)
      | .ok served =>
        match served.find? fun s => s.kind = k.kind && s.isWhole with
        | none => (.error (.notServed k), requests)
        | some s => (.ok (s.resource groupVersion), requests)

def unreachable : Client where
  pinnedKind k :=
    match addressFault? k with
    | some fault => (.error (.invalidAddress fault), [])
    | none => (.error .unreachable, [])

end GatewayEvents.Client
