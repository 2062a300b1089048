/-! Addresses of proxies for the API server, and why none of them can be used: no proxy protocol
is built in. -/
namespace GatewayEvents

/-- The address of a proxy, taken apart. -/
structure ProxyAddress where
  scheme : Option String
  authority : String
  path : String
  query : Option String
  deriving DecidableEq, Repr

namespace ProxyAddress

def lowerCase (cs : List Char) : List Char := cs.map Char.toLower

/-- Well-known schemes are the same in either case. -/
def schemeText (cs : List Char) : String :=
  if lowerCase cs = "http".toList ∨ lowerCase cs = "https".toList then String.ofList (lowerCase cs)
  else String.ofList cs

def isSchemeChar (c : Char) : Bool := c.isAlphanum || c = '+' || c = '-' || c = '.' || c = '~'

/-- The scheme and what follows its `://`, if there is one. -/
def splitScheme (cs : List Char) : Option (List Char × List Char) :=
  match cs.dropWhile isSchemeChar with
  | ':' :: '/' :: '/' :: rest => some (cs.takeWhile isSchemeChar, rest)
  | _ => none

/-- A fragment is dropped. An address that begins with a slash has no authority. -/
def parse (s : String) : ProxyAddress :=
  let (scheme, rest) := match splitScheme s.toList with
    | some (scheme, rest) => (some (schemeText scheme), rest)
    | none => (none, s.toList)
  let whole := rest.takeWhile (· ≠ '#')
  let authority := whole.takeWhile fun c => c ≠ '/' ∧ c ≠ '?'
  let target := whole.drop authority.length
  let path := target.takeWhile (· ≠ '?')
  let query := target.drop path.length
  ⟨scheme, String.ofList authority, String.ofList path,
    if query.isEmpty then none else some (String.ofList (query.drop 1))⟩

/-- An address with a scheme always has a path. -/
def text (a : ProxyAddress) : String :=
  let path := if a.path.isEmpty ∧ a.scheme.isSome then "/" else a.path
  (a.scheme.map (· ++ "://")).getD "" ++ a.authority ++ path ++ (a.query.map ("?" ++ ·)).getD ""

/-- Why no client can be built that goes by this proxy. -/
def fault (a : ProxyAddress) : String :=
  let disabled (feature : String) :=
    "configured proxy " ++ a.text ++ " requires the disabled feature \"" ++ feature ++ "\""
  if a.scheme = some "socks5" then disabled "kube/socks5"
  else if a.scheme = some "http" then disabled "kube/http-proxy"
  else "configured proxy " ++ a.text ++ " uses an unsupported protocol"

end ProxyAddress

end GatewayEvents
