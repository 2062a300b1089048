import GatewayEvents.SystemError
import GatewayEvents.Text.Utf8

/-! The name of the local host as the system tells it: bytes that end at the first zero and
ought to spell a text, or an error number. -/
namespace GatewayEvents.Hostname

inductive Source where
  | bytes (bytes : List UInt8)
  | failed (errno : Int)
  deriving DecidableEq, Repr

inductive Fault where
  | unreadable (errno : Int)
  | notText (bytes : List UInt8)
  deriving DecidableEq, Repr

def Fault.message : Fault → String
  | .unreadable errno =>
    "unable to read hostname: " ++ SystemError.text errno ++ " (os error " ++ toString errno ++ ")"
  | .notText bytes => "hostname " ++ Text.quotedBytes bytes ++ " is not valid UTF-8"

/-- A host name has no more bytes than this. -/
def longest : Nat := 64

def read : Source → Except Fault String
  | .failed errno => .error (.unreadable errno)
  | .bytes bytes =>
    let name := (bytes.take longest).takeWhile (· ≠ 0)
    match Text.decode name with
    | some text => .ok text
    | none => .error (.notText name)

end GatewayEvents.Hostname
