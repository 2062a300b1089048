import GatewayEvents.Json.Record

/-! Error statuses, by which an API server says why it does not do as it was asked. -/
namespace GatewayEvents

structure Status where
  code : Nat
  reason : String := ""
  message : String := ""
  outcome : String := "Failure"
  deriving DecidableEq, Repr

namespace Status

def describe (s : Status) : String :=
  "ErrorResponse \x7b status: " ++ Text.quoted s.outcome ++ ", message: " ++ Text.quoted s.message
    ++ ", reason: " ++ Text.quoted s.reason ++ ", code: " ++ toString s.code ++ " \x7d"

def text (s : Status) : String := s.message ++ ": " ++ s.reason

def requestError (s : Status) : String := "ApiError: " ++ s.text ++ " (" ++ s.describe ++ ")"

open Json

def record : Record Status where
  name := "ErrorResponse"
  fields := [
    .needed "status" Read.text fun v s => { s with outcome := v },
    .defaulted "message" Read.text fun v s => { s with message := v },
    .defaulted "reason" Read.text fun v s => { s with reason := v },
    .needed "code" (Read.integer (.unsigned 16)) fun v s => { s with code := v.toNat }]
  blank := { code := 0 }

def decode : Reader Status := record.decode

end Status
end GatewayEvents
