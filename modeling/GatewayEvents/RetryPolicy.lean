import GatewayEvents.Json.Record

/-! How often and how late a failed callback is tried again: the delay doubles with each
requeue up to a ceiling, and after a number of requeues the event is given up. The delay
is computed in 64-bit words that stop at their greatest value instead of wrapping. -/
namespace GatewayEvents

structure RetryPolicy where
  maxRequeues : UInt32 := 20
  baseDelayMs : UInt64 := 5
  maxDelaySecs : UInt64 := 1000
  deriving DecidableEq, Repr, Inhabited

namespace RetryPolicy

def greatest : UInt64 := 0xFFFFFFFFFFFFFFFF

/-- The product, or the greatest word where it does not fit. -/
def saturatingMul (a b : UInt64) : UInt64 :=
  if a.toNat * b.toNat < UInt64.size then a * b else greatest

/-- Two to the given power, or the greatest word where that does not fit. -/
def doublings (n : Nat) : UInt64 := if n < 64 then 1 <<< UInt64.ofNat n else greatest

/-- Milliseconds to wait after an attempt that had been requeued `n` times. -/
def backoff (p : RetryPolicy) (n : Nat) : Nat :=
  min (saturatingMul p.baseDelayMs (doublings n)).toNat (1000 * p.maxDelaySecs.toNat)

def allowsRequeue (p : RetryPolicy) (n : Nat) : Bool := n < p.maxRequeues.toNat

open Json

def record : Record RetryPolicy where
  name := "RetryPolicy"
  fields := [
    .defaulted "max_requeues" Read.word32 fun v p => { p with maxRequeues := v },
    .defaulted "base_delay_ms" Read.word64 fun v p => { p with baseDelayMs := v },
    .defaulted "max_delay_secs" Read.word64 fun v p => { p with maxDelaySecs := v }]
  blank := {}

def decode : Reader RetryPolicy := record.decode

def encode (p : RetryPolicy) : Json := Json.members [
  ("base_delay_ms", some (.integer p.baseDelayMs.toNat)),
  ("max_delay_secs", some (.integer p.maxDelaySecs.toNat)),
  ("max_requeues", some (.integer p.maxRequeues.toNat))]

end RetryPolicy
end GatewayEvents
