import GatewayEvents.RetryPolicy
import Mathlib.Algebra.Order.Ring.Nat
import Mathlib.Order.Monotone.Basic

/-! Delays in exact numbers. Words that stop at their greatest value lose nothing but what lies
beyond it: a shift is a power of two up to there (`toNat_doublings`), a product the product
(`toNat_saturatingMul`). What stops early is stopped again by the ceiling of the policy, so the
delay is one formula over the natural numbers (`backoff_eq_min`). -/
namespace GatewayEvents.RetryPolicy

theorem toNat_greatest : greatest.toNat = 2 ^ 64 - 1 := rfl

theorem toNat_saturatingMul (a b : UInt64) :
    (saturatingMul a b).toNat = min (a.toNat * b.toNat) (2 ^ 64 - 1) := by
  unfold saturatingMul
  split
  next fits =>
    have fits : a.toNat * b.toNat < 2 ^ 64 := fits
    rw [UInt64.toNat_mul, Nat.mod_eq_of_lt fits]
    omega
  next wraps =>
    have wraps : ¬ a.toNat * b.toNat < 2 ^ 64 := wraps
    rw [toNat_greatest]
    omega

theorem toNat_doublings (n : Nat) : (doublings n).toNat = min (2 ^ n) (2 ^ 64 - 1) := by
  unfold doublings
  split
  next short =>
    have fits : 2 ^ n < 2 ^ 64 := Nat.pow_lt_pow_right (by decide) short
    have shift : (UInt64.ofNat n).toNat % 64 = n := by
      rw [UInt64.toNat_ofNat_of_lt' (Nat.lt_trans short (by decide)), Nat.mod_eq_of_lt short]
    rw [UInt64.toNat_shiftLeft, shift, UInt64.toNat_one, Nat.one_shiftLeft, Nat.mod_eq_of_lt fits]
    omega
  next long =>
    have wraps : 2 ^ 64 ≤ 2 ^ n := Nat.pow_le_pow_right (by decide) (Nat.le_of_not_lt long)
    rw [toNat_greatest]
    omega

/-- A factor that stopped early makes no difference to a product that stops there, too. -/
theorem toNat_saturatingMul_doublings (base : UInt64) (n : Nat) :
    (saturatingMul base (doublings n)).toNat = min (base.toNat * 2 ^ n) (2 ^ 64 - 1) := by
  rw [toNat_saturatingMul, toNat_doublings]
  rcases Nat.le_total (2 ^ n) (2 ^ 64 - 1) with fits | wraps
  · rw [Nat.min_eq_left fits]
  · rw [Nat.min_eq_right wraps]
    rcases Nat.eq_zero_or_pos base.toNat with zero | positive
    · simp [zero]
    · have stopped : 2 ^ 64 - 1 ≤ base.toNat * (2 ^ 64 - 1) := Nat.le_mul_of_pos_left _ positive
      have beyond : 2 ^ 64 - 1 ≤ base.toNat * 2 ^ n :=
        Nat.le_trans stopped (Nat.mul_le_mul_left _ wraps)
      rw [Nat.min_eq_right stopped, Nat.min_eq_right beyond]

/-- The longest delay that a policy can ask for: its ceiling, as far as a word reaches. -/
def cap (p : RetryPolicy) : Nat := min (2 ^ 64 - 1) (1000 * p.maxDelaySecs.toNat)

variable (p : RetryPolicy)

theorem backoff_eq_min (n : Nat) : p.backoff n = min (p.baseDelayMs.toNat * 2 ^ n) p.cap := by
  rw [backoff, toNat_saturatingMul_doublings, Nat.min_assoc, cap]

theorem monotone_backoff : Monotone p.backoff := by
  intro n m later
  rw [backoff_eq_min, backoff_eq_min]
  have grown : p.baseDelayMs.toNat * 2 ^ n ≤ p.baseDelayMs.toNat * 2 ^ m :=
    Nat.mul_le_mul_left _ (Nat.pow_le_pow_right (by decide) later)
  omega

theorem backoff_le_cap (n : Nat) : p.backoff n ≤ p.cap := by
  rw [backoff_eq_min]
  exact Nat.min_le_right ..

theorem backoff_eq_zero_iff (n : Nat) :
    p.backoff n = 0 ↔ p.baseDelayMs = 0 ∨ p.maxDelaySecs = 0 := by
  have power : 0 < 2 ^ n := Nat.two_pow_pos n
  rw [backoff_eq_min, cap, ← UInt64.toNat_inj, ← UInt64.toNat_inj, UInt64.toNat_zero]
  constructor
  · intro zero
    have factor : p.baseDelayMs.toNat * 2 ^ n = 0 ∨ p.maxDelaySecs.toNat = 0 := by omega
    exact factor.imp_left fun product => (Nat.mul_eq_zero.mp product).resolve_right (by omega)
  · rintro (base | ceiling)
    · rw [base, Nat.zero_mul, Nat.zero_min]
    · rw [ceiling]
      omega

/-- The words of every step hold the exact numbers, up to the greatest word, and the delay is the
doubled base delay up to that and to the ceiling. So delays never shrink nor exceed the ceiling,
are nothing only where the policy says so, and stay at the cap once they have come there. -/
theorem backoff_exact (p : RetryPolicy) (n : Nat) :
    (doublings n).toNat = min (2 ^ n) (2 ^ 64 - 1) ∧
    (saturatingMul p.baseDelayMs (doublings n)).toNat =
      min (p.baseDelayMs.toNat * 2 ^ n) (2 ^ 64 - 1) ∧
    p.backoff n =
      min (p.baseDelayMs.toNat * 2 ^ n) (min (2 ^ 64 - 1) (1000 * p.maxDelaySecs.toNat)) ∧
    p.backoff n ≤ p.backoff (n + 1) ∧
    p.backoff n ≤ 1000 * p.maxDelaySecs.toNat ∧
    (p.backoff n = 0 ↔ p.baseDelayMs = 0 ∨ p.maxDelaySecs = 0) ∧
    ((∀ m, p.backoff m = 0) ↔ p.baseDelayMs = 0 ∨ p.maxDelaySecs = 0) ∧
    ∀ m ≥ n, (p.backoff n = p.cap → p.backoff m = p.cap) ∧
      (p.backoff n = 1000 * p.maxDelaySecs.toNat → p.backoff m = 1000 * p.maxDelaySecs.toNat) := by
  have ceiling : p.cap ≤ 1000 * p.maxDelaySecs.toNat := Nat.min_le_right ..
  refine ⟨toNat_doublings n, toNat_saturatingMul_doublings p.baseDelayMs n, backoff_eq_min p n,
    monotone_backoff p (Nat.le_succ n), Nat.le_trans (backoff_le_cap p n) ceiling,
    backoff_eq_zero_iff p n, ?_, fun m later => ?_⟩
  · exact ⟨fun zero => (backoff_eq_zero_iff p 0).mp (zero 0),
      fun nothing m => (backoff_eq_zero_iff p m).mpr nothing⟩
  · have grown := monotone_backoff p later
    have capped := backoff_le_cap p m
    exact ⟨fun reached => by omega, fun reached => by omega⟩

/-- A factor and a product that both stop early, below a ceiling that no word reaches. -/
example : let p : RetryPolicy := ⟨20, 1, 0xFFFFFFFFFFFFFFFF⟩
    p.backoff 63 = 2 ^ 63 ∧ p.backoff 64 = 2 ^ 64 - 1 ∧ p.backoff 65 = p.cap := by
  decide

end GatewayEvents.RetryPolicy
