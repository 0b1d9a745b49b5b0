import Mathlib.Algebra.Group.Int.Defs
import Mathlib.Algebra.Order.Group.Nat
import VaultAccess.Rotation.Backoff

/-!
# What the backoff answers

The two answers of `Backoff.delay`, read as natural numbers and without the caps of the arithmetic:
the delay is the base doubled as often as the attempt tells, within the maximum, as long as the
attempt has not passed the ceiling (`delay_fst`), and counting goes on from the attempt or from the
ceiling, whichever is less (`delay_snd`).

A count of failures that goes on from there and is one more each time shows the number of failures
until it has passed the ceiling, and stays there (`shown`). Whether the number of failures has
passed the ceiling can be told from what the count shows, also where the ceiling is negative
(`shown_le_ceiling_iff`), so the delay for what the count shows is the delay for the number of
failures (`delay_shown_fst`).
-/

namespace VaultAccess

theorem toNat_ofNatClamp (n : Nat) :
    (UInt64.ofNatClamp n).toNat = min n (UInt64.size - 1) := by
  rcases Nat.lt_or_ge n UInt64.size with hlt | hge
  · rw [UInt64.toNat_ofNatClamp_of_lt hlt, Nat.min_eq_left (Nat.le_sub_one_of_lt hlt)]
  · rw [UInt64.toNat_ofNatClamp_of_le hge, Nat.min_eq_right (Nat.le_trans (Nat.sub_le _ _) hge)]

namespace Backoff

variable {b : Backoff} {attempt : UInt32} {failures : Nat}

/-- A product or a power that was stopped at the greatest number has passed every maximum, unless there
is nothing to double. -/
theorem toNat_doubled :
    (b.doubled attempt).toNat = min (b.base.toNat * 2 ^ attempt.toNat) b.max.toNat := by
  have hmax : b.max.toNat ≤ UInt64.size - 1 := Nat.le_sub_one_of_lt b.max.toNat_lt
  have hpow : (cappedPow 2 attempt).toNat = min (2 ^ attempt.toNat) (UInt64.size - 1) :=
    toNat_ofNatClamp _
  rw [doubled, UInt64.toNat_min, cappedMul, toNat_ofNatClamp, hpow, Nat.min_assoc,
    Nat.min_eq_right hmax]
  rcases Nat.eq_zero_or_pos b.base.toNat with hzero | hpos
  · rw [hzero, Nat.zero_mul, Nat.zero_mul]
  rcases Nat.le_total (2 ^ attempt.toNat) (UInt64.size - 1) with hfits | hlarge
  · rw [Nat.min_eq_left hfits]
  · have hcapped : b.max.toNat ≤ b.base.toNat * (UInt64.size - 1) :=
      Nat.le_trans hmax (Nat.le_mul_of_pos_left _ hpos)
    have hproduct : b.max.toNat ≤ b.base.toNat * 2 ^ attempt.toNat :=
      Nat.le_trans (Nat.le_trans hmax hlarge) (Nat.le_mul_of_pos_left _ hpos)
    rw [Nat.min_eq_right hlarge, Nat.min_eq_right hcapped, Nat.min_eq_right hproduct]

theorem toNat_pinned (hceiling : b.ceiling < 2 ^ 32) : b.pinned.toNat = b.ceiling.toNat := by
  have hle : b.ceiling.toNat ≤ UInt32.size - 1 := by
    rw [UInt32.size]
    omega
  rw [pinned, Nat.min_eq_left hle]
  exact UInt32.toNat_ofNat_of_lt' (Nat.lt_of_le_of_lt hle (by decide))

/-- The delay for an attempt. -/
theorem delay_fst : (b.delay attempt).1.toNat =
    if (attempt.toNat : Int) ≤ b.ceiling then min (b.base.toNat * 2 ^ attempt.toNat) b.max.toNat
    else b.max.toNat := by
  rw [delay]
  by_cases hpast : b.ceiling < attempt.toNat
  · rw [if_pos hpast, if_neg (Int.not_le.2 hpast)]
  · rw [if_neg hpast, if_pos (Int.not_lt.1 hpast)]
    exact toNat_doubled

/-- The attempt from which counting goes on. -/
theorem delay_snd (hceiling : b.ceiling < 2 ^ 32) :
    (b.delay attempt).2.toNat = min attempt.toNat b.ceiling.toNat := by
  rw [delay]
  by_cases hpast : b.ceiling < attempt.toNat
  · rw [if_pos hpast]
    show b.pinned.toNat = _
    rw [toNat_pinned hceiling]
    omega
  · rw [if_neg hpast]
    show attempt.toNat = _
    omega

/-! ### Counting failures -/

/-- What a count of failures shows: their number, until it has passed the ceiling. -/
def shown (b : Backoff) (failures : Nat) : Nat := min failures (b.ceiling.toNat + 1)

theorem shown_zero : b.shown 0 = 0 := Nat.zero_min _

/-- One more failure. -/
theorem shown_succ (hceiling : b.ceiling < 2 ^ 32) (hattempt : attempt.toNat = b.shown failures) :
    (b.delay attempt).2.toNat + 1 = b.shown (failures + 1) := by
  rw [delay_snd hceiling, hattempt, shown, shown]
  omega

/-- The count passes the ceiling with the number of failures. -/
theorem shown_le_ceiling_iff :
    (b.shown failures : Int) ≤ b.ceiling ↔ (failures : Int) ≤ b.ceiling := by
  rw [shown]
  omega

/-- The delay after one more failure. -/
theorem delay_shown_fst (hattempt : attempt.toNat = b.shown failures) :
    (b.delay attempt).1.toNat =
      if (failures : Int) ≤ b.ceiling then min (b.base.toNat * 2 ^ failures) b.max.toNat
      else b.max.toNat := by
  rw [delay_fst, hattempt]
  by_cases hle : (failures : Int) ≤ b.ceiling
  · have hshown : b.shown failures = failures := by
      rw [shown]
      omega
    rw [if_pos hle, if_pos (shown_le_ceiling_iff.2 hle), hshown]
  · rw [if_neg hle, if_neg (mt shown_le_ceiling_iff.1 hle)]

end Backoff

end VaultAccess
