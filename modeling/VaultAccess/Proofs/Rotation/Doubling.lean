import VaultAccess.Proofs.Binary64
import VaultAccess.Proofs.Rotation.Settings

/-!
# Delays that double

A count of attempts starts from zero, and after every delay goes on one above the attempt that the delay
came with (`Backoff.attempts`). What one call does to the count is `Backoff.shown_succ`; by induction
every attempt is the number of delays before it until that number has passed the ceiling, and is held one
above the ceiling from then on (`Backoff.toNat_attempts`). The ceiling is small, so counting on never
overflows.

The law of the sequence is read off that (`Backoff.delays_double`). The ceiling may be off by one against
the exact logarithm. Where it is too large the delays reach the maximum before it, and the sequence is
the doubled base within the maximum all along; where it is too small the maximum comes early.
-/

namespace VaultAccess.Backoff

variable {b : Backoff} {attempt : UInt32} {n : Nat}

/-- Whatever the bounds are, the ceiling has at most ten bits. -/
theorem ceiling_lt (b : Backoff) : b.ceiling < 2 ^ 10 := by
  rw [ceiling]
  split_ifs with hzero
  · decide
  · exact Binary64.wholePart_logarithm_lt (by simpa using hzero)

/-- The attempt of the delay with index `n`, of a count from zero on. -/
def attempts (b : Backoff) : Nat → UInt32
  | 0 => 0
  | n + 1 => (b.delay (b.attempts n)).2 + 1

/-- Counting one on from a pulled-back attempt does not overflow. -/
theorem toNat_delay_snd_add_one (b : Backoff) (attempt : UInt32) :
    ((b.delay attempt).2 + 1).toNat = (b.delay attempt).2.toNat + 1 := by
  have hceiling := b.ceiling_lt
  have hle : (b.delay attempt).2.toNat ≤ b.ceiling.toNat := by
    rw [delay_snd (by omega)]
    exact Nat.min_le_right _ _
  rw [UInt32.toNat_add, UInt32.toNat_one]
  exact Nat.mod_eq_of_lt (by omega)

theorem toNat_attempts (b : Backoff) (n : Nat) : (b.attempts n).toNat = b.shown n := by
  induction n with
  | zero => exact b.shown_zero.symm
  | succ n ih =>
    rw [attempts, toNat_delay_snd_add_one]
    exact shown_succ (by have := b.ceiling_lt; omega) ih

/-! ### What a call in the sequence answers -/

/-- The delay with an index. -/
theorem delay_attempts_fst (b : Backoff) (n : Nat) : (b.delay (b.attempts n)).1.toNat =
    if (n : Int) ≤ b.ceiling then min (b.base.toNat * 2 ^ n) b.max.toNat else b.max.toNat :=
  delay_shown_fst (b.toNat_attempts n)

/-- The attempt that the delay with an index comes with. -/
theorem delay_attempts_snd (b : Backoff) (n : Nat) : (b.delay (b.attempts n)).2.toNat =
    if (n : Int) ≤ b.ceiling then n else b.ceiling.toNat := by
  have hceiling := b.ceiling_lt
  rw [delay_snd (by omega), toNat_attempts, shown]
  split_ifs with hle <;> omega

theorem attempts_le (b : Backoff) (n : Nat) : (b.attempts n).toNat ≤ b.ceiling.toNat + 1 := by
  rw [toNat_attempts]
  exact Nat.min_le_right _ _

/-- The delays never decrease: the doubled base grows until the maximum takes its place for good. -/
theorem delay_attempts_mono (b : Backoff) {i j : Nat} (hle : i ≤ j) :
    (b.delay (b.attempts i)).1.toNat ≤ (b.delay (b.attempts j)).1.toNat := by
  have hdoubled : b.base.toNat * 2 ^ i ≤ b.base.toNat * 2 ^ j :=
    Nat.mul_le_mul_left _ (Nat.pow_le_pow_right (by decide) hle)
  rw [delay_attempts_fst, delay_attempts_fst]
  split_ifs <;> omega

/-- If the base has been doubled up to the maximum one above the ceiling, the maximum comes nowhere too
early. -/
theorem delay_attempts_of_max_le (hmax : b.max.toNat ≤ b.base.toNat * 2 ^ (b.ceiling + 1).toNat)
    (n : Nat) : (b.delay (b.attempts n)).1.toNat = min (b.base.toNat * 2 ^ n) b.max.toNat := by
  rw [delay_attempts_fst]
  split_ifs with hle
  · rfl
  · have hdoubled : b.base.toNat * 2 ^ (b.ceiling + 1).toNat ≤ b.base.toNat * 2 ^ n :=
      Nat.mul_le_mul_left _ (Nat.pow_le_pow_right (by decide) (by omega))
    exact (Nat.min_eq_right (hmax.trans hdoubled)).symm

/-- An attempt above the ceiling, wherever it comes from, is answered with the maximum and pulled back. -/
theorem delay_of_ceiling_lt (hpast : b.ceiling < attempt.toNat) :
    (b.delay attempt).1 = b.max ∧ (b.delay attempt).2.toNat = b.ceiling.toNat := by
  have hceiling := b.ceiling_lt
  rw [delay, if_pos hpast]
  exact ⟨rfl, toNat_pinned (by omega)⟩

/-- **The sequence of delays.** The delay with index `n` is the base doubled `n` times, within the
maximum, as long as `n` has not passed the ceiling, and the maximum from then on; the call leaves the
attempt at `n`, or at the ceiling, and counting one on never overflows. So the delays never decrease and
never exceed the maximum, and the attempt never exceeds the ceiling by more than one. If the base reaches
the maximum when it is doubled once more than the ceiling tells, the whole sequence is the doubled base
within the maximum. Any attempt above the ceiling is answered with the maximum and pulled back. A
ceiling below zero counts as zero where an attempt is held at it. -/
theorem delays_double (b : Backoff) :
    (∀ n : Nat, (b.delay (b.attempts n)).1.toNat =
      if (n : Int) ≤ b.ceiling then min (b.base.toNat * 2 ^ n) b.max.toNat else b.max.toNat) ∧
    (∀ n : Nat, (b.delay (b.attempts n)).2.toNat =
      if (n : Int) ≤ b.ceiling then n else b.ceiling.toNat) ∧
    (∀ n, (b.attempts (n + 1)).toNat = (b.delay (b.attempts n)).2.toNat + 1) ∧
    (∀ i j, i ≤ j → (b.delay (b.attempts i)).1.toNat ≤ (b.delay (b.attempts j)).1.toNat) ∧
    (∀ n, (b.delay (b.attempts n)).1.toNat ≤ b.max.toNat) ∧
    (∀ n, (b.attempts n).toNat ≤ b.ceiling.toNat + 1) ∧
    (b.max.toNat ≤ b.base.toNat * 2 ^ (b.ceiling + 1).toNat →
      ∀ n, (b.delay (b.attempts n)).1.toNat = min (b.base.toNat * 2 ^ n) b.max.toNat) ∧
    ∀ attempt : UInt32, b.ceiling < attempt.toNat →
      (b.delay attempt).1 = b.max ∧ (b.delay attempt).2.toNat = b.ceiling.toNat :=
  ⟨b.delay_attempts_fst, b.delay_attempts_snd, fun n ↦ b.toNat_delay_snd_add_one (b.attempts n),
    fun _ _ ↦ b.delay_attempts_mono, fun _ ↦ delay_le, b.attempts_le, delay_attempts_of_max_le,
    fun _ ↦ delay_of_ceiling_lt⟩

/-- Two seconds at first and a minute at most: the ceiling is four, where the delay is thirty-two. -/
theorem delays_double_of_standard :
    (standard.delay (standard.attempts 3)).1.toNat ≤ (standard.delay (standard.attempts 7)).1.toNat ∧
      (∀ n, (standard.delay (standard.attempts n)).1.toNat = min (2 * 2 ^ n) 60) ∧
      (standard.delay 9).1 = 60 ∧ (standard.delay 9).2.toNat = 4 := by
  have hceiling : standard.ceiling = 4 := by decide +kernel
  obtain ⟨-, -, -, hmono, -, -, hdoubled, hpast⟩ := delays_double standard
  obtain ⟨hmax, hheld⟩ := hpast 9 (by rw [hceiling]; decide)
  refine ⟨hmono 3 7 (by decide), hdoubled (by rw [hceiling]; decide), hmax, ?_⟩
  rw [hheld, hceiling]
  rfl

end VaultAccess.Backoff
