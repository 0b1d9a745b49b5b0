import Mathlib.Algebra.Order.Group.Nat
import Mathlib.Algebra.Order.Ring.Nat
import VaultAccess.Decimal.Literal

/-!
# Decimals beyond the range of floats

Reading a decimal goes by its size alone where no float comes near it (`toFloat`). Elsewhere it is
done by exact arithmetic: a product or a quotient with the bits that a float has, and rounding. This
module shows that exact arithmetic would come to the same everywhere (`toFloat_eq`). Rounding never
lowers the leading bit of what is rounded, so a value beyond the largest exponent is packed as
infinity, and a quotient below half the least float has no bit left to be rounded up.
-/

namespace VaultAccess.Decimal

open Float.Model Float.Model.UnpackedFloat

variable {m bits : Nat} {e : Int} {accuracy : Accuracy}

/-- The float nearest to `m · 10^e`. -/
def nearest (m : Nat) (e : Int) : Float := Float.ofScientific m (e < 0) e.natAbs

/-! ### Rounding -/

theorem mantissa_shiftRight (em : ExtendedMantissa) (k : Nat) :
    (em >>> k).mantissa = em.mantissa / 2 ^ k := by
  induction k with
  | zero => exact (Nat.div_one _).symm
  | succ k ih =>
    show (em >>> k).mantissa / 2 = _
    rw [ih, Nat.div_div_eq_div_mul, Nat.pow_succ]

theorem mantissa_le_roundedMantissa (em : ExtendedMantissa) :
    em.mantissa ≤ em.roundedMantissa := by
  obtain ⟨mantissa, round, sticky⟩ := em
  cases round <;> cases sticky
  · exact Nat.le_refl _
  · exact Nat.le_refl _
  · exact Nat.le_add_right _ _
  · exact Nat.le_succ _

theorem mantissa_ofMantissaAndAccuracy :
    (ExtendedMantissa.ofMantissaAndAccuracy m accuracy).mantissa = m := by
  cases accuracy with
  | exact => rfl
  | inexact ordering => cases ordering <;> rfl

theorem targetExponent_eq (e : Int) :
    Format.binary64.targetExponent e = max (e - 53) (-1074) := rfl

theorem totalExponent_eq : totalExponent m e = m.log2 + 1 + e := rfl

theorem exponent_shiftToTargetExponent :
    (shiftToTargetExponent .binary64 m e accuracy).2 =
      max e (Format.binary64.targetExponent (totalExponent m e)) := by
  show e + ((Format.binary64.targetExponent (totalExponent m e) - e).toNat : Int) = _
  omega

theorem mantissa_shiftToTargetExponent_pos (hm : 0 < m) (ht : -1021 ≤ totalExponent m e) :
    0 < (shiftToTargetExponent .binary64 m e accuracy).1.mantissa := by
  show 0 < (ExtendedMantissa.ofMantissaAndAccuracy m accuracy >>>
    (Format.binary64.targetExponent (totalExponent m e) - e).toNat).mantissa
  rw [mantissa_shiftRight, mantissa_ofMantissaAndAccuracy, targetExponent_eq]
  refine Nat.div_pos ?_ (Nat.two_pow_pos _)
  rw [← Nat.le_log2 hm.ne']
  rw [totalExponent_eq] at *
  omega

/-- A value beyond the largest exponent stays there when it is rounded. -/
theorem exists_roundWithAccuracy_of_large (accuracy : Accuracy) (hm : 0 < m)
    (ht : 1025 ≤ totalExponent m e) :
    ∃ n f hn, roundWithAccuracy .binary64 .positive m e accuracy = .finite .positive n f hn ∧
      972 ≤ f := by
  set first := shiftToTargetExponent .binary64 m e accuracy with hfirst
  set last := shiftToTargetExponent .binary64 first.1.roundedMantissa first.2 .exact with hlast
  have hrounded : 0 < first.1.roundedMantissa :=
    (mantissa_shiftToTargetExponent_pos hm (by omega)).trans_le (mantissa_le_roundedMantissa _)
  have hexponent : 972 ≤ first.2 := by
    rw [hfirst, exponent_shiftToTargetExponent, targetExponent_eq]
    omega
  have hmantissa : 0 < last.1.mantissa :=
    mantissa_shiftToTargetExponent_pos hrounded (by rw [totalExponent_eq]; omega)
  refine ⟨last.1.mantissa, last.2, hmantissa, dif_neg hmantissa.ne', ?_⟩
  rw [hlast, exponent_shiftToTargetExponent]
  omega

theorem pack_of_large (hm : 0 < m) (he : 972 ≤ e) :
    Float.Model.pack (.finite .positive m e hm) = .pack (.infinity .positive) := by
  have hbits : UnpackedFloat.pack .binary64 (.finite .positive m e hm) =
      packedInfinity .binary64 .positive := by
    refine if_pos ?_
    show 2 ^ 11 ≤ (e + (1023 : Nat) + (52 : Nat)).toNat + 1
    omega
  exact (Float.Model.mk.injEq ..).mpr (congrArg UInt64.ofBitVec hbits)

/-- What lies beyond the largest exponent is packed as infinity. -/
theorem pack_roundWithAccuracy_of_large {k : Nat} (hbits : 1024 ≤ bits)
    (h : 2 ^ (bits + k) ≤ m) :
    Float.Model.pack (roundWithAccuracy .binary64 .positive m (-k) accuracy) =
      .pack (.infinity .positive) := by
  have hm : 0 < m := (Nat.two_pow_pos _).trans_le h
  have hlog : bits + k ≤ m.log2 := (Nat.le_log2 hm.ne').2 h
  have htotal : 1025 ≤ totalExponent m (-k) := by
    rw [totalExponent_eq]
    omega
  obtain ⟨n, f, hn, hround, hf⟩ := exists_roundWithAccuracy_of_large accuracy hm htotal
  rw [hround, pack_of_large hn hf]

/-! ### Decimals as products and quotients -/

theorem ofScientific_of_nonneg (hm : 0 < m) (he : 0 ≤ e) (hle : e ≤ 2 ^ 11) :
    Float.Model.ofScientific m e =
      .pack (roundWithAccuracy .binary64 .positive ((m <<< 53) * 10 ^ e.toNat) (-53) .exact) := by
  have hlow : ¬ e < -((2 ^ 11 : Int) + m.log2) := by omega
  refine congrArg Float.Model.pack ((dif_neg hm.ne').trans ((if_neg (Int.not_lt.2 hle)).trans ?_))
  exact (if_neg hlow).trans (if_pos he)

/-- A quotient is taken with as many bits as a float of its size has. -/
theorem ofScientific_of_neg (hm : 0 < m) (he : e < 0) (hle : -(2 ^ 11 + (m.log2 : Int)) ≤ e) :
    ∃ shift : Nat,
      (shift : Int) = max 0 (min (53 + ((10 ^ (-e).toNat).log2 - m.log2 : Int)) 1074) ∧
      Float.Model.ofScientific m e = .pack (roundWithAccuracy .binary64 .positive
        ((m <<< shift) / 10 ^ (-e).toNat) (-shift)
        (accuracyOfFraction ((m <<< shift) % 10 ^ (-e).toNat) (10 ^ (-e).toNat))) := by
  have hhigh : ¬ e > 2 ^ 11 := by omega
  have hpow : 0 < 10 ^ (-e).toNat := Nat.pow_pos (by decide)
  have hdiv : Float.Model.ofScientific m e = .pack (UnpackedFloat.div .binary64
      (.finite .positive m 0 hm) (.finite .positive (10 ^ (-e).toNat) 0 hpow)) :=
    congrArg Float.Model.pack ((dif_neg hm.ne').trans ((if_neg hhigh).trans
      ((if_neg (Int.not_lt.2 hle)).trans (if_neg (Int.not_le.2 he)))))
  obtain ⟨target, htarget⟩ : ∃ target, target = min (0 - 0) (Format.binary64.targetExponent
      (totalExponent m 0 - totalExponent (10 ^ (-e).toNat) 0)) := ⟨_, rfl⟩
  have hshift : (-((0 - 0 - target).toNat : Int)) = target := by omega
  refine ⟨(0 - 0 - target).toNat, ?_, hdiv.trans ?_⟩
  · rw [targetExponent_eq, totalExponent_eq, totalExponent_eq] at htarget
    omega
  · rw [hshift, htarget]
    rfl

/-! ### Decimals beyond all floats -/

/-- A decimal that is too large for a float is read as infinity. The number of bits is left open, so
that powers of this size stay as they are. -/
theorem ofScientific_of_large (hm : 0 < m) (hbits : 1024 ≤ bits)
    (hsize : 2 ^ bits * 10 ^ (-e).toNat ≤ m * 10 ^ e.toNat) :
    Float.Model.ofScientific m e = .pack (.infinity .positive) := by
  by_cases hhigh : e > 2 ^ 11
  · exact congrArg Float.Model.pack ((dif_neg hm.ne').trans (if_pos hhigh))
  by_cases he : 0 ≤ e
  · rw [ofScientific_of_nonneg hm he (Int.not_lt.1 hhigh)]
    rw [Int.toNat_of_nonpos (by omega : -e ≤ 0), Nat.pow_zero, Nat.mul_one] at hsize
    refine pack_roundWithAccuracy_of_large (k := 53) hbits ?_
    rw [Nat.shiftLeft_eq, Nat.mul_right_comm, Nat.pow_add]
    exact Nat.mul_le_mul_right _ hsize
  · rw [Int.toNat_of_nonpos (by omega : e ≤ 0), Nat.pow_zero, Nat.mul_one] at hsize
    have hlog : bits + (-e).toNat ≤ m.log2 := by
      refine (Nat.le_log2 hm.ne').2 (le_trans ?_ hsize)
      rw [Nat.pow_add]
      exact Nat.mul_le_mul_left _ (Nat.pow_le_pow_left (by decide) _)
    obtain ⟨shift, -, hread⟩ := ofScientific_of_neg hm (Int.not_le.1 he) (by omega)
    rw [hread]
    refine pack_roundWithAccuracy_of_large hbits ?_
    rw [Nat.le_div_iff_mul_le (Nat.pow_pos (by decide)), Nat.shiftLeft_eq, Nat.pow_add,
      Nat.mul_right_comm]
    exact Nat.mul_le_mul_right _ hsize

/-- A decimal below half the least float is read as zero. -/
theorem ofScientific_of_small (hm : 0 < m) (hbits : 1075 ≤ bits)
    (hsize : m * 2 ^ bits < 10 ^ (-e).toNat) :
    Float.Model.ofScientific m e = .pack (.zero .positive) := by
  have he : e < 0 := by
    by_contra h
    rw [Int.toNat_of_nonpos (by omega), Nat.pow_zero] at hsize
    exact absurd hsize (Nat.not_lt.2 (Nat.mul_pos hm (Nat.two_pow_pos _)))
  have hhigh : ¬ e > 2 ^ 11 := by omega
  by_cases hlow : e < -(2 ^ 11 + (m.log2 : Int))
  · exact congrArg Float.Model.pack ((dif_neg hm.ne').trans
      ((if_neg hhigh).trans (if_pos hlow)))
  have hlog : bits + m.log2 ≤ (10 ^ (-e).toNat).log2 := by
    refine (Nat.le_log2 (Nat.pow_pos (by decide)).ne').2 (le_trans ?_ hsize.le)
    rw [Nat.pow_add, Nat.mul_comm]
    exact Nat.mul_le_mul_right _ (Nat.log2_self_le hm.ne')
  obtain ⟨shift, hshift, hread⟩ := ofScientific_of_neg hm he (Int.not_lt.1 hlow)
  have hdouble : 2 * (m <<< shift) < 10 ^ (-e).toNat := by
    refine lt_of_le_of_lt ?_ hsize
    rw [Nat.shiftLeft_eq, Nat.mul_left_comm, ← Nat.pow_succ']
    exact Nat.mul_le_mul_left _ (Nat.pow_le_pow_right (by decide) (by omega))
  have hlt : m <<< shift < 10 ^ (-e).toNat := by omega
  have haccuracy : accuracyOfFraction (m <<< shift) (10 ^ (-e).toNat) = .inexact .lt :=
    (if_neg (Nat.shiftLeft_pos_iff.2 hm).ne').trans
      (congrArg Accuracy.inexact (Nat.compare_eq_lt.2 hdouble))
  rw [hread, Nat.div_eq_of_lt hlt, Nat.mod_eq_of_lt hlt, haccuracy,
    show shift = 1074 by omega]
  rfl

/-! ### The reader of decimals -/

/-- A positive number lies between two powers of ten as the number of its digits says. -/
theorem pow_length_toDigits (hm : 0 < m) :
    10 ^ ((Nat.toDigits 10 m).length - 1) ≤ m ∧ m < 10 ^ (Nat.toDigits 10 m).length := by
  have hlength : 0 < (Nat.toDigits 10 m).length := Nat.length_toDigits_pos
  refine ⟨?_, (Nat.length_toDigits_le_iff (by decide) hlength).1 le_rfl⟩
  rcases Nat.eq_zero_or_pos ((Nat.toDigits 10 m).length - 1) with h | h
  · rw [h]
    exact hm
  · rw [← Nat.not_lt, ← Nat.length_toDigits_le_iff (by decide) h]
    omega

/-- Many digits or a large exponent are read by way of the model of floats. -/
theorem nearest_eq (h : ¬ (m < 2 ^ 53 ∧ e.natAbs ≤ 22)) :
    nearest m e = .ofModel (.ofScientific m e) := by
  have hsign :
      (if decide (e < 0) = true then Int.negOfNat e.natAbs else Int.ofNat e.natAbs) = e := by
    cases e with
    | ofNat => rfl
    | negSucc n => exact if_pos (decide_eq_true (Int.negSucc_lt_zero n))
  exact (dif_neg h).trans (congrArg (fun e ↦ Float.ofModel (.ofScientific m e)) hsign)

theorem nearest_zero (e : Int) : nearest 0 e = 0 := by
  by_cases hfast : e.natAbs ≤ 22
  · have hall : ∀ (n : Fin 23) (negative : Bool),
        (Float.ofScientific 0 negative n).toModel = (0 : Float).toModel := by decide +kernel
    exact congrArg Float.ofModel (hall ⟨e.natAbs, by omega⟩ (e < 0))
  · have hmodel : Float.Model.ofScientific 0 e = .pack (.zero .positive) :=
      congrArg Float.Model.pack (dif_pos rfl)
    rw [nearest_eq (mt And.right hfast), hmodel]
    rfl

/-- Where a decimal is read by its size alone, exact arithmetic would come to the same. -/
theorem toFloat_eq (m : Nat) (e : Int) : toFloat m e = nearest m e := by
  rcases Nat.eq_zero_or_pos m with rfl | hm
  · exact (nearest_zero e).symm
  obtain ⟨hlow, hhigh⟩ := pow_length_toDigits hm
  have hfew : m < 2 ^ 53 → (Nat.toDigits 10 m).length ≤ 16 := fun h ↦
    (Nat.length_toDigits_le_iff (by decide) (by decide)).2 (h.trans (by decide))
  rw [toFloat, if_neg (by simpa using hm.ne')]
  dsimp only
  split_ifs with hlarge hsmall
  · have hsize : 2 ^ 1024 * 10 ^ (-e).toNat ≤ m * 10 ^ e.toNat :=
      calc 2 ^ 1024 * 10 ^ (-e).toNat ≤ 10 ^ 310 * 10 ^ (-e).toNat :=
            Nat.mul_le_mul_right _ (by decide +kernel)
        _ = 10 ^ (310 + (-e).toNat) := (Nat.pow_add ..).symm
        _ ≤ 10 ^ ((Nat.toDigits 10 m).length - 1 + e.toNat) :=
            Nat.pow_le_pow_right (by decide) (by omega)
        _ ≤ m * 10 ^ e.toNat := by
            rw [Nat.pow_add]
            exact Nat.mul_le_mul_right _ hlow
    rw [nearest_eq (by omega), ofScientific_of_large hm le_rfl hsize]
    rfl
  · have hsize : m * 2 ^ 1075 < 10 ^ (-e).toNat :=
      calc m * 2 ^ 1075 < 10 ^ (Nat.toDigits 10 m).length * 10 ^ 331 :=
            Nat.mul_lt_mul_of_lt_of_le hhigh (by decide +kernel) (by decide +kernel)
        _ = 10 ^ ((Nat.toDigits 10 m).length + 331) := (Nat.pow_add ..).symm
        _ ≤ 10 ^ (-e).toNat := Nat.pow_le_pow_right (by decide) (by omega)
    rw [nearest_eq (by omega), ofScientific_of_small hm le_rfl hsize]
    rfl
  · rfl

end VaultAccess.Decimal
