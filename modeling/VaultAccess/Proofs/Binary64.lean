import Mathlib
import VaultAccess.Binary64
import VaultAccess.Proofs.Text.Floats

/-!
# Sizes of floats

What floating-point operations come to is told here by size only. A float of all its bits is known up to
a factor of two by the place of its leading bit (`Sized`): rounding raises that place by one at most
(`sized_roundWithAccuracy`), a number of 64 bits has it among the first 65 (`sized_toFloat`), a division
subtracts the places (`sized_div`), and the fixed-point sum of the logarithm is bounded by the place of
its argument (`natAbs_fixedLogarithm_lt`). Packing keeps a float that is neither too large nor too small
for all its bits (`unpack_pack`), so the places add up across a computation, and the logarithm of a
quotient to base two has at most ten bits before the point (`wholePart_logarithm_lt`).
-/

namespace VaultAccess.Binary64

open Float.Model (UnpackedFloat Format totalExponent)
open Float.Model.UnpackedFloat Decimal

variable {m n : Nat} {e l h : Int} {s t : Sign} {accuracy : Accuracy} {u v : UnpackedFloat} {x y : Float}

/-! ### Rounding to the nearest -/

/-- An unpacked float of a sign has all its bits, and its leading bit is at a place within bounds; the
unit is at place one. -/
inductive Sized (s : Sign) (l h : Int) : UnpackedFloat → Prop
  | finite {m : Nat} {e : Int} (hm : 0 < m) (hlog : m.log2 = 52) (hl : l ≤ e + 53) (hh : e + 53 ≤ h) :
    Sized s l h (.finite s m e hm)

theorem ne_zero_of_le_log2 (hlog : 52 ≤ m.log2) : m ≠ 0 := by
  rintro rfl
  cases hlog

/-- Rounding adds one to the last place at most. -/
theorem roundedMantissa_le (em : ExtendedMantissa) : em.roundedMantissa ≤ em.mantissa + 1 := by
  obtain ⟨mantissa, round, sticky⟩ := em
  cases round <;> cases sticky
  · exact Nat.le_succ _
  · exact Nat.le_succ _
  · exact Nat.add_le_add_left (Nat.le_of_lt_succ (Nat.mod_lt _ (by decide))) _
  · exact Nat.le_refl _

/-- So it adds one bit at most. -/
theorem log2_roundedMantissa {em : ExtendedMantissa} (hlog : em.mantissa.log2 = 52) :
    em.roundedMantissa.log2 = 52 ∨ em.roundedMantissa.log2 = 53 := by
  have hle := mantissa_le_roundedMantissa em
  have hge := roundedMantissa_le em
  obtain ⟨hlow, hhigh⟩ := (Nat.log2_eq_iff (ne_zero_of_le_log2 hlog.ge)).1 hlog
  have hne : em.roundedMantissa ≠ 0 := by omega
  rw [Nat.log2_eq_iff hne, Nat.log2_eq_iff hne]
  omega

theorem log2_div_two_pow (hlog : 52 ≤ m.log2) : (m / 2 ^ (m.log2 - 52)).log2 = 52 := by
  have hpow : 0 < 2 ^ (m.log2 - 52) := Nat.two_pow_pos _
  have hlow : 2 ^ 52 * 2 ^ (m.log2 - 52) ≤ m := by
    rw [← Nat.pow_add, Nat.add_sub_cancel' hlog]
    exact Nat.log2_self_le (ne_zero_of_le_log2 hlog)
  have hhigh : m < 2 ^ 53 * 2 ^ (m.log2 - 52) := by
    rw [← Nat.pow_add, show 53 + (m.log2 - 52) = m.log2 + 1 by omega]
    exact Nat.lt_log2_self
  have hle : 2 ^ 52 ≤ m / 2 ^ (m.log2 - 52) := (Nat.le_div_iff_mul_le hpow).2 hlow
  exact (Nat.log2_eq_iff (Nat.ne_of_gt ((Nat.two_pow_pos 52).trans_le hle))).2
    ⟨hle, (Nat.div_lt_iff_lt_mul hpow).2 hhigh⟩

theorem log2_shiftLeft (hm : 0 < m) (k : Nat) : (m <<< k).log2 = m.log2 + k := by
  induction k with
  | zero => rfl
  | succ k ih =>
    rw [Nat.shiftLeft_succ, Nat.log2_two_mul (Nat.shiftLeft_pos_iff.2 hm).ne', ih, Nat.add_assoc]

/-- Bits that are too many are shifted out, and the leading bit keeps its place. -/
theorem shiftToTargetExponent_of_le (accuracy : Accuracy) (ht : -1021 ≤ totalExponent m e)
    (hlog : 52 ≤ m.log2) :
    (shiftToTargetExponent .binary64 m e accuracy).1.mantissa.log2 = 52 ∧
      (shiftToTargetExponent .binary64 m e accuracy).2 = totalExponent m e - 53 := by
  have hshift : (Format.binary64.targetExponent (totalExponent m e) - e).toNat = m.log2 - 52 := by
    rw [targetExponent_eq, totalExponent_eq] at *
    omega
  constructor
  · show (ExtendedMantissa.ofMantissaAndAccuracy m accuracy >>>
      (Format.binary64.targetExponent (totalExponent m e) - e).toNat).mantissa.log2 = 52
    rw [hshift, mantissa_shiftRight, mantissa_ofMantissaAndAccuracy]
    exact log2_div_two_pow hlog
  · rw [exponent_shiftToTargetExponent, targetExponent_eq]
    rw [totalExponent_eq] at *
    omega

/-- Rounding raises the leading bit by one place at most. -/
theorem sized_roundWithAccuracy (hlog : 52 ≤ m.log2) (hl : l ≤ totalExponent m e)
    (hh : totalExponent m e ≤ h) (hnormal : -1021 ≤ l) :
    Sized s l (h + 1) (roundWithAccuracy .binary64 s m e accuracy) := by
  set first := shiftToTargetExponent .binary64 m e accuracy
  set last := shiftToTargetExponent .binary64 first.1.roundedMantissa first.2 .exact
  obtain ⟨hfirst, hexponent⟩ : first.1.mantissa.log2 = 52 ∧ first.2 = totalExponent m e - 53 :=
    shiftToTargetExponent_of_le accuracy (hnormal.trans hl) hlog
  have hrounded := log2_roundedMantissa hfirst
  have htotal : totalExponent first.1.roundedMantissa first.2 =
      first.1.roundedMantissa.log2 + 1 + (totalExponent m e - 53) := by
    rw [totalExponent_eq, hexponent]
  obtain ⟨hlast, hlastexponent⟩ : last.1.mantissa.log2 = 52 ∧
      last.2 = totalExponent first.1.roundedMantissa first.2 - 53 :=
    shiftToTargetExponent_of_le .exact (by omega) (by omega)
  have hne : last.1.mantissa ≠ 0 := ne_zero_of_le_log2 hlast.ge
  have hround : roundWithAccuracy .binary64 s m e accuracy =
      .finite s last.1.mantissa last.2 (Nat.pos_of_ne_zero hne) := dif_neg hne
  rw [hround]
  exact .finite _ hlast (by omega) (by omega)

/-- A number that is too short for the bits of a float is filled up with zeros. -/
theorem sized_round (hm : 0 < m) (hl : l ≤ totalExponent m e) (hh : totalExponent m e ≤ h)
    (hnormal : -1021 ≤ l) : Sized s l (h + 1) (round .binary64 s m e) := by
  obtain ⟨k, hk⟩ : ∃ k, k = (e - Format.binary64.targetExponent (totalExponent m e)).toNat := ⟨_, rfl⟩
  have hround : round .binary64 s m e =
      roundWithAccuracy .binary64 s (m <<< k) (e - k) .exact := by
    rw [hk]
    rfl
  have hlog : (m <<< k).log2 = m.log2 + k := log2_shiftLeft hm k
  have htotal : totalExponent (m <<< k) (e - k) = totalExponent m e := by
    rw [totalExponent_eq, totalExponent_eq, hlog]
    omega
  rw [targetExponent_eq] at hk
  rw [hround]
  refine sized_roundWithAccuracy ?_ (htotal ▸ hl) (htotal ▸ hh) hnormal
  rw [totalExponent_eq] at *
  omega

theorem normalize_natCast (hm : 0 < m) (zeroSign : Sign) :
    UnpackedFloat.normalize .binary64 m e zeroSign = round .binary64 .positive m e := by
  have hcompare : compare (m : Int) 0 = .gt := Int.compare_eq_gt.2 (by omega)
  rw [UnpackedFloat.normalize, hcompare]
  rfl

theorem normalize_neg_natCast (hm : 0 < m) (zeroSign : Sign) :
    UnpackedFloat.normalize .binary64 (-m) e zeroSign = round .binary64 .negative m e := by
  have hcompare : compare (-m : Int) 0 = .lt := Int.compare_eq_lt.2 (by omega)
  rw [UnpackedFloat.normalize, hcompare, Int.neg_neg]
  rfl

/-- A number that is normalized keeps its size up to one binary place. -/
theorem sized_normalize {v : Int} (hv : v ≠ 0) (hl : l ≤ totalExponent v.natAbs e)
    (hh : totalExponent v.natAbs e ≤ h) (hnormal : -1021 ≤ l) (zeroSign : Sign) :
    ∃ s, Sized s l (h + 1) (UnpackedFloat.normalize .binary64 v e zeroSign) := by
  have hpos : 0 < v.natAbs := Int.natAbs_pos.2 hv
  have hround (s : Sign) : Sized s l (h + 1) (round .binary64 s v.natAbs e) :=
    sized_round hpos hl hh hnormal
  rcases Int.natAbs_eq v with heq | heq
  · refine ⟨.positive, ?_⟩
    rw [heq, normalize_natCast hpos]
    exact hround .positive
  · refine ⟨.negative, ?_⟩
    rw [heq, normalize_neg_natCast hpos]
    exact hround .negative

/-! ### Packing -/

theorem unpack_pack_zero (s : Sign) : (Float.Model.pack (.zero s)).unpack = .zero s :=
  unpack_packedZero

theorem toNat_one_append (mantissa : BitVec 52) :
    (1#1 ++ mantissa).toNat = 2 ^ 52 + mantissa.toNat := by
  rw [BitVec.toNat_append, ← Nat.shiftLeft_add_eq_or_of_lt mantissa.isLt]
  rfl

theorem toNat_one_append_pos (mantissa : BitVec 52) : 0 < (1#1 ++ mantissa).toNat := by
  rw [toNat_one_append]
  exact Nat.add_pos_left (Nat.two_pow_pos _) _

/-- An exponent between the two that are set apart is the exponent of a number with all its bits. -/
theorem unpack_packComponents {exponent : BitVec 11} {mantissa : BitVec 52} (hpos : exponent ≠ 0#11)
    (hlast : exponent ≠ -1#11) :
    unpack .binary64 (packComponents .binary64 s exponent mantissa) =
      .finite s (1#1 ++ mantissa).toNat (exponent.toNat - 1075) (toNat_one_append_pos mantissa) := by
  have hexponent : unpackExponent (packComponents .binary64 s exponent mantissa) = exponent :=
    unpackExponent_packComponents
  have hmantissa : unpackMantissa (packComponents .binary64 s exponent mantissa) = mantissa :=
    unpackMantissa_packComponents
  have hsign : unpackSign (packComponents .binary64 s exponent mantissa) = s.toBitVec :=
    unpackSign_packComponents ..
  simp only [unpack, hexponent, hmantissa, hsign, Sign.ofBitVec_toBitVec]
  rw [if_neg hlast, if_neg hpos]
  rfl

/-- A float with all its bits is packed by the exponent of its last bit, counted from the least that there
is, and without its leading bit. -/
theorem pack_finite {hm : 0 < m} {biased : Nat} (hlog : m.log2 = 52) (hbiased : biased = e + 1075)
    (hfits : biased < 2047) : pack .binary64 (.finite s m e hm) =
      packComponents .binary64 s (BitVec.ofNat 11 biased) (BitVec.ofNat 52 m) := by
  have heq : (e + (1023 : Nat) + (52 : Nat)).toNat = biased := by omega
  have hfinite : ¬ 2 ^ 11 ≤ biased + 1 := by omega
  have hnormal : m.log2 + 1 = 53 := by omega
  subst heq
  exact (if_neg hfinite).trans (if_pos hnormal)

/-- What is neither too large nor too small for all its bits is kept when it is packed. -/
theorem unpack_pack (hu : Sized s l h u) (hl : -1021 ≤ l) (hh : h ≤ 1024) :
    (Float.Model.pack u).unpack = u := by
  obtain @⟨m, e, hm, hlog, hle, hge⟩ := hu
  obtain ⟨biased, hbiased⟩ := Int.eq_ofNat_of_zero_le (show 0 ≤ e + 1075 by omega)
  obtain ⟨hlow, hhigh⟩ := (Nat.log2_eq_iff hm.ne').1 hlog
  have hexponent : (BitVec.ofNat 11 biased).toNat = biased := by
    rw [BitVec.toNat_ofNat]
    exact Nat.mod_eq_of_lt (by omega)
  have hmantissa : (1#1 ++ BitVec.ofNat 52 m).toNat = m := by
    rw [toNat_one_append, BitVec.toNat_ofNat]
    omega
  have hpos : BitVec.ofNat 11 biased ≠ 0#11 := by
    intro heq
    rw [heq, BitVec.toNat_zero] at hexponent
    omega
  have hlast : BitVec.ofNat 11 biased ≠ -1#11 := by
    intro heq
    rw [heq] at hexponent
    change 2047 = biased at hexponent
    omega
  have hunpack : (Float.Model.pack (.finite s m e hm)).unpack =
      unpack .binary64 (pack .binary64 (.finite s m e hm)) := rfl
  rw [hunpack, pack_finite hlog hbiased.symm (by omega), unpack_packComponents hpos hlast]
  congr 1
  rw [hexponent]
  omega

/-! ### The operations -/

/-- A word as a float has the size of a word. -/
theorem sized_toFloat {n : UInt64} (hn : n ≠ 0) : Sized .positive 1 65 n.toFloat.toModel.unpack := by
  have hpos : 0 < n.toNat := Nat.pos_of_ne_zero (mt UInt64.toNat_inj.1 hn :)
  have hlt : n.toNat.log2 < 64 := (Nat.log2_lt hpos.ne').2 n.toNat_lt
  have hround : Sized .positive 1 65 (round .binary64 .positive n.toNat 0) :=
    sized_round (h := 64) hpos (by rw [totalExponent_eq]; omega) (by rw [totalExponent_eq]; omega)
      (by decide)
  have hmodel : n.toFloat.toModel =
      .pack (UnpackedFloat.normalize .binary64 n.toNat 0 .positive) := rfl
  rw [hmodel, normalize_natCast hpos, unpack_pack hround (by decide) (by decide)]
  exact hround

/-- A quotient is taken with one bit more than a float has, or two. -/
theorem sized_div_unpacked {l' h' : Int} (hu : Sized s l h u)
    (hv : Sized t l' h' v) (hnormal : -1021 ≤ l - h') :
    Sized (s / t) (l - h') (h - l' + 2) (div .binary64 u v) := by
  obtain @⟨m, e, hm, hlog, hl, hh⟩ := hu
  obtain @⟨n, f, hn, hlog', hl', hh'⟩ := hv
  obtain ⟨hlow, hhigh⟩ := (Nat.log2_eq_iff hm.ne').1 hlog
  obtain ⟨hlow', hhigh'⟩ := (Nat.log2_eq_iff hn.ne').1 hlog'
  have htarget : min (e - f) (Format.binary64.targetExponent
      (totalExponent m e - totalExponent n f)) = e - f - 53 := by
    rw [targetExponent_eq, totalExponent_eq, totalExponent_eq]
    omega
  have hshift : (e - f - (e - f - 53)).toNat = 53 := by omega
  have hdiv : div .binary64 (.finite s m e hm) (.finite t n f hn) =
      roundWithAccuracy .binary64 (s / t) ((m <<< 53) / n) (e - f - 53)
        (accuracyOfFraction ((m <<< 53) % n) n) := by
    simp only [div, divCore, htarget, hshift]
  have hquotient : ((m <<< 53) / n).log2 = 52 ∨ ((m <<< 53) / n).log2 = 53 := by
    have hleast : 2 ^ 52 ≤ (m <<< 53) / n := by
      rw [Nat.shiftLeft_eq, Nat.le_div_iff_mul_le hn]
      omega
    have hmost : (m <<< 53) / n < 2 ^ 54 := by
      rw [Nat.shiftLeft_eq, Nat.div_lt_iff_lt_mul hn]
      omega
    have hne : (m <<< 53) / n ≠ 0 := by omega
    rw [Nat.log2_eq_iff hne, Nat.log2_eq_iff hne]
    omega
  rw [hdiv, show h - l' + 2 = h - l' + 1 + 1 by omega]
  refine sized_roundWithAccuracy (by omega) ?_ ?_ hnormal
  · rw [totalExponent_eq]
    omega
  · rw [totalExponent_eq]
    omega

theorem toModel_div (x y : Float) :
    (x / y).toModel = .pack (div .binary64 x.toModel.unpack y.toModel.unpack) := rfl

/-- A quotient has the size of the difference of sizes. -/
theorem sized_div {l' h' : Int} (hx : Sized s l h x.toModel.unpack)
    (hy : Sized t l' h' y.toModel.unpack) (hl : -1021 ≤ l - h') (hh : h - l' + 2 ≤ 1024) :
    Sized (s / t) (l - h') (h - l' + 2) (x / y).toModel.unpack := by
  have hdiv := sized_div_unpacked hx hy hl
  rw [toModel_div, unpack_pack hdiv hl hh]
  exact hdiv

/-- The bits after the point are cut off. -/
theorem roundToInt_eq (he : e ≤ 0) : roundToInt s m e = s.apply (m / 2 ^ (-e).toNat : Nat) := by
  have hdecrease : decreaseExponent m e 0 = (m, e) := by
    have hzero : (e - 0).toNat = 0 := by omega
    rw [decreaseExponent, hzero]
    simp
  have hshift : (0 - e).toNat = (-e).toNat := by omega
  simp only [roundToInt, hdecrease, shiftToExponent, hshift]
  rw [mantissa_shiftRight, mantissa_ofMantissaAndAccuracy]

/-- Saturating at the ends of a word makes nothing larger. -/
theorem toInt_ofIntClamp_lt {i bound : Int} (hi : i < bound) (hbound : 0 ≤ bound) :
    (Int64.ofIntClamp i).toInt < bound := by
  rw [Int64.ofIntClamp]
  split_ifs with hleast hmost
  · rw [Int64.toInt_ofIntLE]
    exact hi
  · exact (Int.not_le.1 hmost).trans hi
  · exact Int.lt_of_lt_of_le (by decide) hbound

theorem wholePart_eq (x : Float) : wholePart x =
    (Int64.ofIntClamp (x.toModel.unpack.toInt Int64.minValue.toInt Int64.maxValue.toInt)).toInt := rfl

/-- Cutting off the fraction leaves no more bits than there are before the point. -/
theorem wholePart_lt {k : Nat} (hx : Sized s l k x.toModel.unpack) (hk : k ≤ 53) :
    wholePart x < 2 ^ k := by
  rw [wholePart_eq]
  refine toInt_ofIntClamp_lt ?_ (Int.pow_nonneg (by decide))
  generalize x.toModel.unpack = u at hx
  obtain @⟨m, e, hm, hlog, hl, hh⟩ := hx
  have hbits : m / 2 ^ (-e).toNat < 2 ^ k := by
    rw [Nat.div_lt_iff_lt_mul (Nat.two_pow_pos _), ← Nat.pow_add]
    refine lt_of_lt_of_le Nat.lt_log2_self (Nat.pow_le_pow_right (by decide) ?_)
    omega
  show roundToInt s m e < 2 ^ k
  rw [roundToInt_eq (by omega)]
  have hcast : ((m / 2 ^ (-e).toNat : Nat) : Int) < 2 ^ k := by exact_mod_cast hbits
  cases s with
  | positive => exact hcast
  | negative =>
    have hpos : (0 : Int) < 2 ^ k := Int.pow_pos (by decide)
    exact (Int.neg_nonpos_of_nonneg (Int.natCast_nonneg _)).trans_lt hpos

/-! ### The logarithm -/

variable {square power : Nat}

/-- The powers of a number of at most one never grow. -/
theorem areaTangentTerms_le (hsquare : square ≤ one) (power k terms : Nat) :
    areaTangentTerms square power k terms ≤ terms * power := by
  induction terms generalizing power k with
  | zero => exact Nat.zero_le _
  | succ terms ih =>
    have hterm : power / (2 * k + 1) ≤ power := Nat.div_le_self _ _
    have hpower : power * square / one ≤ power :=
      Nat.div_le_of_le_mul (Nat.mul_comm one power ▸ Nat.mul_le_mul_left power hsquare)
    have hrest : areaTangentTerms square (power * square / one) (k + 1) terms ≤ terms * power :=
      (ih _ _).trans (Nat.mul_le_mul_left _ hpower)
    rw [areaTangentTerms, Nat.add_mul, Nat.one_mul, Nat.add_comm]
    exact Nat.add_le_add hrest hterm

theorem one_eq : one = 2 ^ 192 := rfl

/-- The series stays small where its argument does. -/
theorem twiceAreaTangent_le {num den : Nat} (hle : 3 * num ≤ den) :
    twiceAreaTangent num den ≤ 43 * one := by
  have ht : num * one / den ≤ one / 3 := by
    rw [Nat.le_div_iff_mul_le (by decide), Nat.mul_comm]
    refine (Nat.mul_div_le_mul_div_assoc 3 (num * one) den).trans ?_
    rw [← Nat.mul_assoc]
    exact Nat.div_le_of_le_mul (Nat.mul_le_mul_right one hle)
  have hone : one / 3 ≤ one := Nat.div_le_self _ _
  have hsquare : num * one / den * (num * one / den) / one ≤ one :=
    Nat.div_le_of_le_mul (Nat.mul_le_mul (ht.trans hone) (ht.trans hone))
  have hsum := areaTangentTerms_le hsquare (num * one / den) 0 64
  show 2 * areaTangentTerms (num * one / den * (num * one / den) / one) (num * one / den) 0 64 ≤ _
  rw [one_eq] at *
  omega

/-- The logarithm in fixed point is small for a number of the size of a word. -/
theorem natAbs_fixedLogarithm_lt (hlog : m.log2 = 52) (hl : -64 ≤ e + 53) (hh : e + 53 ≤ 66) :
    (fixedLogarithm m e).natAbs < 2 ^ 199 := by
  obtain ⟨hlow, hhigh⟩ := (Nat.log2_eq_iff (ne_zero_of_le_log2 hlog.ge)).1 hlog
  have htwo : twiceAreaTangent 1 3 < one := by decide +kernel
  have hrest : twiceAreaTangent (m - 2 ^ 52) (m + 2 ^ 52) ≤ 43 * one :=
    twiceAreaTangent_le (by omega)
  have heq : fixedLogarithm m e = (52 + e) * twiceAreaTangent 1 3 +
      twiceAreaTangent (m - 2 ^ 52) (m + 2 ^ 52) := by
    rw [fixedLogarithm, hlog]
    rfl
  have habs : ((52 + e) * twiceAreaTangent 1 3).natAbs ≤ 65 * one := by
    rw [Int.natAbs_mul, Int.natAbs_natCast]
    exact Nat.mul_le_mul (by omega) htwo.le
  rw [heq]
  rw [one_eq] at *
  omega

theorem toModel_logarithm {hm : 0 < m} (hx : x.toModel.unpack = .finite .positive m e hm) :
    (logarithm x).toModel =
      .pack (UnpackedFloat.normalize .binary64 (fixedLogarithm m e) (-192) .positive) := by
  rw [logarithm, hx]
  rfl

/-- The logarithm of one is zero; every other has all its bits. -/
theorem unpack_logarithm (hx : Sized .positive l h x.toModel.unpack) (hl : -64 ≤ l)
    (hh : h ≤ 66) : (logarithm x).toModel.unpack = .zero .positive ∨
      ∃ s, Sized s (-191) 8 (logarithm x).toModel.unpack := by
  generalize hu : x.toModel.unpack = u at hx
  obtain @⟨m, e, hm, hlog, hle, hge⟩ := hx
  rw [toModel_logarithm hu]
  rcases eq_or_ne (fixedLogarithm m e) 0 with hzero | hne
  · left
    rw [hzero]
    exact unpack_pack_zero .positive
  · right
    have hbits : (fixedLogarithm m e).natAbs.log2 < 199 :=
      (Nat.log2_lt (Int.natAbs_ne_zero.2 hne)).2
        (natAbs_fixedLogarithm_lt hlog (hl.trans hle) (hge.trans hh))
    obtain ⟨s, hs⟩ := sized_normalize (e := -192) (l := -191) (h := 7) hne
      (by rw [totalExponent_eq]; omega) (by rw [totalExponent_eq]; omega) (by decide) .positive
    refine ⟨s, ?_⟩
    rw [unpack_pack hs (by decide) (by decide)]
    exact hs

/-- The logarithm of two lies between a half and one. -/
theorem sized_logarithm_two : Sized .positive 0 0 (logarithm 2).toModel.unpack := by
  have hmodel : (logarithm 2).toModel = .ofBits 4604418534313441775 := by decide +kernel
  have hunpack : (logarithm 2).toModel.unpack =
      .finite .positive 6243314768165359 (-53) (by decide) := by
    rw [hmodel]
    rfl
  rw [hunpack]
  exact .finite _ (by decide +kernel) (by decide) (by decide)

/-! ### The logarithm of a quotient to base two -/

/-- Zero divided by a number is zero. -/
theorem div_of_zero (hx : x.toModel.unpack = .zero .positive)
    (hy : Sized s l h y.toModel.unpack) : (x / y).toModel.unpack = .zero (.positive / s) := by
  rw [toModel_div, hx]
  generalize y.toModel.unpack = u at hy
  cases hy
  exact unpack_pack_zero _

theorem wholePart_of_zero (hx : x.toModel.unpack = .zero s) : wholePart x = 0 := by
  rw [wholePart_eq, hx]
  rfl

/-- The logarithm of zero lies below all numbers. -/
theorem logarithm_of_zero (hx : x.toModel.unpack = .zero s) :
    logarithm x = -(1 / 0) := by
  rw [logarithm, hx]

/-- The logarithm of a quotient of numbers of 64 bits to base two has few bits before the point. -/
theorem wholePart_logarithm_lt {p q : UInt64} (hq : q ≠ 0) :
    wholePart (logarithm (p.toFloat / q.toFloat) / logarithm 2) < 2 ^ 10 := by
  rcases eq_or_ne p 0 with rfl | hp
  · have hzero : (UInt64.toFloat 0).toModel.unpack = .zero .positive := rfl
    rw [logarithm_of_zero (div_of_zero hzero (sized_toFloat hq))]
    decide +kernel
  · have hratio := sized_div (sized_toFloat hp) (sized_toFloat hq) (by decide) (by decide)
    rcases unpack_logarithm hratio (by decide) (by decide) with hzero | ⟨s, hs⟩
    · rw [wholePart_of_zero (div_of_zero hzero sized_logarithm_two)]
      decide
    · exact wholePart_lt (k := 10) (sized_div hs sized_logarithm_two (by decide) (by decide)) (by decide)

end VaultAccess.Binary64
