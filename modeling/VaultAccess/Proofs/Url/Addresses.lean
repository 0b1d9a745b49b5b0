import Mathlib.Algebra.Group.Nat.Defs
import Mathlib.Data.List.Induction
import VaultAccess.Proofs.Url.Parts
import VaultAccess.Url.Host

/-!
# Addresses of version four are read as they are printed

Digits are read as the number that they were printed for (`numberIn?_toDigits`). An address of
version four is printed as four decimal numbers, none of which begins with a zero that would make it
octal, so it is read as what it was printed for (`v4?_renderV4`), provided that it is in range, as
any that has been read is (`lt_of_v4?`).
-/

namespace VaultAccess.Url

variable {base n : Nat} {cs : List Char}

/-! ### Numbers -/

/-- A digit that is put to the right is added to the number times the base. -/
theorem numberIn?_concat {c : Char} :
    numberIn? base (cs ++ [c]) =
      (numberIn? base cs).bind fun n ↦ (digitIn? base c).map (n * base + ·) := by
  simp [numberIn?, List.foldlM_append]

/-- A digit is read as what it was printed for. -/
theorem digitIn?_digitChar (hbase : base ≤ 16) (h : n < base) :
    digitIn? base (Nat.digitChar n) = some n := by
  have hall : ∀ n < 16,
      hexDigitValue? (Nat.digitChar n).toNat.toUInt8 = some n ∧ (Nat.digitChar n).toNat < 0x80 := by
    decide
  obtain ⟨hvalue, hascii⟩ := hall n (by omega)
  simp [digitIn?, hvalue, h, hascii]

/-- Digits that are printed are read. -/
theorem numberIn?_toDigits (hbase : 1 < base) (hle : base ≤ 16) :
    numberIn? base (Nat.toDigits base n) = some n := by
  induction n using Nat.strongRecOn with
  | ind n ih =>
    rw [Nat.toDigits_eq_if hbase]
    split
    next hlt =>
      show numberIn? base ([] ++ [Nat.digitChar n]) = some n
      rw [numberIn?_concat, digitIn?_digitChar hle hlt]
      simp [numberIn?]
    next hge =>
      have hdiv : n / base < n := Nat.div_lt_self (by omega) hbase
      have hmod : n % base < base := Nat.mod_lt _ (by omega)
      rw [numberIn?_concat, ih _ hdiv, digitIn?_digitChar hle hmod, Option.bind_some,
        Option.map_some, Nat.div_add_mod']

/-- A number is bounded by how many digits it has. -/
theorem lt_of_numberIn? (h : numberIn? base cs = some n) : n < base ^ cs.length := by
  induction cs using List.reverseRecOn generalizing n with
  | nil =>
    obtain rfl := Option.some.inj h
    exact Nat.one_pos
  | append_singleton cs c ih =>
    rw [numberIn?_concat] at h
    obtain ⟨m, hm, h⟩ := Option.bind_eq_some_iff.1 h
    obtain ⟨d, hd, rfl⟩ := Option.map_eq_some_iff.1 h
    have hlt := ih hm
    have hdigit : d < base := by
      simp only [digitIn?, Option.filter_eq_some_iff, Bool.and_eq_true, decide_eq_true_eq] at hd
      exact hd.2.1
    rw [List.length_append, List.length_singleton, Nat.pow_succ]
    calc m * base + d < m * base + base := by omega
      _ = (m + 1) * base := by rw [Nat.succ_mul]
      _ ≤ base ^ cs.length * base := Nat.mul_le_mul_right _ hlt

theorem toList_toString : (toString n).toList = Nat.toDigits 10 n := by
  rw [Nat.toString_eq_ofList_toDigits, String.toList_ofList]

/-- Only digits below the base are printed. -/
theorem exists_of_mem_toDigits {c : Char} (hbase : 1 < base) (h : c ∈ Nat.toDigits base n) :
    ∃ d < base, c = Nat.digitChar d := by
  induction n using Nat.strongRecOn with
  | ind n ih =>
    rw [Nat.toDigits_eq_if hbase] at h
    split at h
    next hlt => exact ⟨n, hlt, List.mem_singleton.1 h⟩
    next hge =>
      rcases List.mem_append.1 h with h | h
      · exact ih _ (Nat.div_lt_self (by omega) hbase) h
      · exact ⟨n % base, Nat.mod_lt _ (by omega), List.mem_singleton.1 h⟩

/-- Numbers are printed without the marks between them. -/
theorem ne_of_mem_toDigits {c : Char} (hbase : 1 < base) (hle : base ≤ 16)
    (h : c ∈ Nat.toDigits base n) : c ≠ '.' ∧ c ≠ ':' := by
  have hall : ∀ d < 16, Nat.digitChar d ≠ '.' ∧ Nat.digitChar d ≠ ':' := by decide
  obtain ⟨d, hd, rfl⟩ := exists_of_mem_toDigits hbase h
  exact hall d (by omega)

/-! ### Version four -/

/-- The four numbers of an address. -/
def octets (n : Nat) : List Nat := [16777216, 65536, 256, 1].map fun unit ↦ n / unit % 256

/-- Each part of an address fits into a byte. -/
theorem octet_lt {k : Nat} (h : k ∈ octets n) : k < 256 := by
  obtain ⟨unit, -, rfl⟩ := List.mem_map.1 h
  exact Nat.mod_lt _ (by decide)

/-- An address is printed as its four parts with points between them. -/
theorem toList_renderV4 :
    (renderV4 n).toList = ['.'].intercalate ((octets n).map (Nat.toDigits 10)) := by
  rw [renderV4, String.toList_intercalate, octets, List.map_map, List.map_map]
  exact congrArg _ (List.map_congr_left fun _ _ ↦ toList_toString)

/-- An address is cut into the numbers that it was printed with. -/
theorem splitAt_renderV4 :
    splitAt '.' (renderV4 n).toList = (octets n).map (Nat.toDigits 10) := by
  rw [toList_renderV4]
  refine splitAt_intercalate (by simp [octets]) fun s hs hmem ↦ ?_
  obtain ⟨k, -, rfl⟩ := List.mem_map.1 hs
  exact (ne_of_mem_toDigits (by decide) (by decide) hmem).1 rfl

/-- There is no point behind the last part, so nothing is dropped. -/
theorem withoutEmptyLast_renderV4 :
    withoutEmptyLast (splitAt '.' (renderV4 n).toList) = (octets n).map (Nat.toDigits 10) := by
  rw [splitAt_renderV4, withoutEmptyLast, if_neg]
  simp [octets]

/-- A part that is printed in decimals is not taken for octal or hexadecimal. -/
theorem partNumber?_toDigits {k : Nat} (h : k < 256) :
    partNumber? (Nat.toDigits 10 k) = some k := by
  have hall : ∀ k < 256, partNumber? (Nat.toDigits 10 k) = some k := by decide +kernel
  exact hall k h

/-- The four parts make up the address again. -/
theorem addressOf?_octets (h : n < 2 ^ 32) : addressOf? (octets n) = some n := by
  have hfits : ∀ unit, ¬ 255 < n / unit % 256 := fun unit ↦ by
    have hlt := Nat.mod_lt (n / unit) (show 0 < 256 by decide)
    omega
  simp [addressOf?, octets, hfits, List.zipIdx_cons]
  omega

/-- Parts are put together to an address only within its range. -/
theorem lt_of_addressOf? {numbers : List Nat} (h : addressOf? numbers = some n) : n < 2 ^ 32 := by
  rw [addressOf?] at h
  split at h
  next => cases h
  next last firsts _ =>
    split at h
    next => cases h
    next hfits =>
      obtain ⟨⟨hlength, hfirsts⟩, hlast⟩ : (firsts.length ≤ 3 ∧ ∀ x ∈ firsts, x ≤ 255) ∧
          last < 256 ^ (4 - firsts.length) := by simpa using hfits
      obtain rfl := Option.some.inj h
      -- what a place counts is too large a number to be unfolded
      obtain ⟨unit, hunit⟩ : ∃ unit, unit = Nat.pow 256 := ⟨_, rfl⟩
      obtain ⟨hfirst, hsecond, hthird⟩ : unit 3 = 16777216 ∧ unit 2 = 65536 ∧ unit 1 = 256 := by
        rw [hunit]
        decide
      rw [← hunit]
      match firsts with
      | [] => simpa using hlast
      | [a] =>
        show last + a * unit 3 < 2 ^ 32
        have hlast : last < 16777216 := by simpa using hlast
        have ha : a ≤ 255 := by simpa using hfirsts
        rw [hfirst]
        omega
      | [a, b] =>
        show last + b * unit 3 + a * unit 2 < 2 ^ 32
        have hlast : last < 65536 := by simpa using hlast
        have hle : a ≤ 255 ∧ b ≤ 255 := by simpa using hfirsts
        rw [hfirst, hsecond]
        omega
      | [a, b, c] =>
        show last + c * unit 3 + b * unit 2 + a * unit 1 < 2 ^ 32
        have hlast : last < 256 := by simpa using hlast
        have hle : a ≤ 255 ∧ b ≤ 255 ∧ c ≤ 255 := by simpa using hfirsts
        rw [hfirst, hsecond, hthird]
        omega
      | _ :: _ :: _ :: _ :: _ =>
        simp only [List.length_cons] at hlength
        omega

/-- An address within the range is read as it was printed. -/
theorem v4?_renderV4 (h : n < 2 ^ 32) : v4? (renderV4 n).toList = some n := by
  have hparts : ((octets n).map (Nat.toDigits 10)).mapM partNumber? = some (octets n) :=
    mapM_map_eq_some fun k hk ↦ partNumber?_toDigits (octet_lt hk)
  rw [v4?, withoutEmptyLast_renderV4, hparts]
  exact addressOf?_octets h

theorem lt_of_v4? (h : v4? cs = some n) : n < 2 ^ 32 := by
  obtain ⟨numbers, -, h⟩ := Option.bind_eq_some_iff.1 h
  exact lt_of_addressOf? h

/-- What is printed is taken for an address and not for a name. -/
theorem endsInNumber_renderV4 : endsInNumber (renderV4 n).toList = true := by
  rw [endsInNumber, withoutEmptyLast_renderV4]
  simp [octets, numberIn?_toDigits]

end VaultAccess.Url
