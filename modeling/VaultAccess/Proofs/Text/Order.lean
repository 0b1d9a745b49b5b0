import VaultAccess.Proofs.Text.Utf8

/-!
# Texts are in the order of their bytes

Texts are compared character by character, and where they are kept in order elsewhere it is by their
bytes. That is the same order: the first byte of a character is greater the more bytes there are, and
characters of one size are compared as their bytes are, since the bytes are digits of the number of
the character, the highest first (`lex_encodeChar`).
-/

namespace VaultAccess.Utf8

variable {c d : Char} {xs ys : List UInt8} {cs ds : List Char} {s t : String} {n m : Nat}

/-- The bytes of a text come before those of another: the first that differ decide, and a part comes
before the whole. -/
def Precedes (s t : String) : Prop := List.Lex (· < ·) (encode s) (encode t)

theorem lex_ofNat_of_le (hle : n ≤ m) (hm : m < 256)
    (h : n = m → List.Lex (· < ·) xs ys) :
    List.Lex (· < ·) (UInt8.ofNat n :: xs) (UInt8.ofNat m :: ys) := by
  rcases Nat.lt_or_eq_of_le hle with hlt | rfl
  · refine .rel (UInt8.lt_iff_toNat_lt.2 ?_)
    rwa [UInt8.toNat_ofNat_of_lt' (Nat.lt_trans hlt hm), UInt8.toNat_ofNat_of_lt' hm]
  · exact .cons (h rfl)

/-- Bytes are in the order of their numbers, as long as these are bytes. -/
theorem lex_ofNat_of_lt (hlt : n < m) (hm : m < 256) :
    List.Lex (· < ·) (UInt8.ofNat n :: xs) (UInt8.ofNat m :: ys) :=
  lex_ofNat_of_le (Nat.le_of_lt hlt) hm fun heq ↦ absurd heq (Nat.ne_of_lt hlt)

/-- The bytes of a character come before those of a greater one, whatever follows. -/
theorem lex_encodeChar (h : c.val.toNat < d.val.toNat) :
    List.Lex (· < ·) (String.utf8EncodeChar c ++ xs) (String.utf8EncodeChar d ++ ys) := by
  have hvalid : d.val.toNat < 0xD800 ∨ 0xDFFF < d.val.toNat ∧ d.val.toNat < 0x110000 := d.valid
  rw [String.utf8EncodeChar, String.utf8EncodeChar]
  split
  next hone =>
    split
    next => exact lex_ofNat_of_lt h (by omega)
    next =>
      -- a character of more bytes has a greater first byte, here and below
      split
      next => exact lex_ofNat_of_lt (by omega) (by omega)
      next => split <;> exact lex_ofNat_of_lt (by omega) (by omega)
  next hone =>
    rw [if_neg (show ¬ d.val.toNat ≤ 0x7F by omega)]
    split
    next htwo =>
      split
      next =>
        exact lex_ofNat_of_le (by omega) (by omega) fun hlead ↦
          lex_ofNat_of_lt (by omega) (by omega)
      next => split <;> exact lex_ofNat_of_lt (by omega) (by omega)
    next htwo =>
      rw [if_neg (show ¬ d.val.toNat ≤ 0x7FF by omega)]
      split
      next hthree =>
        split
        next =>
          exact lex_ofNat_of_le (by omega) (by omega) fun hlead ↦
            lex_ofNat_of_le (by omega) (by omega) fun hsecond ↦
              lex_ofNat_of_lt (by omega) (by omega)
        next => exact lex_ofNat_of_lt (by omega) (by omega)
      next hthree =>
        rw [if_neg (show ¬ d.val.toNat ≤ 0xFFFF by omega)]
        exact lex_ofNat_of_le (by omega) (by omega) fun hlead ↦
          lex_ofNat_of_le (by omega) (by omega) fun hsecond ↦
            lex_ofNat_of_le (by omega) (by omega) fun hthird ↦
              lex_ofNat_of_lt (by omega) (by omega)

theorem lex_append_left (zs : List UInt8) (h : List.Lex (· < ·) xs ys) :
    List.Lex (· < ·) (zs ++ xs) (zs ++ ys) := by
  induction zs with
  | nil => exact h
  | cons z zs ih => exact .cons ih

/-- Texts that differ first in a character differ first in a byte of it. -/
theorem lex_flatMap (h : List.Lex (· < ·) cs ds) :
    List.Lex (· < ·) (cs.flatMap String.utf8EncodeChar) (ds.flatMap String.utf8EncodeChar) := by
  induction h with
  | @nil d ds =>
    have hlength : 0 < (String.utf8EncodeChar d).length := by
      rw [String.length_utf8EncodeChar]
      exact Char.utf8Size_pos d
    obtain ⟨b, bs, hbytes⟩ := List.exists_cons_of_length_pos hlength
    rw [List.flatMap_cons, hbytes]
    exact .nil
  | rel hlt => exact lex_encodeChar (UInt32.lt_iff_toNat_lt.1 hlt)
  | cons _ ih => exact lex_append_left _ ih

/-- A text that is less than another comes before it in the order of bytes. -/
theorem precedes_of_lt (h : s < t) : Precedes s t := lex_flatMap (String.lt_iff.1 h)

end VaultAccess.Utf8
