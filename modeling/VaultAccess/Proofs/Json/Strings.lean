import VaultAccess.Json.Token
import VaultAccess.Proofs.Text.Utf8

/-!
# Strings are read as they are printed

Each character stands in the body of a printed string in one of three ways: as itself, behind a
backslash in one letter, or as four digits (`Escaped`). Whoever reads a body takes in what stands for
one character and goes on with the rest. So the scanner meets no quote before the end
(`scan?_quote`), and `unescape?` gives the text back (`unescape?_bodyOf`), whatever its characters
are.
-/

namespace VaultAccess.Json

variable {c : Char} {b : UInt8} {bs body before read : List UInt8}

/-! ### Bodies -/

/-- The bytes that stand for a character in the body of a printed string. -/
def bytesOf (c : Char) : List UInt8 := (escapeChar c).flatMap String.utf8EncodeChar

/-- The body of a printed string. -/
def bodyOf (s : String) : List UInt8 := s.toList.flatMap bytesOf

theorem encode_quote (s : String) : Utf8.encode (quote s) = 0x22 :: (bodyOf s ++ [0x22]) := by
  have hquote : String.utf8EncodeChar '"' = [0x22] := rfl
  rw [Utf8.encode, quote, String.toList_ofList, escape, List.cons_append, List.flatMap_cons,
    List.flatMap_append, List.flatMap_assoc, List.flatMap_singleton, hquote]
  rfl

/-- The byte of a lower-case hexadecimal digit. -/
def hexByte (n : Nat) : UInt8 := asciiByte (hexDigit n)

theorem encode_hexDigit {n : Nat} (h : n < 16) :
    String.utf8EncodeChar (hexDigit n) = [hexByte n] := by
  have hall : ∀ n < 16, String.utf8EncodeChar (hexDigit n) = [hexByte n] := by decide
  exact hall n h

theorem hexValue?_hexByte {n : Nat} (h : n < 16) : hexValue? (hexByte n) = some n := by
  have hall : ∀ n < 16, hexValue? (hexByte n) = some n := by decide
  exact hall n h

/-- How a character can stand in the body of a string: as itself, as a letter behind a backslash, or
as four digits. -/
inductive Escaped (c : Char) : List UInt8 → Prop
  | plain (hcontrol : 0x20 ≤ c.toNat) (hquote : c ≠ '"') (hslash : c ≠ '\\') :
      Escaped c (String.utf8EncodeChar c)
  | short {e : UInt8} (hascii : c.toNat < 0x80) (hletter : e ≠ 0x75)
      (he : shortEscape? e = some c.toNat.toUInt8) : Escaped c [0x5C, e]
  | digits (hcontrol : c.toNat < 0x20) :
      Escaped c [0x5C, 0x75, 0x30, 0x30, hexByte (c.toNat / 16), hexByte (c.toNat % 16)]

theorem escaped_bytesOf (c : Char) : Escaped c (bytesOf c) := by
  -- a letter stands for the character whose number it is the escape of
  have hshort : ∀ {n : Nat} {e : Char}, c.toNat = n → bytesOf c = [0x5C, asciiByte e] →
      n < 0x80 → asciiByte e ≠ 0x75 → shortEscape? (asciiByte e) = some n.toUInt8 →
        Escaped c (bytesOf c) := by
    rintro n e rfl hbytes hascii hletter he
    rw [hbytes]
    exact .short hascii hletter he
  have hnumber : ∀ {n : Nat}, (c.toNat == n) = true → c = Char.ofNat n := by
    rintro n hn
    rw [← beq_iff_eq.1 hn, Char.ofNat_toNat]
  have hbytes : bytesOf c = (escapeChar c).flatMap String.utf8EncodeChar := rfl
  rw [escapeChar] at hbytes
  split at hbytes
  next h => exact hshort (e := '"') (by rw [beq_iff_eq.1 h]; rfl) hbytes (by decide) (by decide) rfl
  next hquote =>
  split at hbytes
  next h => exact hshort (e := '\\') (by rw [beq_iff_eq.1 h]; rfl) hbytes (by decide) (by decide) rfl
  next hslash =>
  split at hbytes
  next h => exact hshort (e := 'b') (beq_iff_eq.1 h) hbytes (by decide) (by decide) rfl
  next =>
  split at hbytes
  next h => exact hshort (e := 'f') (beq_iff_eq.1 h) hbytes (by decide) (by decide) rfl
  next =>
  split at hbytes
  next h => exact hshort (e := 'n') (by rw [beq_iff_eq.1 h]; rfl) hbytes (by decide) (by decide) rfl
  next =>
  split at hbytes
  next h => exact hshort (e := 'r') (by rw [beq_iff_eq.1 h]; rfl) hbytes (by decide) (by decide) rfl
  next =>
  split at hbytes
  next h => exact hshort (e := 't') (by rw [beq_iff_eq.1 h]; rfl) hbytes (by decide) (by decide) rfl
  next =>
  split at hbytes
  next hcontrol =>
    rw [hbytes]
    simp only [List.flatMap_cons, List.flatMap_nil, encode_hexDigit (show c.toNat / 16 < 16 by omega),
      encode_hexDigit (show c.toNat % 16 < 16 by omega)]
    exact .digits hcontrol
  next hcontrol =>
    rw [hbytes, List.flatMap_singleton]
    exact .plain (Nat.not_lt.1 hcontrol) (by simpa using hquote) (by simpa using hslash)

/-- The bytes of a character that stands for itself. -/
theorem mem_encodeChar_of_plain (hcontrol : 0x20 ≤ c.toNat) (hquote : c ≠ '"') (hslash : c ≠ '\\')
    (hb : b ∈ String.utf8EncodeChar c) : b ≠ 0x22 ∧ b ≠ 0x5C ∧ 0x20 ≤ b.toNat := by
  rcases Nat.lt_or_ge c.toNat 0x80 with hlt | hge
  · rw [Utf8.utf8EncodeChar_of_lt hlt] at hb
    obtain rfl := List.mem_singleton.1 hb
    have hbyte : c.toNat.toUInt8.toNat = c.toNat :=
      UInt8.toNat_ofNat_of_lt' (Nat.lt_trans hlt (by decide))
    refine ⟨fun heq ↦ hquote (Char.toNat_inj.1 ?_), fun heq ↦ hslash (Char.toNat_inj.1 ?_), ?_⟩
    · rw [← hbyte, heq]
      rfl
    · rw [← hbyte, heq]
      rfl
    · rwa [hbyte]
  · have hle := Utf8.le_of_mem_encodeChar hge hb
    refine ⟨?_, ?_, Nat.le_trans (by decide) hle⟩ <;>
    · rintro rfl
      exact absurd hle (by decide)

/-! ### Reading bodies -/

theorem unescapedBytes?_append (h : ∀ b ∈ before, b ≠ 0x5C) :
    unescapedBytes? (before ++ bs) = (unescapedBytes? bs).map (before ++ ·) := by
  induction before with
  | nil => simp
  | cons b before ih =>
    obtain ⟨hb, hbefore⟩ := List.forall_mem_cons.1 h
    rw [List.cons_append, unescapedBytes?.eq_def]
    simp only [bne_iff_ne, ne_eq, hb, not_false_eq_true, if_true, ih hbefore, Option.map_map]
    rfl

/-- What stands for a character stands for its bytes. -/
theorem unescapedBytes?_of_escaped (h : Escaped c body) :
    unescapedBytes? (body ++ bs) = (unescapedBytes? bs).map (String.utf8EncodeChar c ++ ·) := by
  cases h with
  | plain hcontrol hquote hslash =>
    exact unescapedBytes?_append fun b hb ↦
      (mem_encodeChar_of_plain hcontrol hquote hslash hb).2.1
  | @short e hascii hletter he =>
    rw [Utf8.utf8EncodeChar_of_lt hascii, List.cons_append, List.singleton_append,
      unescapedBytes?.eq_def]
    simp [hletter, he]
  | digits hcontrol =>
    have hzero : hexValue? 0x30 = some 0 := rfl
    have hunit : hexUnit? 0x30 0x30 (hexByte (c.toNat / 16)) (hexByte (c.toNat % 16)) =
        some c.toNat := by
      rw [hexUnit?, hzero, hexValue?_hexByte (show c.toNat / 16 < 16 by omega),
        hexValue?_hexByte (show c.toNat % 16 < 16 by omega)]
      exact congrArg some (by omega)
    have htrailing : isTrailing c.toNat = false := by
      simp only [isTrailing, Bool.and_eq_false_iff, decide_eq_false_iff_not]
      omega
    have hleading : isLeading c.toNat = false := by
      simp only [isLeading, Bool.and_eq_false_iff, decide_eq_false_iff_not]
      omega
    have hcode : codePointBytes c.toNat = String.utf8EncodeChar c := by
      rw [codePointBytes, Char.ofNat_toNat]
    rw [unescapedBytes?.eq_def]
    simp [hunit, htrailing, hleading, hcode]

theorem unescapedBytes?_flatMap (cs : List Char) :
    unescapedBytes? (cs.flatMap bytesOf) = some (cs.flatMap String.utf8EncodeChar) := by
  induction cs with
  | nil => rfl
  | cons c cs ih =>
    rw [List.flatMap_cons, unescapedBytes?_of_escaped (escaped_bytesOf c), ih, List.flatMap_cons]
    rfl

/-- A text is had back from the body that it is printed as. -/
theorem unescape?_bodyOf (s : String) : unescape? (bodyOf s) = some s := by
  rw [unescape?, bodyOf, unescapedBytes?_flatMap]
  exact Utf8.decode?_encode s

/-! ### Scanning strings -/

namespace Scanner

variable {s t : State} {ts : List Token}

theorem scan?_cons (h : step? s b = some (t, ts)) :
    scan? s (b :: bs) = (scan? t bs).map (ts ++ ·) := by
  rw [scan?, h]
  exact (Option.map_eq_bind ..).symm

/-- A byte that completes no token. -/
theorem scan?_cons_of_silent (h : step? s b = some (t, [])) : scan? s (b :: bs) = scan? t bs := by
  rw [scan?_cons h]
  exact Option.map_id'

/-- A byte in the middle of a string is taken in. -/
theorem scan?_string_cons (hquote : b ≠ 0x22) (hslash : b ≠ 0x5C) (hcontrol : 0x20 ≤ b.toNat) :
    scan? (.string read) (b :: bs) = scan? (.string (b :: read)) bs := by
  have hlt : ¬ b < 0x20 := by
    rw [UInt8.lt_iff_toNat_lt]
    exact Nat.not_lt.2 hcontrol
  exact scan?_cons_of_silent (by simp [step?, hquote, hslash, hlt])

theorem scan?_string_append
    (h : ∀ b ∈ before, b ≠ 0x22 ∧ b ≠ 0x5C ∧ 0x20 ≤ b.toNat) :
    scan? (.string read) (before ++ bs) = scan? (.string (before.reverse ++ read)) bs := by
  induction before generalizing read with
  | nil => rfl
  | cons b before ih =>
    obtain ⟨⟨hquote, hslash, hcontrol⟩, hbefore⟩ := List.forall_mem_cons.1 h
    rw [List.cons_append, scan?_string_cons hquote hslash hcontrol, ih hbefore,
      List.reverse_cons, List.append_assoc]
    rfl

/-- What stands for a character leads from the middle of a string to the middle of the string. -/
theorem scan?_string_of_escaped (h : Escaped c body) :
    scan? (.string read) (body ++ bs) = scan? (.string (body.reverse ++ read)) bs := by
  have hescape : ∀ {bs}, scan? (.string read) (0x5C :: bs) = scan? (.escape (0x5C :: read)) bs :=
    scan?_cons_of_silent rfl
  cases h with
  | plain hcontrol hquote hslash =>
    exact scan?_string_append fun b hb ↦ mem_encodeChar_of_plain hcontrol hquote hslash hb
  | @short e hascii hletter he =>
    rw [List.cons_append, List.singleton_append, hescape]
    exact scan?_cons_of_silent (by simp [step?, hletter, he])
  | digits hcontrol =>
    have hzero : ∀ {k : Nat} {read : List UInt8},
        step? (.hex (k + 2) read) 0x30 = some (.hex (k + 1) (0x30 :: read), []) := fun {k read} ↦ by
      simp [step?, show (hexValue? 0x30).isSome = true from rfl]
    have hhigh : ∀ {read : List UInt8}, step? (.hex 2 read) (hexByte (c.toNat / 16)) =
        some (.hex 1 (hexByte (c.toNat / 16) :: read), []) := fun {read} ↦ by
      simp [step?, hexValue?_hexByte (show c.toNat / 16 < 16 by omega)]
    have hlow : ∀ {read : List UInt8}, step? (.hex 1 read) (hexByte (c.toNat % 16)) =
        some (.string (hexByte (c.toNat % 16) :: read), []) := fun {read} ↦ by
      simp [step?, hexValue?_hexByte (show c.toNat % 16 < 16 by omega)]
    have hmarker : step? (.escape (0x5C :: read)) 0x75 =
        some (.hex 4 (0x75 :: 0x5C :: read), []) := rfl
    simp only [List.cons_append, List.nil_append]
    rw [hescape, scan?_cons_of_silent hmarker, scan?_cons_of_silent hzero,
      scan?_cons_of_silent hzero, scan?_cons_of_silent hhigh, scan?_cons_of_silent hlow]
    rfl

theorem scan?_string_flatMap (cs : List Char) :
    scan? (.string read) (cs.flatMap bytesOf ++ bs) =
      scan? (.string ((cs.flatMap bytesOf).reverse ++ read)) bs := by
  induction cs generalizing read with
  | nil => rfl
  | cons c cs ih =>
    rw [List.flatMap_cons, List.append_assoc, scan?_string_of_escaped (escaped_bytesOf c), ih,
      List.reverse_append, List.append_assoc]

/-- A printed string is one token. -/
theorem scan?_quote (text : String) :
    scan? .between (Utf8.encode (quote text) ++ bs) =
      (scan? .between bs).map (.string (bodyOf text) :: ·) := by
  have hopen : step? .between 0x22 = some (.string [], []) := rfl
  have hclose : step? (.string (bodyOf text).reverse) 0x22 =
      some (.between, [.string (bodyOf text)]) := by
    simp [step?]
  rw [encode_quote, List.cons_append, List.append_assoc, List.singleton_append,
    scan?_cons_of_silent hopen, bodyOf, scan?_string_flatMap, List.append_nil, ← bodyOf,
    scan?_cons hclose]
  rfl

end Scanner

end VaultAccess.Json
