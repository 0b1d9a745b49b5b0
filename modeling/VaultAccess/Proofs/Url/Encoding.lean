import VaultAccess.Proofs.Text.Utf8
import VaultAccess.Url.Percent

/-!
# Encoded texts

What `encode` writes consists of characters that need not be encoded: those that were left as they
are, the percent sign and digits (`isEncoded_of_mem_encode`). A text of such characters is encoded
as itself (`encode_eq_self`), so a part of a URL that has been printed can be read as it is.

A text without percent signs comes back when its encoded form is decoded (`decode_encode`), so
different texts have different encoded forms.
-/

namespace VaultAccess.Url

variable {isEncoded : Char → Bool} {c : Char} {cs ds : List Char} {b : UInt8} {bs : List UInt8}

/-! ### Characters of encoded texts -/

/-- The characters that bytes are written with. -/
def byteChars : List Char :=
  ['%', '0', '1', '2', '3', '4', '5', '6', '7', '8', '9', 'A', 'B', 'C', 'D', 'E', 'F']

theorem hexDigit_mem {n : Nat} (h : n < 16) : hexDigit n ∈ byteChars := by
  have hall : ∀ n < 16, hexDigit n ∈ byteChars := by decide
  exact hall n h

/-- A byte is encoded as a mark and two digits. -/
theorem mem_byteChars_of_encodeByte (h : c ∈ encodeByte b) : c ∈ byteChars := by
  have hb : b.toNat < 256 := b.toNat_lt
  simp only [encodeByte, List.mem_cons, List.not_mem_nil, or_false] at h
  rcases h with rfl | rfl | rfl
  · decide
  · exact hexDigit_mem (by omega)
  · exact hexDigit_mem (by omega)

/-- An encoded text has characters of the text that are left as they are, and those that bytes are
written with. -/
theorem mem_encode (h : c ∈ encode isEncoded cs) :
    c ∈ cs ∧ isEncoded c = false ∨ c ∈ byteChars := by
  obtain ⟨d, hd, hc⟩ := List.mem_flatMap.1 h
  rw [encodeChar] at hc
  split at hc
  next =>
    obtain ⟨b, -, hb⟩ := List.mem_flatMap.1 hc
    exact .inr (mem_byteChars_of_encodeByte hb)
  next hnot =>
    obtain rfl := List.mem_singleton.1 hc
    exact .inl ⟨hd, by simpa using hnot⟩

/-- None of the characters that bytes are written with is encoded. -/
def Spares (isEncoded : Char → Bool) : Prop := (byteChars.all fun c ↦ !isEncoded c) = true

theorem spares_pathSet : Spares pathSet := rfl

theorem spares_userinfoSet : Spares userinfoSet := rfl

theorem spares_specialQuerySet : Spares specialQuerySet := rfl

theorem spares_fragmentSet : Spares fragmentSet := rfl

/-- An encoded text has no character that would be encoded. -/
theorem isEncoded_of_mem_encode (hspares : Spares isEncoded) (h : c ∈ encode isEncoded cs) :
    isEncoded c = false := by
  rcases mem_encode h with ⟨-, hc⟩ | hc
  · exact hc
  · simpa using List.all_eq_true.1 hspares c hc

/-! ### Texts that stand for themselves -/

theorem encode_append : encode isEncoded (cs ++ ds) = encode isEncoded cs ++ encode isEncoded ds :=
  List.flatMap_append

/-- A text without anything to encode is left as it is. -/
theorem encode_eq_self (h : ∀ c ∈ cs, isEncoded c = false) : encode isEncoded cs = cs := by
  induction cs with
  | nil => rfl
  | cons c cs ih =>
    obtain ⟨hc, hcs⟩ := List.forall_mem_cons.1 h
    rw [← List.singleton_append, encode_append, ih hcs]
    simp [encode, encodeChar, hc]

/-! ### Decoding -/

/-- A byte that is no percent sign stands for itself. -/
theorem decodeBytes_cons_of_ne (hb : b ≠ 0x25) : decodeBytes (b :: bs) = b :: decodeBytes bs := by
  match bs with
  | [] => rfl
  | [_] => rfl
  | _ :: _ :: _ => simp [decodeBytes, hb]

/-- A hexadecimal digit is one byte, and is read as what it was printed for. -/
theorem hexDigitValue?_hexDigit {n : Nat} (h : n < 16) :
    String.utf8EncodeChar (hexDigit n) = [(hexDigit n).toNat.toUInt8] ∧
      hexDigitValue? (hexDigit n).toNat.toUInt8 = some n := by
  have hall : ∀ n < 16,
      String.utf8EncodeChar (hexDigit n) = [(hexDigit n).toNat.toUInt8] ∧
        hexDigitValue? (hexDigit n).toNat.toUInt8 = some n := by decide
  exact hall n h

/-- A byte that is written is read back. -/
theorem decodeBytes_encodeByte :
    decodeBytes ((encodeByte b).flatMap String.utf8EncodeChar ++ bs) = b :: decodeBytes bs := by
  have hb : b.toNat < 256 := b.toNat_lt
  obtain ⟨hhigh, hhigh'⟩ := hexDigitValue?_hexDigit (show b.toNat / 16 < 16 by omega)
  obtain ⟨hlow, hlow'⟩ := hexDigitValue?_hexDigit (show b.toNat % 16 < 16 by omega)
  have hpercent : String.utf8EncodeChar '%' = [0x25] := by decide
  have hwhole : b.toNat / 16 * 16 + b.toNat % 16 = b.toNat := by omega
  simp only [encodeByte, List.flatMap_cons, List.flatMap_nil, hpercent, hhigh, hlow,
    List.cons_append, List.nil_append, decodeBytes, BEq.rfl, hhigh', hlow', hwhole]
  simp

/-- Bytes that were encoded are decoded to themselves. -/
theorem decodeBytes_encodeBytes {before : List UInt8} :
    decodeBytes ((before.flatMap encodeByte).flatMap String.utf8EncodeChar ++ bs) =
      before ++ decodeBytes bs := by
  induction before with
  | nil => rfl
  | cons b before ih =>
    rw [List.flatMap_cons, List.flatMap_append, List.append_assoc, decodeBytes_encodeByte, ih,
      List.cons_append]

/-- A character that is no percent sign comes back when its encoded form is decoded, whether it had
to be encoded or not. -/
theorem decodeBytes_encodeChar (hascii : ∀ c, isEncoded c = false → c.toNat < 0x80)
    (hc : c ≠ '%') :
    decodeBytes ((encodeChar isEncoded c).flatMap String.utf8EncodeChar ++ bs) =
      String.utf8EncodeChar c ++ decodeBytes bs := by
  rw [encodeChar]
  split
  next => exact decodeBytes_encodeBytes
  next hnot =>
    have hlt : c.toNat < 0x80 := hascii c (by simpa using hnot)
    have hbyte : c.toNat.toUInt8 ≠ 0x25 := by
      intro heq
      refine hc (Char.toNat_inj.1 ?_)
      have := congrArg UInt8.toNat heq
      simpa [Nat.mod_eq_of_lt (show c.toNat < 256 by omega)] using this
    rw [List.flatMap_singleton, Utf8.utf8EncodeChar_of_lt hlt]
    exact decodeBytes_cons_of_ne hbyte

/-- A text without percent signs comes back when its encoded form is decoded. -/
theorem decode_encode (hascii : ∀ c, isEncoded c = false → c.toNat < 0x80) (hcs : '%' ∉ cs) :
    decode (String.ofList (encode isEncoded cs)) = Utf8.encode (String.ofList cs) := by
  rw [decode, Utf8.encode, Utf8.encode, String.toList_ofList, String.toList_ofList]
  -- what follows a character is arbitrary: a byte is decoded without looking behind it
  induction cs with
  | nil => rfl
  | cons c cs ih =>
    obtain ⟨hc, hcs⟩ := List.ne_and_not_mem_of_not_mem_cons hcs
    rw [encode, List.flatMap_cons, List.flatMap_append, decodeBytes_encodeChar hascii (Ne.symm hc),
      ← encode, ih hcs, List.flatMap_cons]

end VaultAccess.Url
