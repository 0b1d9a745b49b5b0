import VaultAccess.Text.Utf8

/-!
# Texts are read as they are written

The bytes of a character are one piece of whatever they begin (`pieces_encodeChar`): the first of them
announces how many there are, and the bounds of the second leave room for just the characters of that
size. So the bytes of a text are pieces that are its characters, and every text is had back from its
bytes (`decode?_encode`).

The same bounds tell the bytes of a character from its number, so a piece that is a character is one in
no other way than it is written (`exists_rest_of_pieces`), and no bytes are read as a text but its own
(`decode_eq_ok_iff`).
-/

namespace VaultAccess.Utf8

variable {a b d e : UInt8} {c : Char} {bs : List UInt8}

/-! ### Bytes of characters -/

/-- An ASCII character is one byte. -/
theorem utf8EncodeChar_of_lt (h : c.toNat < 0x80) :
    String.utf8EncodeChar c = [c.toNat.toUInt8] := by
  have hone : c.val.toNat ≤ 0x7F := Nat.le_of_lt_succ h
  rw [String.utf8EncodeChar, if_pos hone]
  rfl

/-- No byte of another character is one of ASCII. -/
theorem le_of_mem_encodeChar (h : 0x80 ≤ c.toNat) (hb : b ∈ String.utf8EncodeChar c) :
    0x80 ≤ b.toNat := by
  have hone : ¬ c.val.toNat ≤ 0x7F := Nat.not_le.2 h
  have hbyte : ∀ {n : Nat}, n < 256 → (UInt8.ofNat n).toNat = n := fun h ↦
    UInt8.toNat_ofNat_of_lt' h
  rw [String.utf8EncodeChar, if_neg hone] at hb
  split at hb
  next =>
    simp only [List.mem_cons, List.not_mem_nil, or_false] at hb
    rcases hb with rfl | rfl <;> rw [hbyte (by omega)] <;> omega
  next =>
    split at hb <;> simp only [List.mem_cons, List.not_mem_nil, or_false] at hb
    · rcases hb with rfl | rfl | rfl <;> rw [hbyte (by omega)] <;> omega
    · rcases hb with rfl | rfl | rfl | rfl <;> rw [hbyte (by omega)] <;> omega

theorem width?_of_le_one (h : a.toNat ≤ 0x7F) : width? a = some 1 := by
  simp [width?, UInt8.le_iff_toNat_le, h]

theorem width?_of_le_two (hlow : 0xC2 ≤ a.toNat) (hhigh : a.toNat ≤ 0xDF) : width? a = some 2 := by
  have hone : ¬ a.toNat ≤ 0x7F := by omega
  simp [width?, UInt8.le_iff_toNat_le, hone, hlow, hhigh]

theorem width?_of_le_three (hlow : 0xE0 ≤ a.toNat) (hhigh : a.toNat ≤ 0xEF) :
    width? a = some 3 := by
  have hone : ¬ a.toNat ≤ 0x7F := by omega
  have htwo : ¬ a.toNat ≤ 0xDF := by omega
  simp [width?, UInt8.le_iff_toNat_le, hone, htwo, hlow, hhigh]

theorem width?_of_le_four (hlow : 0xF0 ≤ a.toNat) (hhigh : a.toNat ≤ 0xF4) :
    width? a = some 4 := by
  have hone : ¬ a.toNat ≤ 0x7F := by omega
  have htwo : ¬ a.toNat ≤ 0xDF := by omega
  have hthree : ¬ a.toNat ≤ 0xEF := by omega
  simp [width?, UInt8.le_iff_toNat_le, hone, htwo, hthree, hlow, hhigh]

theorem isTail_iff : isTail b = true ↔ 0x80 ≤ b.toNat ∧ b.toNat ≤ 0xBF := by
  simp [isTail, UInt8.le_iff_toNat_le]

/-- A byte that continues a character is a second one unless the first rules it out. -/
theorem isSecond_of_isTail (h : isTail b = true) (hshort : a.toNat = 0xE0 → 0xA0 ≤ b.toNat)
    (hsurrogate : a.toNat = 0xED → b.toNat ≤ 0x9F) (hlong : a.toNat = 0xF0 → 0x90 ≤ b.toNat)
    (hlast : a.toNat = 0xF4 → b.toNat ≤ 0x8F) : isSecond a b = true := by
  obtain ⟨hlow, hhigh⟩ := isTail_iff.1 h
  simp only [isSecond, beq_iff_eq, ← UInt8.toNat_inj]
  split
  next ha => simpa [UInt8.le_iff_toNat_le, hhigh] using hshort ha
  next =>
    split
    next ha => simpa [UInt8.le_iff_toNat_le, hlow] using hsurrogate ha
    next =>
      split
      next ha => simpa [UInt8.le_iff_toNat_le, hhigh] using hlong ha
      next =>
        split
        next ha => simpa [UInt8.le_iff_toNat_le, hlow] using hlast ha
        next => exact h

/-! ### Pieces -/

theorem pieces_one (h : width? a = some 1) :
    pieces (a :: bs) = .char (Char.ofNat a.toNat) :: pieces bs := by
  rw [pieces.eq_def]
  simp only [h]

theorem pieces_two (h : width? a = some 2) (hb : isSecond a b = true) :
    pieces (a :: b :: bs) = .char (assemble (a.toNat % 32) [b]) :: pieces bs := by
  rw [pieces.eq_def]
  simp only [h, hb, if_true]

theorem pieces_three (h : width? a = some 3) (hb : isSecond a b = true) (hd : isTail d = true) :
    pieces (a :: b :: d :: bs) = .char (assemble (a.toNat % 16) [b, d]) :: pieces bs := by
  rw [pieces.eq_def]
  simp only [h, hb, hd, if_true]

theorem pieces_four (h : width? a = some 4) (hb : isSecond a b = true) (hd : isTail d = true)
    (he : isTail e = true) :
    pieces (a :: b :: d :: e :: bs) = .char (assemble (a.toNat % 8) [b, d, e]) :: pieces bs := by
  rw [pieces.eq_def]
  simp only [h, hb, hd, he, if_true]

/-- The bytes of a character are one piece. -/
theorem pieces_encodeChar : pieces (String.utf8EncodeChar c ++ bs) = .char c :: pieces bs := by
  have hvalid : c.val.toNat < 0xD800 ∨ 0xDFFF < c.val.toNat ∧ c.val.toNat < 0x110000 := c.valid
  have hself : ∀ {n : Nat}, n = c.val.toNat → Char.ofNat n = c := by
    rintro n rfl
    exact Char.ofNat_toNat c
  have hbyte : ∀ {n : Nat}, n < 256 → (UInt8.ofNat n).toNat = n := fun h ↦
    UInt8.toNat_ofNat_of_lt' h
  have htail : ∀ n, (UInt8.ofNat (n % 64 + 0x80)).toNat = n % 64 + 0x80 := fun n ↦
    hbyte (by omega)
  have hisTail : ∀ n, isTail (UInt8.ofNat (n % 64 + 0x80)) = true := fun n ↦
    isTail_iff.2 (by rw [htail]; omega)
  rw [String.utf8EncodeChar]
  split
  next hone =>
    have hlead := hbyte (show c.val.toNat < 256 by omega)
    rw [List.singleton_append, pieces_one (width?_of_le_one (by omega)), hself hlead]
  next hone =>
    split
    next htwo =>
      have hlead := hbyte (show c.val.toNat / 64 % 32 + 0xC0 < 256 by omega)
      rw [List.cons_append, List.singleton_append,
        pieces_two (width?_of_le_two (by omega) (by omega))
          (isSecond_of_isTail (hisTail _) (by omega) (by omega) (by omega) (by omega)),
        assemble, hself]
      simp only [List.foldl_cons, List.foldl_nil, hlead, htail]
      omega
    next htwo =>
      split
      next hthree =>
        have hlead := hbyte (show c.val.toNat / 4096 % 16 + 0xE0 < 256 by omega)
        have hsecond := htail (c.val.toNat / 64)
        rw [List.cons_append, List.cons_append, List.singleton_append,
          pieces_three (width?_of_le_three (by omega) (by omega))
            (isSecond_of_isTail (hisTail _) (by omega) (by omega) (by omega) (by omega)) (hisTail _),
          assemble, hself]
        simp only [List.foldl_cons, List.foldl_nil, hlead, htail]
        omega
      next hthree =>
        have hlead := hbyte (show c.val.toNat / 262144 % 8 + 0xF0 < 256 by omega)
        have hsecond := htail (c.val.toNat / 4096)
        rw [List.cons_append, List.cons_append, List.cons_append, List.singleton_append,
          pieces_four (width?_of_le_four (by omega) (by omega))
            (isSecond_of_isTail (hisTail _) (by omega) (by omega) (by omega) (by omega)) (hisTail _)
            (hisTail _),
          assemble, hself]
        simp only [List.foldl_cons, List.foldl_nil, hlead, htail]
        omega

theorem pieces_encode (cs : List Char) :
    pieces (cs.flatMap String.utf8EncodeChar) = cs.map .char := by
  induction cs with
  | nil => rfl
  | cons c cs ih => rw [List.flatMap_cons, pieces_encodeChar, ih, List.map_cons]

theorem characters_map_char {index : Nat} {cs : List Char} :
    characters index (cs.map .char) = .ok cs := by
  induction cs generalizing index with
  | nil => rfl
  | cons c cs ih =>
    rw [List.map_cons, characters, ih]
    rfl

/-- Every text is had back from its bytes. -/
theorem decode?_encode (s : String) : decode? (encode s) = some s := by
  rw [decode?, decode, encode, pieces_encode, characters_map_char]
  exact congrArg some String.ofList_toList

theorem encode_append (s t : String) : encode (s ++ t) = encode s ++ encode t := by
  rw [encode, String.toList_append, List.flatMap_append]
  rfl

/-- Different texts are written as different bytes. -/
theorem encode_inj {s t : String} : encode s = encode t ↔ s = t := by
  refine ⟨fun h ↦ ?_, congrArg encode⟩
  have hdecode : decode? (encode s) = decode? (encode t) := congrArg decode? h
  rw [decode?_encode, decode?_encode] at hdecode
  exact Option.some.inj hdecode

/-! ### Reading what was written -/

/-- A number that a character has is had back from it. -/
theorem toNat_ofNat {n : Nat} (h : n.isValidChar) : (Char.ofNat n).toNat = n := by
  rw [Char.ofNat, dif_pos h]
  rfl

/-- What the number of bytes says of the first of them. -/
theorem width?_eq_some {n : Nat} (h : width? a = some n) :
    n = 1 ∧ a.toNat ≤ 0x7F ∨ n = 2 ∧ 0xC2 ≤ a.toNat ∧ a.toNat ≤ 0xDF ∨
      n = 3 ∧ 0xE0 ≤ a.toNat ∧ a.toNat ≤ 0xEF ∨ n = 4 ∧ 0xF0 ≤ a.toNat ∧ a.toNat ≤ 0xF4 := by
  simp only [width?, UInt8.le_iff_toNat_le, Bool.and_eq_true, decide_eq_true_eq] at h
  split at h
  next ha => exact .inl ⟨(Option.some.inj h).symm, ha⟩
  next =>
    split at h
    next ha => exact .inr (.inl ⟨(Option.some.inj h).symm, ha⟩)
    next =>
      split at h
      next ha => exact .inr (.inr (.inl ⟨(Option.some.inj h).symm, ha⟩))
      next =>
        split at h
        next ha => exact .inr (.inr (.inr ⟨(Option.some.inj h).symm, ha⟩))
        next => cases h

/-- A second byte continues a character, within the bounds that the first sets. -/
theorem bounds_of_isSecond (h : isSecond a b = true) : 0x80 ≤ b.toNat ∧ b.toNat ≤ 0xBF ∧
    (a.toNat = 0xE0 → 0xA0 ≤ b.toNat) ∧ (a.toNat = 0xED → b.toNat ≤ 0x9F) ∧
    (a.toNat = 0xF0 → 0x90 ≤ b.toNat) ∧ (a.toNat = 0xF4 → b.toNat ≤ 0x8F) := by
  simp only [isSecond, isTail, beq_iff_eq, ← UInt8.toNat_inj, UInt8.reduceToNat] at h
  repeat' split at h
  all_goals
    simp only [Bool.and_eq_true, decide_eq_true_eq, UInt8.le_iff_toNat_le, UInt8.reduceToNat] at h
    omega

theorem ofNat_eq {n : Nat} (h : n = a.toNat) : UInt8.ofNat n = a := by
  rw [h]
  exact UInt8.ofNat_toNat

/-- The number that is assembled, if a character has it. -/
theorem toNat_assemble {n : Nat} (lead : Nat) (tails : List UInt8)
    (hn : tails.foldl (fun n b ↦ n * 64 + b.toNat % 64) lead = n)
    (h : n < 0xD800 ∨ 0xDFFF < n ∧ n < 0x110000) : (assemble lead tails).val.toNat = n := by
  rw [assemble, hn]
  exact toNat_ofNat h

/-! ### Characters from bytes -/

theorem encodeChar_one (h : width? a = some 1) :
    String.utf8EncodeChar (Char.ofNat a.toNat) = [a] := by
  have ha := width?_eq_some h
  have hself : (Char.ofNat a.toNat).toNat = a.toNat := toNat_ofNat (.inl (by omega))
  rw [utf8EncodeChar_of_lt (by omega), hself]
  exact congrArg (· :: []) (ofNat_eq rfl)

theorem encodeChar_two (h : width? a = some 2) (hb : isSecond a b = true) :
    String.utf8EncodeChar (assemble (a.toNat % 32) [b]) = [a, b] := by
  have ha := width?_eq_some h
  obtain ⟨hlow, hhigh, -⟩ := bounds_of_isSecond hb
  have hself := toNat_assemble (n := a.toNat % 32 * 64 + b.toNat % 64)
    (a.toNat % 32) [b] rfl (by omega)
  rw [String.utf8EncodeChar, hself, if_neg (by omega), if_pos (by omega),
    ofNat_eq (a := a) (by omega), ofNat_eq (a := b) (by omega)]

theorem encodeChar_three (h : width? a = some 3) (hb : isSecond a b = true)
    (hd : isTail d = true) :
    String.utf8EncodeChar (assemble (a.toNat % 16) [b, d]) = [a, b, d] := by
  have ha := width?_eq_some h
  obtain ⟨hlow, hhigh, hshort, hsurrogate, -⟩ := bounds_of_isSecond hb
  obtain ⟨hlow', hhigh'⟩ := isTail_iff.1 hd
  have hself := toNat_assemble
    (n := (a.toNat % 16 * 64 + b.toNat % 64) * 64 + d.toNat % 64)
    (a.toNat % 16) [b, d] rfl (by omega)
  rw [String.utf8EncodeChar, hself, if_neg (by omega), if_neg (by omega), if_pos (by omega),
    ofNat_eq (a := a) (by omega), ofNat_eq (a := b) (by omega), ofNat_eq (a := d) (by omega)]

theorem encodeChar_four (h : width? a = some 4) (hb : isSecond a b = true)
    (hd : isTail d = true) (he : isTail e = true) :
    String.utf8EncodeChar (assemble (a.toNat % 8) [b, d, e]) = [a, b, d, e] := by
  have ha := width?_eq_some h
  obtain ⟨hlow, hhigh, -, -, hlong, hlast⟩ := bounds_of_isSecond hb
  obtain ⟨hlow', hhigh'⟩ := isTail_iff.1 hd
  obtain ⟨hlow'', hhigh''⟩ := isTail_iff.1 he
  have hself := toNat_assemble
    (n := ((a.toNat % 8 * 64 + b.toNat % 64) * 64 + d.toNat % 64) * 64 + e.toNat % 64)
    (a.toNat % 8) [b, d, e] rfl (by omega)
  rw [String.utf8EncodeChar, hself, if_neg (by omega), if_neg (by omega), if_neg (by omega),
    ofNat_eq (a := a) (by omega), ofNat_eq (a := b) (by omega), ofNat_eq (a := d) (by omega),
    ofNat_eq (a := e) (by omega)]

/-- A first piece that is a character is its bytes, and the other pieces are those of the rest. -/
theorem exists_rest_of_pieces {ps : List Piece} (h : pieces bs = .char c :: ps) :
    ∃ rest, bs = String.utf8EncodeChar c ++ rest ∧ pieces rest = ps := by
  have hpiece : ∀ {char : Char} {bytes rest : List UInt8},
      String.utf8EncodeChar char = bytes → Piece.char char :: pieces rest = .char c :: ps →
        ∃ rest', bytes ++ rest = String.utf8EncodeChar c ++ rest' ∧ pieces rest' = ps := by
    rintro char bytes rest rfl h
    obtain ⟨hchar, rfl⟩ := List.cons.inj h
    obtain rfl := Piece.char.inj hchar
    exact ⟨rest, rfl, rfl⟩
  revert h
  fun_cases pieces bs <;> intro h
  case case3 a rest ha => exact hpiece (encodeChar_one ha) h
  case case5 a ha b rest hb => exact hpiece (encodeChar_two ha hb) h
  case case9 a ha b hb d rest hd => exact hpiece (encodeChar_three ha hb hd) h
  case case15 a width hone htwo hthree ha b hb d hd e rest he =>
    obtain ⟨h, -⟩ | ⟨h, -⟩ | ⟨h, -⟩ | ⟨rfl, -⟩ := width?_eq_some ha
    · exact (hone h).elim
    · exact (htwo h).elim
    · exact (hthree h).elim
    · exact hpiece (encodeChar_four ha hb hd he) h
  all_goals cases h

theorem eq_nil_of_pieces (h : pieces bs = []) : bs = [] := by
  revert h
  fun_cases pieces bs <;> intro h
  case case1 => rfl
  all_goals cases h

/-- Bytes whose pieces are all characters are the bytes of these characters. -/
theorem eq_flatMap_of_pieces {cs : List Char} (h : pieces bs = cs.map .char) :
    bs = cs.flatMap String.utf8EncodeChar := by
  induction cs generalizing bs with
  | nil => exact eq_nil_of_pieces h
  | cons c cs ih =>
    obtain ⟨rest, rfl, hrest⟩ := exists_rest_of_pieces h
    rw [List.flatMap_cons, ← ih hrest]

/-- Only characters are taken without a fault. -/
theorem eq_map_of_characters {index : Nat} {ps : List Piece} {cs : List Char}
    (h : characters index ps = .ok cs) : ps = cs.map .char := by
  induction ps generalizing index cs with
  | nil =>
    cases h
    rfl
  | cons p ps ih =>
    cases p with
    | malformed | truncated => cases h
    | char c =>
      rw [characters] at h
      cases hrest : characters (index + c.utf8Size) ps with
      | error fault =>
        rw [hrest] at h
        cases h
      | ok more =>
        rw [hrest] at h
        obtain rfl := Except.ok.inj h
        rw [List.map_cons, ← ih hrest]

/-- Bytes are read as a text exactly if the text is written as them. -/
theorem decode_eq_ok_iff {s : String} : decode bs = .ok s ↔ bs = encode s := by
  constructor
  · intro h
    rw [decode] at h
    cases hchars : characters 0 (pieces bs) with
    | error fault =>
      rw [hchars] at h
      cases h
    | ok cs =>
      rw [hchars] at h
      obtain rfl := Except.ok.inj h
      rw [encode, String.toList_ofList]
      exact eq_flatMap_of_pieces (eq_map_of_characters hchars)
  · rintro rfl
    rw [decode, encode, pieces_encode, characters_map_char]
    exact congrArg Except.ok String.ofList_toList

end VaultAccess.Utf8
