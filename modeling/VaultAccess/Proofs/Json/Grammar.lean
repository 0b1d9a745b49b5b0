import Mathlib.Data.List.Chain
import VaultAccess.Json.Tree
import VaultAccess.Proofs.Json.Objects
import VaultAccess.Proofs.Text.Decimal

/-!
# Every document is read as what it writes

The grammar of documents, written without the scanner and the builder: the tokens of a tree
(`Tree.tokens`), and the bytes that spell tokens with blanks between and around them (`Lexes`). A
document that writes a tree is read as that tree (`Tree.Writes.read?_eq`), however deep it nests and
whatever is in it, so that what is said of trees is said of the texts of documents.

Nothing in the grammar keeps two numbers in a row apart, and read on their own they would be one. In
a document they cannot meet: behind a finished value the builder takes no other
(`isChain_of_foldlM`), so what follows a word or a number ends it.
-/

namespace VaultAccess.Json

open Numeral (IsDigits)

variable {bs bytes : List UInt8} {ts : List Token} {t : Tree}

/-! ### Numbers -/

namespace Literal

/-- The digits before a point: there is no zero in front of others. -/
structure IsWhole (cs : List Char) : Prop where
  isDigits : IsDigits cs
  eq_zero : cs.head? = some '0' → cs = ['0']

/-- The part from the point on. -/
inductive SpellsFraction : Option (List Char) → List Char → Prop
  | absent : SpellsFraction none []
  | present {ds : List Char} (h : IsDigits ds) : SpellsFraction (some ds) ('.' :: ds)

/-- The part from the marker on. -/
inductive SpellsExponent : Option (Bool × List Char) → List Char → Prop
  | absent : SpellsExponent none []
  | plain {marker : Char} {ds : List Char} (hmarker : marker = 'e' ∨ marker = 'E')
      (h : IsDigits ds) : SpellsExponent (some (false, ds)) (marker :: ds)
  | plus {marker : Char} {ds : List Char} (hmarker : marker = 'e' ∨ marker = 'E')
      (h : IsDigits ds) : SpellsExponent (some (false, ds)) (marker :: '+' :: ds)
  | minus {marker : Char} {ds : List Char} (hmarker : marker = 'e' ∨ marker = 'E')
      (h : IsDigits ds) : SpellsExponent (some (true, ds)) (marker :: '-' :: ds)

/-- A number as it is written. -/
inductive Spells : Literal → List Char → Prop
  | mk {negative : Bool} {whole after marked : List Char} {fraction : Option (List Char)}
      {exponent : Option (Bool × List Char)} (hwhole : IsWhole whole)
      (hfraction : SpellsFraction fraction after) (hexponent : SpellsExponent exponent marked) :
      Spells ⟨negative, whole, fraction, exponent⟩
        ((if negative then ['-'] else []) ++ (whole ++ (after ++ marked)))

variable {cs ds after marked : List Char} {fraction : Option (List Char)}
  {exponent : Option (Bool × List Char)} {l : Literal}

theorem head_ne_of_isDigits (h : IsDigits ds) : ∀ c ∈ ds.head?, c ≠ '-' ∧ c ≠ '+' := by
  intro c hc
  have hdigit := h.isDigit c (List.mem_of_mem_head? hc)
  constructor <;>
  · rintro rfl
    cases hdigit

/-- Digits behind a marker. -/
theorem some_of_isDigits {negative : Bool} (h : IsDigits ds) :
    (if (ds.isEmpty || !ds.all fun d ↦ (Numeral.digit? d).isSome) = true then none
      else some (some (negative, ds))) = some (some (negative, ds)) := by
  have hall : ds.all (fun d ↦ (Numeral.digit? d).isSome) = true :=
    List.all_eq_true.2 fun d hd ↦ (Numeral.isSome_digit? d).trans (h.isDigit d hd)
  rw [hall, Bool.not_true, Bool.or_false, List.isEmpty_eq_false_iff.2 h.ne_nil]
  rfl

theorem SpellsExponent.exponentPart?_eq (h : SpellsExponent exponent cs) :
    Decimal.exponentPart? cs = some exponent := by
  cases h with
  | absent => rfl
  | @plain marker ds hmarker h =>
    have hhead := head_ne_of_isDigits h
    rw [Decimal.exponentPart?.eq_def]
    dsimp only
    rw [if_pos (by simpa using hmarker)]
    split
    · exact absurd rfl (hhead _ rfl).1
    · exact absurd rfl (hhead _ rfl).2
    · exact some_of_isDigits h
  | plus hmarker h =>
    rw [Decimal.exponentPart?, if_pos (by simpa using hmarker)]
    exact some_of_isDigits h
  | minus hmarker h =>
    rw [Decimal.exponentPart?, if_pos (by simpa using hmarker)]
    exact some_of_isDigits h

/-- What follows a fraction, or stands in its place, starts with no digit and no point. -/
theorem SpellsExponent.head (h : SpellsExponent exponent cs) :
    ∀ c ∈ cs.head?, c.isDigit = false ∧ c ≠ '.' := by
  cases h with
  | absent => nofun
  | plain hmarker | plus hmarker | minus hmarker =>
    rintro c ⟨⟩
    rcases hmarker with rfl | rfl <;> decide

theorem SpellsFraction.fractionPart?_eq (h : SpellsFraction fraction after)
    (hexponent : SpellsExponent exponent marked) :
    fractionPart? (after ++ marked) = some (fraction, marked) := by
  cases h with
  | absent =>
    rw [List.nil_append]
    match marked, hexponent.head with
    | [], _ => rfl
    | c :: _, hhead =>
      have hpoint : c ≠ '.' := (hhead c rfl).2
      simp [fractionPart?, hpoint]
  | @present ds h =>
    have hspan : Decimal.spanDigits (ds ++ marked) = (ds, marked) :=
      Decimal.spanDigits_eq_iff.2 ⟨rfl, h.isDigit, fun c hc ↦ (hexponent.head c hc).1⟩
    rw [List.cons_append, fractionPart?, hspan]
    dsimp only
    rw [List.isEmpty_eq_false_iff.2 h.ne_nil]
    rfl

theorem SpellsFraction.head (h : SpellsFraction fraction after)
    (hexponent : SpellsExponent exponent marked) :
    ∀ c ∈ (after ++ marked).head?, c.isDigit = false := by
  cases h with
  | absent => exact fun c hc ↦ (hexponent.head c hc).1
  | present =>
    rintro c ⟨⟩
    rfl

/-- A number is read as it is written. -/
theorem Spells.ofChars?_eq (h : Spells l cs) : ofChars? cs = some l := by
  obtain @⟨negative, whole, after, marked, fraction, exponent, hwhole, hfraction, hexponent⟩ := h
  have hspan : Decimal.spanDigits (whole ++ (after ++ marked)) = (whole, after ++ marked) :=
    Decimal.spanDigits_eq_iff.2 ⟨rfl, hwhole.isDigits.isDigit, hfraction.head hexponent⟩
  have hlegal : (whole.isEmpty || (whole.head? == some '0' && whole.length > 1)) = false := by
    rw [List.isEmpty_eq_false_iff.2 hwhole.isDigits.ne_nil, Bool.false_or, Bool.and_eq_false_iff,
      beq_eq_false_iff_ne]
    by_cases hzero : whole.head? = some '0'
    · rw [hwhole.eq_zero hzero]
      exact .inr rfl
    · exact .inl hzero
  cases negative with
  | true =>
    simp only [if_true, List.cons_append, List.nil_append]
    rw [ofChars?, hspan]
    dsimp only
    rw [hlegal]
    simp [hfraction.fractionPart?_eq hexponent, hexponent.exponentPart?_eq]
  | false =>
    have hhead := head_ne_of_isDigits hwhole.isDigits
    simp only [Bool.false_eq_true, if_false, List.nil_append]
    rw [ofChars?, hspan]
    · dsimp only
      rw [hlegal]
      simp [hfraction.fractionPart?_eq hexponent, hexponent.exponentPart?_eq]
    · intro rest hrest
      obtain ⟨c, cs, rfl⟩ := List.exists_cons_of_ne_nil hwhole.isDigits.ne_nil
      exact (hhead c rfl).1 (List.cons.inj hrest).1

/-- The characters of numbers. -/
theorem Spells.isNumeric (h : Spells l cs) :
    ∀ c ∈ cs, c.isDigit = true ∨ c ∈ ['-', '+', '.', 'e', 'E'] := by
  obtain ⟨hwhole, hfraction, hexponent⟩ := h
  have hdigits : ∀ {ds : List Char}, IsDigits ds →
      ∀ c ∈ ds, c.isDigit = true ∨ c ∈ ['-', '+', '.', 'e', 'E'] :=
    fun h c hc ↦ .inl (h.isDigit c hc)
  simp only [List.forall_mem_append]
  refine ⟨?_, hdigits hwhole.isDigits, ?_, ?_⟩
  · split <;> simp
  · cases hfraction with
    | absent => nofun
    | present h => exact List.forall_mem_cons.2 ⟨by decide, hdigits h⟩
  · cases hexponent with
    | absent => nofun
    | plain hmarker h =>
      exact List.forall_mem_cons.2 ⟨by rcases hmarker with rfl | rfl <;> decide, hdigits h⟩
    | plus hmarker h | minus hmarker h =>
      exact List.forall_mem_cons.2 ⟨by rcases hmarker with rfl | rfl <;> decide,
        List.forall_mem_cons.2 ⟨by decide, hdigits h⟩⟩

/-- A number begins with a digit or a sign. -/
theorem Spells.head (h : Spells l cs) :
    ∃ c rest, cs = c :: rest ∧ (c.isDigit = true ∨ c = '-') := by
  obtain @⟨negative, _, _, _, _, _, hwhole, -, -⟩ := h
  cases negative with
  | true => exact ⟨_, _, rfl, .inr rfl⟩
  | false =>
    obtain ⟨c, rest, rfl⟩ := List.exists_cons_of_ne_nil hwhole.isDigits.ne_nil
    exact ⟨c, _, rfl, .inl (hwhole.isDigits.isDigit c List.mem_cons_self)⟩

end Literal

/-! ### Strings -/

/-- The bytes between the quotes of a string. -/
inductive IsBody : List UInt8 → Prop
  | nil : IsBody []
  | plain {b : UInt8} {bs : List UInt8} (hquote : b ≠ 0x22) (hslash : b ≠ 0x5C)
      (hcontrol : 0x20 ≤ b.toNat) (h : IsBody bs) : IsBody (b :: bs)
  | short {e : UInt8} {bs : List UInt8}
      (he : e ∈ [0x22, 0x5C, 0x2F, 0x62, 0x66, 0x6E, 0x72, 0x74]) (h : IsBody bs) :
      IsBody (0x5C :: e :: bs)
  | digits {h₁ h₂ h₃ h₄ : UInt8} {bs : List UInt8}
      (hdigits : ∀ d ∈ [h₁, h₂, h₃, h₄], (hexValue? d).isSome = true) (h : IsBody bs) :
      IsBody (0x5C :: 0x75 :: h₁ :: h₂ :: h₃ :: h₄ :: bs)

theorem IsBody.of_plain
    (h : (bs.all fun b ↦ b != 0x22 && b != 0x5C && decide (0x20 ≤ b.toNat)) = true) : IsBody bs := by
  induction bs with
  | nil => exact .nil
  | cons b bs ih =>
    simp only [List.all_cons, Bool.and_eq_true, bne_iff_ne, decide_eq_true_eq] at h
    obtain ⟨⟨⟨hquote, hslash⟩, hcontrol⟩, hrest⟩ := h
    exact .plain hquote hslash hcontrol (ih hrest)

/-! ### Tokens -/

/-- The byte of a token that is one. -/
inductive Token.IsMark : Token → UInt8 → Prop
  | openObject : IsMark .openObject 0x7B
  | closeObject : IsMark .closeObject 0x7D
  | openArray : IsMark .openArray 0x5B
  | closeArray : IsMark .closeArray 0x5D
  | colon : IsMark .colon 0x3A
  | comma : IsMark .comma 0x2C

/-- The bytes of a token that is a word or a number. -/
inductive Token.IsRun : Token → List UInt8 → Prop
  | null : IsRun .null (Utf8.encode "null")
  | true : IsRun (.bool true) (Utf8.encode "true")
  | false : IsRun (.bool false) (Utf8.encode "false")
  | number {l : Literal} {bytes : List UInt8} (h : l.Spells (Scanner.characters bytes)) :
      IsRun (.number l) bytes

/-- Bytes spell tokens, with blanks between and around them. -/
inductive Lexes : List Token → List UInt8 → Prop
  | nil : Lexes [] []
  | blank {b : UInt8} {ts : List Token} {bs : List UInt8} (hb : b ∈ [0x20, 0x09, 0x0A, 0x0D])
      (h : Lexes ts bs) : Lexes ts (b :: bs)
  | mark {t : Token} {b : UInt8} {ts : List Token} {bs : List UInt8} (hmark : t.IsMark b)
      (h : Lexes ts bs) : Lexes (t :: ts) (b :: bs)
  | string {body : List UInt8} {ts : List Token} {bs : List UInt8} (hbody : IsBody body)
      (h : Lexes ts bs) : Lexes (.string body :: ts) (0x22 :: (body ++ 0x22 :: bs))
  | run {t : Token} {word : List UInt8} {ts : List Token} {bs : List UInt8} (hrun : t.IsRun word)
      (h : Lexes ts bs) : Lexes (t :: ts) (word ++ bs)

namespace Scanner

variable {body read word : List UInt8}

theorem scan?_body (h : IsBody body) :
    scan? (.string read) (body ++ bs) = scan? (.string (body.reverse ++ read)) bs := by
  induction h generalizing read with
  | nil => rfl
  | plain hquote hslash hcontrol _ ih =>
    rw [List.cons_append, scan?_string_cons hquote hslash hcontrol, ih, List.reverse_cons,
      List.append_assoc]
    rfl
  | @short e body he _ ih =>
    have hescape : step? (.string read) 0x5C = some (.escape (0x5C :: read), []) := rfl
    have hshort : step? (.escape (0x5C :: read)) e = some (.string (e :: 0x5C :: read), []) := by
      simp only [List.mem_cons, List.not_mem_nil, or_false] at he
      rcases he with rfl | rfl | rfl | rfl | rfl | rfl | rfl | rfl <;> rfl
    rw [List.cons_append, List.cons_append, scan?_cons_of_silent hescape,
      scan?_cons_of_silent hshort, ih]
    simp
  | @digits h₁ h₂ h₃ h₄ body hdigits _ ih =>
    have hescape : step? (.string read) 0x5C = some (.escape (0x5C :: read), []) := rfl
    have hmarker : step? (.escape (0x5C :: read)) 0x75 =
      some (.hex 4 (0x75 :: 0x5C :: read), []) := rfl
    have hnext : ∀ {d : UInt8} {k : Nat} {read : List UInt8}, d ∈ [h₁, h₂, h₃, h₄] →
        step? (.hex (k + 2) read) d = some (.hex (k + 1) (d :: read), []) := fun hd ↦ by
      simp [step?, hdigits _ hd]
    have hlast : ∀ {d : UInt8} {read : List UInt8}, d ∈ [h₁, h₂, h₃, h₄] →
        step? (.hex 1 read) d = some (.string (d :: read), []) := fun hd ↦ by
      simp [step?, hdigits _ hd]
    simp only [List.cons_append]
    rw [scan?_cons_of_silent hescape, scan?_cons_of_silent hmarker,
      scan?_cons_of_silent (hnext List.mem_cons_self), scan?_cons_of_silent (hnext (by simp)),
      scan?_cons_of_silent (hnext (by simp)), scan?_cons_of_silent (hlast (by simp)), ih]
    simp

theorem scan?_string (h : IsBody body) :
    scan? .between (0x22 :: (body ++ 0x22 :: bs)) =
      (scan? .between bs).map (.string body :: ·) := by
  have hopen : step? .between 0x22 = some (.string [], []) := rfl
  have hclose : step? (.string body.reverse) 0x22 = some (.between, [.string body]) := by
    simp [step?]
  rw [scan?_cons_of_silent hopen, scan?_body h, List.append_nil, scan?_cons hclose]
  rfl

/-! ### Words and numbers -/

/-- The bytes of a word or a number are taken in one after the other. -/
theorem scan?_taken (state : List UInt8 → State)
    (h : ∀ b ∈ word, ∀ read, step? (state read) b = some (state (b :: read), [])) :
    scan? (state read) (word ++ bs) = scan? (state (word.reverse ++ read)) bs := by
  induction word generalizing read with
  | nil => rfl
  | cons b word ih =>
    obtain ⟨hb, hword⟩ := List.forall_mem_cons.1 h
    rw [List.cons_append, scan?_cons_of_silent (hb read), ih hword, List.reverse_cons,
      List.append_assoc]
    rfl

/-- A word is read up to where something follows that is no letter. -/
theorem scan?_letters {t : Token} {first : UInt8}
    (hletters : (first :: word).all isLetter = true) (hfirst : isBlank first = false)
    (hword : word? (first :: word).reverse = some t) (h : ∀ b ∈ bs.head?, isLetter b = false) :
    scan? .between (first :: (word ++ bs)) = (scan? .between bs).map (t :: ·) := by
  obtain ⟨hletter, hrest⟩ := List.forall_mem_cons.1 (List.all_eq_true.1 hletters)
  have hbegin : step? .between first = some (.word [first], []) := by
    simp [step?, between?, hfirst, hletter]
  rw [scan?_cons_of_silent hbegin, scan?_taken .word fun b hb read ↦ if_pos (hrest b hb)]
  exact scan?_word (by rwa [List.reverse_cons] at hword) h

/-- What is said of bytes as characters can be found out one byte at a time. -/
theorem forall_byte {p : UInt8 → Prop} (h : ∀ n < 256, p (UInt8.ofNat n)) (b : UInt8) : p b := by
  have hb := h b.toNat b.toNat_lt
  rwa [UInt8.ofNat_toNat] at hb

theorem isNumeric_of_character {b : UInt8} (h : (Char.ofNat b.toNat).isDigit = true ∨
    Char.ofNat b.toNat ∈ ['-', '+', '.', 'e', 'E']) : isNumeric b = true := by
  revert h
  exact forall_byte (p := fun b ↦ ((Char.ofNat b.toNat).isDigit = true ∨
    Char.ofNat b.toNat ∈ ['-', '+', '.', 'e', 'E']) → isNumeric b = true) (by decide +kernel) b

theorem startsNumber_of_character {b : UInt8}
    (h : (Char.ofNat b.toNat).isDigit = true ∨ Char.ofNat b.toNat = '-') :
    step? .between b = some (.number [b], []) := by
  revert h
  exact forall_byte (p := fun b ↦ ((Char.ofNat b.toNat).isDigit = true ∨
    Char.ofNat b.toNat = '-') → step? .between b = some (.number [b], [])) (by decide +kernel) b

/-- A number is read up to where something follows that may not stand in one. -/
theorem scan?_number {l : Literal} (hspells : l.Spells (characters word))
    (h : ∀ b ∈ bs.head?, isNumeric b = false) :
    scan? .between (word ++ bs) = (scan? .between bs).map (.number l :: ·) := by
  cases word with
  | nil =>
    obtain ⟨c, rest, hnil, -⟩ := hspells.head
    cases hnil
  | cons first word =>
    have hall : ∀ b ∈ first :: word, isNumeric b = true := fun b hb ↦
      isNumeric_of_character (hspells.isNumeric _ (List.mem_map_of_mem hb))
    have hbegin : step? .between first = some (.number [first], []) := by
      obtain ⟨c, rest, hcons, hc⟩ := hspells.head
      obtain rfl := (List.cons.inj hcons).1
      exact startsNumber_of_character hc
    have hnumber : number? (word.reverse ++ [first]) = some (.number l) := by
      rw [number?, List.reverse_append, List.reverse_reverse]
      exact congrArg (Option.map Token.number) hspells.ofChars?_eq
    obtain ⟨-, hword⟩ := List.forall_mem_cons.1 hall
    rw [List.cons_append, scan?_cons_of_silent hbegin,
      scan?_taken .number fun b hb read ↦ if_pos (hword b hb)]
    refine scan?_ended (by rw [finish?, hnumber]; rfl) fun b hb ↦ ?_
    rw [step?, if_neg (by simp [h b hb]), hnumber]
    exact (Option.map_eq_bind ..).symm

theorem scan?_run {t : Token} (hrun : t.IsRun word)
    (h : ∀ b ∈ bs.head?, isLetter b = false ∧ isNumeric b = false) :
    scan? .between (word ++ bs) = (scan? .between bs).map (t :: ·) := by
  cases hrun with
  | null => exact scan?_null fun b hb ↦ (h b hb).1
  | true =>
    show scan? .between (0x74 :: ([0x72, 0x75, 0x65] ++ bs)) = _
    exact scan?_letters rfl rfl rfl fun b hb ↦ (h b hb).1
  | false =>
    show scan? .between (0x66 :: ([0x61, 0x6C, 0x73, 0x65] ++ bs)) = _
    exact scan?_letters rfl rfl rfl fun b hb ↦ (h b hb).1
  | number hspells => exact scan?_number hspells fun b hb ↦ (h b hb).2

/-- No word and no number follows directly. -/
def Parts (t u : Token) : Prop := ¬ ((∃ word, t.IsRun word) ∧ ∃ word, u.IsRun word)

/-- What begins with no word and no number ends either. -/
theorem head_of_lexes (h : Lexes ts bs) (hhead : ∀ t ∈ ts.head?, ∀ word, ¬ t.IsRun word) :
    ∀ b ∈ bs.head?, isLetter b = false ∧ isNumeric b = false := by
  cases h with
  | nil => nofun
  | blank hb =>
    rintro b ⟨⟩
    simp only [List.mem_cons, List.not_mem_nil, or_false] at hb
    rcases hb with rfl | rfl | rfl | rfl <;> decide
  | mark hmark =>
    rintro b ⟨⟩
    cases hmark <;> decide
  | string =>
    rintro b ⟨⟩
    decide
  | run hrun => exact absurd hrun (hhead _ rfl _)

/-- Tokens are scanned as they are spelled, if no two words or numbers follow one another. -/
theorem scan?_of_lexes (h : Lexes ts bs) (hparts : ts.IsChain Parts) :
    scan? .between bs = some ts := by
  induction h with
  | nil => rfl
  | blank hb _ ih =>
    have hblank : ∀ {b : UInt8}, b ∈ [0x20, 0x09, 0x0A, 0x0D] →
        step? .between b = some (.between, []) := by
      intro b hb
      simp only [List.mem_cons, List.not_mem_nil, or_false] at hb
      rcases hb with rfl | rfl | rfl | rfl <;> rfl
    rw [scan?_cons_of_silent (hblank hb), ih hparts]
  | @mark t b _ _ hmark _ ih =>
    have hstep : step? .between b = some (.between, [t]) := by cases hmark <;> rfl
    rw [scan?_cons hstep, ih hparts.of_cons]
    rfl
  | string hbody _ ih =>
    rw [scan?_string hbody, ih hparts.of_cons]
    rfl
  | run hrun hrest ih =>
    have hhead := head_of_lexes hrest fun u hu word hword ↦
      (List.isChain_cons.1 hparts).1 u hu ⟨⟨_, hrun⟩, ⟨word, hword⟩⟩
    rw [scan?_run hrun hhead, ih hparts.of_cons]
    rfl

end Scanner

/-! ### The tokens of a tree -/

mutual

/-- The tokens of a tree. -/
def Tree.tokens : Tree → List Token
  | .null => [.null]
  | .bool b => [.bool b]
  | .number l => [.number l]
  | .string body => [.string body]
  | .array [] => [.openArray, .closeArray]
  | .array (t :: ts) => .openArray :: (t.tokens ++ Tree.itemTokens ts ++ [.closeArray])
  | .object [] => [.openObject, .closeObject]
  | .object ((key, t) :: ms) =>
    .openObject :: .string key :: .colon ::
      (t.tokens ++ Tree.memberTokens ms ++ [.closeObject])

/-- The tokens of items that are not the first. -/
def Tree.itemTokens : List Tree → List Token
  | [] => []
  | t :: ts => .comma :: (t.tokens ++ Tree.itemTokens ts)

/-- The tokens of members that are not the first. -/
def Tree.memberTokens : List (List UInt8 × Tree) → List Token
  | [] => []
  | (key, t) :: ms => .comma :: .string key :: .colon :: (t.tokens ++ Tree.memberTokens ms)

end

/-- The text of a document writes a tree. -/
def Tree.Writes (t : Tree) (bytes : List UInt8) : Prop := Lexes t.tokens bytes

namespace Builder

variable {stack : List Frame} {s s' : State}

/-- Where an item is due, the end of an array is not one. -/
theorem foldlM_firstItem (t : Tree) (ts : List Token) :
    (t.tokens ++ ts).foldlM step? ⟨.firstItem, stack⟩ =
      (t.tokens ++ ts).foldlM step? ⟨.value, .array [] :: stack⟩ := by
  match t with
  | .null | .bool _ | .number _ | .string _ => rfl
  | .array [] | .array (_ :: _) => rfl
  | .object [] | .object ((_, _) :: _) => rfl

mutual

/-- A tree is built of its tokens, whatever is open around it. -/
theorem foldlM_tokens (stack : List Frame) (ts : List Token) : ∀ t : Tree,
    (t.tokens ++ ts).foldlM step? ⟨.value, stack⟩ = ts.foldlM step? ⟨.after t, stack⟩
  | .null | .bool _ | .number _ | .string _ => rfl
  | .array [] => rfl
  | .array (t :: items) => by
    have hopen : ∀ ts, (.openArray :: ts).foldlM step? ⟨.value, stack⟩ =
        ts.foldlM step? ⟨.firstItem, stack⟩ := fun _ ↦ rfl
    rw [Tree.tokens, List.cons_append, hopen, List.append_assoc, List.append_assoc,
      foldlM_firstItem, foldlM_tokens (.array [] :: stack) _ t,
      foldlM_itemTokens [] stack _ t items]
    rfl
  | .object [] => rfl
  | .object ((key, t) :: members) => by
    have hopen : ∀ ts, (.openObject :: .string key :: .colon :: ts).foldlM step? ⟨.value, stack⟩ =
        ts.foldlM step? ⟨.value, .member [] key :: stack⟩ := fun _ ↦ rfl
    rw [Tree.tokens, List.cons_append, List.cons_append, List.cons_append, hopen,
      List.append_assoc, List.append_assoc, foldlM_tokens (.member [] key :: stack) _ t,
      foldlM_memberTokens [] stack _ key t members]
    rfl

/-- Items are put behind those before them. -/
theorem foldlM_itemTokens (before : List Tree) (stack : List Frame) (ts : List Token) :
    ∀ (t : Tree) (items : List Tree),
      (Tree.itemTokens items ++ ([Token.closeArray] ++ ts)).foldlM step?
        ⟨.after t, .array before :: stack⟩ =
          ts.foldlM step? ⟨.after (.array (before.reverse ++ t :: items)), stack⟩
  | t, [] => by
    have hclose : ([Token.closeArray] ++ ts).foldlM step? ⟨.after t, .array before :: stack⟩ =
        ts.foldlM step? ⟨.after (.array (t :: before).reverse), stack⟩ := rfl
    rw [Tree.itemTokens, List.nil_append, hclose, List.reverse_cons]
  | t, u :: items => by
    have hcomma : ∀ ts, (.comma :: ts).foldlM step? ⟨.after t, .array before :: stack⟩ =
        ts.foldlM step? ⟨.value, .array (t :: before) :: stack⟩ := fun _ ↦ rfl
    rw [Tree.itemTokens, List.cons_append, hcomma, List.append_assoc,
      foldlM_tokens (.array (t :: before) :: stack) _ u,
      foldlM_itemTokens (t :: before) stack ts u items, List.reverse_cons, List.append_assoc]
    rfl

/-- Members are put behind those before them. -/
theorem foldlM_memberTokens (before : List (List UInt8 × Tree)) (stack : List Frame)
    (ts : List Token) : ∀ (key : List UInt8) (t : Tree) (members : List (List UInt8 × Tree)),
      (Tree.memberTokens members ++ ([Token.closeObject] ++ ts)).foldlM step?
        ⟨.after t, .member before key :: stack⟩ =
          ts.foldlM step? ⟨.after (.object (before.reverse ++ (key, t) :: members)), stack⟩
  | key, t, [] => by
    have hclose : ([Token.closeObject] ++ ts).foldlM step? ⟨.after t, .member before key :: stack⟩ =
        ts.foldlM step? ⟨.after (.object ((key, t) :: before).reverse), stack⟩ := rfl
    rw [Tree.memberTokens, List.nil_append, hclose, List.reverse_cons]
  | key, t, (key', u) :: members => by
    have hcomma : ∀ ts, (.comma :: .string key' :: .colon :: ts).foldlM step?
        ⟨.after t, .member before key :: stack⟩ =
          ts.foldlM step? ⟨.value, .member ((key, t) :: before) key' :: stack⟩ := fun _ ↦ rfl
    rw [Tree.memberTokens, List.cons_append, List.cons_append, List.cons_append, hcomma,
      List.append_assoc, foldlM_tokens (.member ((key, t) :: before) key' :: stack) _ u,
      foldlM_memberTokens ((key, t) :: before) stack ts key' u members, List.reverse_cons,
      List.append_assoc]
    rfl

end

/-- Behind a finished value there is no word and no number. -/
theorem afterValue?_of_isRun {u : Token} {word : List UInt8} (hu : u.IsRun word) (value : Tree) :
    ∀ stack, afterValue? value stack u = none
  | [] => rfl
  | .array _ :: _ => by cases hu <;> rfl
  | .member _ _ :: _ => by cases hu <;> rfl

/-- A word or a number is a finished value. -/
theorem exists_after_of_isRun {u : Token} {word : List UInt8} (hu : u.IsRun word)
    (h : step? s u = some s') : ∃ value, s'.mode = .after value := by
  have hbegin : ∀ {stack}, beginValue? stack u = some s' → ∃ value, s'.mode = .after value := by
    intro stack hbegin
    cases hu <;>
    · obtain rfl := Option.some.inj hbegin
      exact ⟨_, rfl⟩
  obtain ⟨mode, stack⟩ := s
  cases mode with
  | value => exact hbegin h
  | firstItem =>
    have hclose : u ≠ .closeArray := by
      rintro rfl
      cases hu
    have hstep : step? ⟨.firstItem, stack⟩ u = beginValue? (.array [] :: stack) u :=
      if_neg hclose
    exact hbegin (hstep ▸ h)
  | firstKey | key | colon => cases hu <;> cases h
  | after value =>
    exact nomatch (afterValue?_of_isRun hu value stack).symm.trans h

theorem parts_of_step {t u : Token} {s'' : State} (h : step? s t = some s')
    (h' : step? s' u = some s'') : Scanner.Parts t u := by
  rintro ⟨⟨_, ht⟩, ⟨_, hu⟩⟩
  obtain ⟨value, hmode⟩ := exists_after_of_isRun ht h
  obtain ⟨mode, stack⟩ := s'
  obtain rfl : mode = .after value := hmode
  exact nomatch (afterValue?_of_isRun hu value stack).symm.trans h'

/-- The tokens of what the builder takes have no two words or numbers in a row. -/
theorem isChain_of_foldlM (h : ts.foldlM step? s = some s') : ts.IsChain Scanner.Parts := by
  induction ts generalizing s with
  | nil => exact .nil
  | cons t ts ih =>
    obtain ⟨s₁, hstep, hrest⟩ := Option.bind_eq_some_iff.1 h
    refine List.isChain_cons.2 ⟨fun u hu ↦ ?_, ih hrest⟩
    obtain ⟨ts, rfl⟩ : ∃ ts', ts = u :: ts' := List.head?_eq_some_iff.1 hu
    obtain ⟨s₂, hnext, -⟩ := Option.bind_eq_some_iff.1 hrest
    exact parts_of_step hstep hnext

end Builder

/-- A document is read as the tree that it writes. -/
theorem Tree.Writes.read?_eq (h : t.Writes bytes) : Tree.read? bytes = some t := by
  have hbuild : t.tokens.foldlM Builder.step? ⟨.value, []⟩ = some ⟨.after t, []⟩ := by
    have hall := Builder.foldlM_tokens [] [] t
    rwa [List.append_nil] at hall
  have hscan : tokens? bytes = some t.tokens :=
    Scanner.scan?_of_lexes h (Builder.isChain_of_foldlM hbuild)
  rw [Tree.read?, hscan]
  show (t.tokens.foldlM Builder.step? ⟨.value, []⟩).bind Builder.finish? = some t
  rw [hbuild]
  rfl

end VaultAccess.Json
