import Mathlib.Data.List.TakeDrop
import Mathlib.Data.List.TakeWhile
import VaultAccess.Decimal.Literal
import VaultAccess.Proofs.Text.Floats
import VaultAccess.Proofs.Text.Numeral

/-!
# Which texts spell floats

The grammar of real numbers (`Spells`): digits with an optional point among or around them and an
optional exponent, or a word, and a sign before either. The reader takes the digits at the front in
one piece, and nothing that may follow them starts with a digit, so it takes a text apart in the one
way in which the grammar puts it together (`read?_eq_some_iff`).
-/

namespace VaultAccess.Decimal

open Numeral (IsDigits)

variable {cs ds rest : List Char} {c : Char} {s : String} {x : Float} {e : Int}

/-! ### The grammar -/

/-- An exponent part: nothing, or a marker and a whole number. -/
inductive Exponent : List Char → Int → Prop
  | absent : Exponent [] 0
  | marked {marker : Char} {ds : List Char} {e : Int} (hmarker : marker = 'e' ∨ marker = 'E')
      (h : Numeral.Spells ds e) : Exponent (marker :: ds) e

/-- A magnitude that is written in digits, and the float nearest to it. -/
inductive Positional : List Char → Float → Prop
  | whole {ds after : List Char} {e : Int} (h : IsDigits ds) (hexponent : Exponent after e) :
      Positional (ds ++ after) (nearest (Nat.ofDigitChars 10 ds 0) e)
  | point {whole fraction after : List Char} {e : Int} (h : IsDigits (whole ++ fraction))
      (hexponent : Exponent after e) :
      Positional (whole ++ '.' :: (fraction ++ after))
        (nearest (Nat.ofDigitChars 10 (whole ++ fraction) 0) (e - fraction.length))

/-- A magnitude. Words may be written in any case. -/
inductive Magnitude : List Char → Float → Prop
  | infinity {cs : List Char} (h : String.ofList (cs.map Char.toLower) ∈ ["inf", "infinity"]) :
      Magnitude cs (1 / 0)
  | notNumber {cs : List Char} (h : String.ofList (cs.map Char.toLower) = "nan") :
      Magnitude cs (0 / 0)
  | positional {cs : List Char} {x : Float} (h : Positional cs x) : Magnitude cs x

/-- The spellings of a float: a magnitude with or without a sign. -/
inductive Spells : List Char → Float → Prop
  | plain {cs : List Char} {x : Float} (h : Magnitude cs x) : Spells cs x
  | plus {cs : List Char} {x : Float} (h : Magnitude cs x) : Spells ('+' :: cs) x
  | minus {cs : List Char} {x : Float} (h : Magnitude cs x) : Spells ('-' :: cs) (-x)

/-! ### Digits -/

theorem digitsValue_eq (h : ∀ c ∈ ds, c.isDigit = true) :
    digitsValue ds = Nat.ofDigitChars 10 ds 0 := by
  have hfold : ∀ n, ds.foldl (fun n c ↦ n * 10 + (Numeral.digit? c).getD 0) n =
      Nat.ofDigitChars 10 ds n := by
    induction ds with
    | nil => exact fun _ ↦ rfl
    | cons c ds ih =>
      obtain ⟨hc, hds⟩ := List.forall_mem_cons.1 h
      intro n
      rw [List.foldl_cons, ih hds, Nat.ofDigitChars_cons, Numeral.digit?_eq, if_pos hc,
        Nat.mul_comm n 10]
      rfl
  exact hfold 0

/-- Digits are taken as far as they reach. -/
theorem spanDigits_eq_iff :
    spanDigits cs = (ds, rest) ↔
      cs = ds ++ rest ∧ (∀ c ∈ ds, c.isDigit = true) ∧ ∀ c ∈ rest.head?, c.isDigit = false := by
  rw [spanDigits, funext Numeral.isSome_digit?, List.span_eq_takeWhile_dropWhile, Prod.mk.injEq]
  constructor
  · rintro ⟨rfl, rfl⟩
    refine ⟨List.takeWhile_append_dropWhile.symm, fun c ↦ List.mem_takeWhile_imp, fun c hc ↦ ?_⟩
    have hstop := List.head?_dropWhile_not Char.isDigit cs
    rwa [Option.mem_def.1 hc] at hstop
  · rintro ⟨rfl, hds, hrest⟩
    rw [List.takeWhile_append_of_pos hds, List.dropWhile_append_of_pos hds]
    cases rest with
    | nil => simp
    | cons c rest =>
      have hc : c.isDigit = false := hrest c rfl
      simp [hc]

/-! ### Exponents -/

/-- An exponent with a sign is a whole number. -/
theorem map_exponentValue_eq_some_iff {negative : Bool} :
    (if (ds.isEmpty || !ds.all fun d ↦ (Numeral.digit? d).isSome) = true then none
      else some (some (negative, ds))).map exponentValue = some e ↔
        IsDigits ds ∧
          (if negative = true then -(Nat.ofDigitChars 10 ds 0 : Int)
            else Nat.ofDigitChars 10 ds 0) = e := by
  have hdigits : (ds.isEmpty || !ds.all fun d ↦ (Numeral.digit? d).isSome) = false ↔
      IsDigits ds := by
    simp only [funext Numeral.isSome_digit?, Bool.or_eq_false_iff, List.isEmpty_eq_false_iff,
      Bool.not_eq_false', List.all_eq_true]
    exact ⟨fun h ↦ ⟨h.1, h.2⟩, fun h ↦ ⟨h.ne_nil, h.isDigit⟩⟩
  by_cases h : IsDigits ds
  · rw [hdigits.2 h, and_iff_right h, ← digitsValue_eq h.isDigit]
    simp [exponentValue]
  · rw [(Bool.not_eq_false _).mp (mt hdigits.1 h)]
    simp [h]

/-- Behind its mark an exponent is a whole number. -/
theorem exponentPart?_marked (hc : c = 'e' ∨ c = 'E') :
    (exponentPart? (c :: cs)).map exponentValue = some e ↔ Numeral.Spells cs e := by
  have hmarker : (c == 'e' || c == 'E') = true := by simpa using hc
  rw [exponentPart?.eq_def]
  dsimp only
  rw [if_pos hmarker]
  split
  next => exact map_exponentValue_eq_some_iff.trans Numeral.spells_minus_iff.symm
  next => exact map_exponentValue_eq_some_iff.trans Numeral.spells_plus_iff.symm
  next hminus hplus =>
    exact map_exponentValue_eq_some_iff.trans (Numeral.spells_plain_iff hplus hminus).symm

/-- What is read as an exponent is a marked number, or nothing at all. -/
theorem exponentPart?_eq_some_iff :
    (exponentPart? cs).map exponentValue = some e ↔ Exponent cs e := by
  cases cs with
  | nil =>
    constructor
    · intro h
      obtain rfl : (0 : Int) = e := Option.some.inj h
      exact .absent
    · intro h
      cases h
      rfl
  | cons c cs =>
    by_cases hc : c = 'e' ∨ c = 'E'
    · rw [exponentPart?_marked hc]
      exact ⟨.marked hc, fun h ↦ by cases h; assumption⟩
    · have hmarker : ¬ (c == 'e' || c == 'E') = true := by simpa using hc
      rw [exponentPart?.eq_def]
      dsimp only
      rw [if_neg hmarker]
      exact ⟨nofun, fun h ↦ by cases h; contradiction⟩

/-- An exponent does not go on with the digits in front of it. -/
theorem Exponent.head_not_digit (h : Exponent cs e) : ∀ c ∈ cs.head?, c.isDigit = false := by
  cases h with
  | absent => exact nofun
  | marked hmarker =>
    intro c hc
    obtain rfl := Option.some.inj hc
    rcases hmarker with rfl | rfl <;> rfl

/-! ### Magnitudes -/

/-- Digits before and after the point and an exponent make a number unless there is no digit. -/
theorem number_eq_some_iff {whole fraction after : List Char}
    (hwhole : ∀ c ∈ whole, c.isDigit = true) (hfraction : ∀ c ∈ fraction, c.isDigit = true) :
    (if (whole.isEmpty && fraction.isEmpty) = true then none
      else (exponentPart? after).map fun e ↦
        toFloat (digitsValue (whole ++ fraction)) (exponentValue e - fraction.length)) = some x ↔
      IsDigits (whole ++ fraction) ∧ ∃ e, Exponent after e ∧
        nearest (Nat.ofDigitChars 10 (whole ++ fraction) 0) (e - fraction.length) = x := by
  have hall : ∀ c ∈ whole ++ fraction, c.isDigit = true :=
    List.forall_mem_append.2 ⟨hwhole, hfraction⟩
  simp only [digitsValue_eq hall, toFloat_eq]
  by_cases hempty : (whole.isEmpty && fraction.isEmpty) = true
  · rw [if_pos hempty]
    refine ⟨nofun, fun h ↦ absurd ?_ h.1.ne_nil⟩
    simpa using hempty
  · have hdigits : IsDigits (whole ++ fraction) := ⟨by simpa using hempty, hall⟩
    rw [if_neg hempty, and_iff_right hdigits, Option.map_eq_some_iff]
    constructor
    · rintro ⟨part, hpart, rfl⟩
      exact ⟨_, exponentPart?_eq_some_iff.1 (Option.map_eq_some_iff.2 ⟨part, hpart, rfl⟩), rfl⟩
    · rintro ⟨e, he, rfl⟩
      obtain ⟨part, hpart, rfl⟩ := Option.map_eq_some_iff.1 (exponentPart?_eq_some_iff.2 he)
      exact ⟨part, hpart, rfl⟩

theorem positional_of_unsigned? (h : unsigned? cs = some x) : Positional cs x := by
  cases hwhole : spanDigits cs with
  | mk whole rest =>
  obtain ⟨rfl, hdigits, -⟩ := spanDigits_eq_iff.1 hwhole
  rw [unsigned?.eq_def, hwhole] at h
  dsimp only at h
  split at h
  next r =>
    cases hfraction : spanDigits r with
    | mk fraction after =>
    obtain ⟨rfl, hdigits', -⟩ := spanDigits_eq_iff.1 hfraction
    rw [hfraction] at h
    obtain ⟨hall, e, hexponent, rfl⟩ := (number_eq_some_iff hdigits hdigits').1 h
    exact .point hall hexponent
  next =>
    obtain ⟨hall, e, hexponent, rfl⟩ := (number_eq_some_iff hdigits (List.forall_mem_nil _)).1 h
    rw [List.append_nil] at hall
    simpa using Positional.whole hall hexponent

theorem Positional.unsigned? (h : Positional cs x) : unsigned? cs = some x := by
  cases h with
  | @whole ds after e hdigits hexponent =>
    have hspan : spanDigits (ds ++ after) = (ds, after) :=
      spanDigits_eq_iff.2 ⟨rfl, hdigits.isDigit, hexponent.head_not_digit⟩
    rw [Decimal.unsigned?.eq_def, hspan]
    dsimp only
    split
    next => cases hexponent; simp_all
    next =>
      refine (number_eq_some_iff hdigits.isDigit (List.forall_mem_nil _)).2 ⟨?_, e, hexponent, ?_⟩ <;>
        simp [hdigits]
  | @point whole fraction after e hdigits hexponent =>
    obtain ⟨hwhole, hfraction⟩ := List.forall_mem_append.1 hdigits.isDigit
    have hspan : spanDigits (whole ++ '.' :: (fraction ++ after)) =
        (whole, '.' :: (fraction ++ after)) :=
      spanDigits_eq_iff.2 ⟨rfl, hwhole, fun c hc ↦ Option.some.inj hc ▸ rfl⟩
    have hspan' : spanDigits (fraction ++ after) = (fraction, after) :=
      spanDigits_eq_iff.2 ⟨rfl, hfraction, hexponent.head_not_digit⟩
    rw [Decimal.unsigned?.eq_def, hspan]
    simp only [hspan']
    exact (number_eq_some_iff hwhole hfraction).2 ⟨hdigits, e, hexponent, rfl⟩

/-- Digits are read as the grammar puts them together. -/
theorem unsigned?_eq_some_iff : unsigned? cs = some x ↔ Positional cs x :=
  ⟨positional_of_unsigned?, Positional.unsigned?⟩

/-! ### Words and signs -/

/-- A number begins with a digit or with the point. -/
theorem Positional.head (h : Positional cs x) :
    ∃ c ∈ cs.head?, c.isDigit = true ∨ c = '.' := by
  cases h with
  | @whole ds after e hdigits =>
    obtain ⟨c, ds, rfl⟩ := List.exists_cons_of_ne_nil hdigits.ne_nil
    exact ⟨c, rfl, .inl (hdigits.isDigit c List.mem_cons_self)⟩
  | @point whole fraction after e hdigits =>
    cases whole with
    | nil => exact ⟨'.', rfl, .inr rfl⟩
    | cons c whole => exact ⟨c, rfl, .inl (hdigits.isDigit c List.mem_cons_self)⟩

/-- A word begins with one of two letters, small or capital. -/
theorem head_of_word (h : String.ofList (cs.map Char.toLower) ∈ ["inf", "infinity", "nan"]) :
    ∃ c ∈ cs.head?, c.toLower = 'i' ∨ c.toLower = 'n' := by
  have hhead : (String.ofList (cs.map Char.toLower)).toList.head? = cs.head?.map Char.toLower := by
    rw [String.toList_ofList, List.head?_map]
  have hletter : ∃ l ∈ cs.head?.map Char.toLower, l = 'i' ∨ l = 'n' := by
    rw [← hhead]
    simp only [List.mem_cons, List.not_mem_nil, or_false] at h
    obtain h | h | h := h
    all_goals
      rw [h]
      exact ⟨_, rfl, by decide⟩
  obtain ⟨l, hl, hin⟩ := hletter
  obtain ⟨c, hc, rfl⟩ := Option.map_eq_some_iff.1 hl
  exact ⟨c, hc, hin⟩

theorem toLower_of_isDigit (h : c.isDigit = true) : c.toLower = c := by
  simp only [Char.isDigit, Bool.and_eq_true, decide_eq_true_eq] at h
  have hcapital : ¬ (c.val ≥ 'A'.val ∧ c.val ≤ 'Z'.val) := fun hcapital ↦
    absurd (UInt32.le_trans hcapital.1 h.2) (by decide)
  exact dif_neg hcapital

/-- No word is a magnitude in digits. -/
theorem Positional.not_word (h : Positional cs x) :
    String.ofList (cs.map Char.toLower) ∉ ["inf", "infinity", "nan"] := by
  intro hword
  obtain ⟨c, hc, hstart⟩ := h.head
  obtain ⟨l, hl, hletter⟩ := head_of_word hword
  obtain rfl : c = l := Option.some.inj (hc.symm.trans hl)
  rcases hstart with hdigit | rfl
  · rw [toLower_of_isDigit hdigit] at hletter
    rcases hletter with rfl | rfl <;> cases hdigit
  · exact absurd hletter (by decide)

/-- What stands behind the sign is a number or a word. -/
theorem magnitude?_eq_some_iff : magnitude? cs = some x ↔ Magnitude cs x := by
  rw [magnitude?.eq_def]
  dsimp only
  split
  next h =>
    have hword : String.ofList (cs.map Char.toLower) ∈ ["inf", "infinity"] := by simpa using h
    constructor
    · intro hx
      obtain rfl := Option.some.inj hx
      exact .infinity hword
    · intro hx
      cases hx with
      | infinity => rfl
      | notNumber hnan => simp [hnan] at hword
      | positional hx => exact absurd (List.mem_append_left ["nan"] hword) hx.not_word
  next h =>
    have hword : String.ofList (cs.map Char.toLower) ∉ ["inf", "infinity"] := by simpa using h
    split
    next hnan =>
      have hnan : String.ofList (cs.map Char.toLower) = "nan" := by simpa using hnan
      constructor
      · intro hx
        obtain rfl := Option.some.inj hx
        exact .notNumber hnan
      · intro hx
        cases hx with
        | infinity hx => exact absurd hx hword
        | notNumber => rfl
        | positional hx => exact absurd (by simp [hnan]) hx.not_word
    next hnan =>
      have hnan : String.ofList (cs.map Char.toLower) ≠ "nan" := by simpa using hnan
      rw [unsigned?_eq_some_iff]
      constructor
      · exact .positional
      · intro hx
        cases hx with
        | infinity hx => exact absurd hx hword
        | notNumber hx => exact absurd hx hnan
        | positional hx => exact hx

/-- What stands behind the sign has no sign of its own. -/
theorem Magnitude.head (h : Magnitude cs x) : ∃ c ∈ cs.head?, c ≠ '+' ∧ c ≠ '-' := by
  have hletter : ∀ {c : Char}, c.toLower = 'i' ∨ c.toLower = 'n' → c ≠ '+' ∧ c ≠ '-' := by
    rintro c hc
    refine ⟨?_, ?_⟩ <;> rintro rfl <;> exact absurd hc (by decide)
  have hstart : ∀ {c : Char}, c.isDigit = true ∨ c = '.' → c ≠ '+' ∧ c ≠ '-' := by
    rintro c hc
    refine ⟨?_, ?_⟩ <;> rintro rfl <;> exact absurd hc (by decide)
  cases h with
  | infinity h =>
    obtain ⟨c, hc, hl⟩ := head_of_word (List.mem_append_left ["nan"] h)
    exact ⟨c, hc, hletter hl⟩
  | notNumber h =>
    have hword : String.ofList (cs.map Char.toLower) ∈ ["inf", "infinity", "nan"] := by simp [h]
    obtain ⟨c, hc, hl⟩ := head_of_word hword
    exact ⟨c, hc, hletter hl⟩
  | positional h =>
    obtain ⟨c, hc, hs⟩ := h.head
    exact ⟨c, hc, hstart hs⟩

/-- Everything that spells a float is read as that float, and nothing else is read. -/
theorem read?_eq_some_iff : read? s = some x ↔ Spells s.toList x := by
  rw [read?]
  split
  next cs hs =>
    rw [hs, Option.map_eq_some_iff]
    constructor
    · rintro ⟨y, hy, rfl⟩
      exact .minus (magnitude?_eq_some_iff.1 hy)
    · intro h
      cases h with
      | plain h =>
        obtain ⟨c, hc, -, hne⟩ := h.head
        exact absurd (Option.some.inj hc).symm hne
      | minus h => exact ⟨_, magnitude?_eq_some_iff.2 h, rfl⟩
  next cs hs =>
    rw [hs, magnitude?_eq_some_iff]
    constructor
    · exact .plus
    · intro h
      cases h with
      | plain h =>
        obtain ⟨c, hc, hne, -⟩ := h.head
        exact absurd (Option.some.inj hc).symm hne
      | plus h => exact h
  next hminus hplus =>
    rw [magnitude?_eq_some_iff]
    constructor
    · exact .plain
    · intro h
      generalize s.toList = cs at *
      cases h with
      | plain h => exact h
      | plus => exact absurd rfl (hplus _)
      | minus => exact absurd rfl (hminus _)

end VaultAccess.Decimal
