import VaultAccess.Text.Numeral

/-!
# Which texts spell whole numbers

A numeral is at least one decimal digit, after a sign or without one (`Spells`). The reader counts
up from the left and gives up where it leaves the bounds. Since a number never shrinks when a digit
is put to its right, this refuses exactly the numerals that are out of bounds at their end
(`foldlM_push_eq_ok_iff`), and what is read as 64 bits with a sign is every numeral of such a number
and nothing else (`signed64_eq_ok_iff`).
-/

namespace VaultAccess.Numeral

variable {limit n k : Nat} {c : Char} {cs : List Char} {s : String} {i : Int}

/-- At least one decimal digit, and nothing but digits. -/
structure IsDigits (cs : List Char) : Prop where
  ne_nil : cs ≠ []
  isDigit : ∀ c ∈ cs, c.isDigit = true

/-- The numerals of a whole number. -/
inductive Spells : List Char → Int → Prop
  | plain {ds : List Char} (h : IsDigits ds) : Spells ds (Nat.ofDigitChars 10 ds 0)
  | plus {ds : List Char} (h : IsDigits ds) : Spells ('+' :: ds) (Nat.ofDigitChars 10 ds 0)
  | minus {ds : List Char} (h : IsDigits ds) : Spells ('-' :: ds) (-Nat.ofDigitChars 10 ds 0 : Int)

/-! ### Digits -/

/-- A digit is a character that the library counts as one, with the value that it gives it. -/
theorem digit?_eq (c : Char) :
    digit? c = if c.isDigit = true then some (c.toNat - '0'.toNat) else none := by
  have hdigit : ('0' ≤ c ∧ c ≤ '9') ↔ c.isDigit = true := by
    simp [Char.isDigit, Char.le_def]
  rw [digit?]
  simp only [hdigit]

/-- Digits and nothing else have values. -/
theorem isSome_digit? (c : Char) : (digit? c).isSome = c.isDigit := by
  rw [digit?_eq]
  cases c.isDigit <;> rfl

/-- A character is put to the right of a number if it is a digit and the bound is kept. -/
theorem push_eq_ok_iff :
    push limit n c = .ok k ↔
      c.isDigit = true ∧ 10 * n + (c.toNat - '0'.toNat) = k ∧ k ≤ limit := by
  rw [push, digit?_eq, Nat.mul_comm 10 n]
  by_cases hc : c.isDigit = true
  · rw [if_pos hc]
    by_cases hle : n * 10 + (c.toNat - '0'.toNat) ≤ limit
    · simp only [hle, if_true, hc, true_and, Except.ok.injEq]
      exact ⟨fun h ↦ ⟨h, h ▸ hle⟩, And.left⟩
    · simp only [hle, if_false, hc, true_and]
      exact ⟨nofun, fun h ↦ absurd (h.1 ▸ h.2) hle⟩
  · simp [hc]

/-- A number does not shrink when digits are put to its right. -/
theorem le_ofDigitChars (cs : List Char) (n : Nat) : n ≤ Nat.ofDigitChars 10 cs n := by
  induction cs generalizing n with
  | nil => exact Nat.le_refl n
  | cons c cs ih =>
    rw [Nat.ofDigitChars_cons]
    have hrest := ih (10 * n + (c.toNat - '0'.toNat))
    omega

/-- Counting up gives the number of all the digits, and gives up exactly if that is out of bounds.
-/
theorem foldlM_push_eq_ok_iff (hn : n ≤ limit) :
    cs.foldlM (push limit) n = .ok k ↔
      (∀ c ∈ cs, c.isDigit = true) ∧ Nat.ofDigitChars 10 cs n = k ∧ k ≤ limit := by
  induction cs generalizing n with
  | nil =>
    constructor
    · intro h
      obtain rfl := Except.ok.inj h
      exact ⟨nofun, rfl, hn⟩
    · rintro ⟨-, rfl, -⟩
      rfl
  | cons c cs ih =>
    rw [List.foldlM_cons, List.forall_mem_cons, Nat.ofDigitChars_cons]
    cases hpush : push limit n c with
    | ok m =>
      obtain ⟨hc, rfl, hm⟩ := push_eq_ok_iff.1 hpush
      rw [and_iff_right hc]
      exact ih hm
    | error e =>
      refine ⟨nofun, fun ⟨⟨hc, _⟩, hk, hle⟩ ↦ ?_⟩
      -- what the digit leads to is no greater than the whole, so it was within the bounds
      have hm := le_ofDigitChars cs (10 * n + (c.toNat - '0'.toNat))
      rw [push_eq_ok_iff.2 ⟨hc, rfl, by omega⟩] at hpush
      cases hpush

/-- What is read without a sign is the numerals without one within the bound. -/
theorem digits_eq_ok_iff :
    digits limit cs = .ok k ↔ IsDigits cs ∧ Nat.ofDigitChars 10 cs 0 = k ∧ k ≤ limit := by
  rw [digits]
  cases cs with
  | nil => exact ⟨nofun, fun h ↦ absurd rfl h.1.ne_nil⟩
  | cons c cs =>
    rw [if_neg (by simp), foldlM_push_eq_ok_iff (Nat.zero_le limit)]
    exact and_congr_left' ⟨fun h ↦ ⟨List.cons_ne_nil c cs, h⟩, IsDigits.isDigit⟩

/-! ### Signs -/

theorem not_isDigits_of_head (hc : c.isDigit = false) : ¬ IsDigits (c :: cs) := by
  intro h
  rw [h.isDigit c List.mem_cons_self] at hc
  cases hc

/-- After a plus sign stand the digits of the number. -/
theorem spells_plus_iff :
    Spells ('+' :: cs) i ↔ IsDigits cs ∧ (Nat.ofDigitChars 10 cs 0 : Int) = i := by
  constructor
  · intro h
    cases h with
    | plain h => exact absurd h (not_isDigits_of_head rfl)
    | plus h => exact ⟨h, rfl⟩
  · rintro ⟨h, rfl⟩
    exact .plus h

/-- After a minus sign stand the digits of the opposite number. -/
theorem spells_minus_iff :
    Spells ('-' :: cs) i ↔ IsDigits cs ∧ -(Nat.ofDigitChars 10 cs 0 : Int) = i := by
  constructor
  · intro h
    cases h with
    | plain h => exact absurd h (not_isDigits_of_head rfl)
    | minus h => exact ⟨h, rfl⟩
  · rintro ⟨h, rfl⟩
    exact .minus h

/-- A numeral without a sign is digits only. -/
theorem spells_plain_iff (hplus : ∀ ds, cs ≠ '+' :: ds) (hminus : ∀ ds, cs ≠ '-' :: ds) :
    Spells cs i ↔ IsDigits cs ∧ (Nat.ofDigitChars 10 cs 0 : Int) = i := by
  constructor
  · intro h
    cases h with
    | plain h => exact ⟨h, rfl⟩
    | plus => exact absurd rfl (hplus _)
    | minus => exact absurd rfl (hminus _)
  · rintro ⟨h, rfl⟩
    exact .plain h

theorem map_digits_eq_ok_iff :
    (digits limit cs).map Int.ofNat = .ok i ↔
      (IsDigits cs ∧ (Nat.ofDigitChars 10 cs 0 : Int) = i) ∧ -(limit + 1 : Int) ≤ i ∧ i ≤ limit := by
  have hmap : (digits limit cs).map Int.ofNat = .ok i ↔
      ∃ k, digits limit cs = .ok k ∧ (k : Int) = i := by
    cases digits limit cs <;> simp [Except.map]
  rw [hmap]
  constructor
  · rintro ⟨k, hk, rfl⟩
    obtain ⟨hdigits, rfl, hle⟩ := digits_eq_ok_iff.1 hk
    exact ⟨⟨hdigits, rfl⟩, by omega, Int.ofNat_le.2 hle⟩
  · rintro ⟨⟨hdigits, rfl⟩, -, hle⟩
    exact ⟨_, digits_eq_ok_iff.2 ⟨hdigits, rfl, Int.ofNat_le.1 hle⟩, rfl⟩

/-- What is read with a sign is the numerals within the bounds, of which the lower one reaches
further by one. -/
theorem signed_eq_ok_iff :
    signed limit s = .ok i ↔ Spells s.toList i ∧ -(limit + 1 : Int) ≤ i ∧ i ≤ limit := by
  rw [signed]
  split
  next hs =>
    rw [hs]
    refine ⟨nofun, fun ⟨hspells, _⟩ ↦ ?_⟩
    cases hspells with
    | plain h => exact absurd rfl h.ne_nil
  next cs hs =>
    rw [hs, spells_plus_iff, map_digits_eq_ok_iff]
  next cs hs =>
    rw [hs, spells_minus_iff]
    have hread : IsDigits cs → -(limit + 1 : Int) ≤ -Nat.ofDigitChars 10 cs 0 →
        digits (limit + 1) cs = .ok (Nat.ofDigitChars 10 cs 0) := fun hdigits hle ↦
      digits_eq_ok_iff.2 ⟨hdigits, rfl, by omega⟩
    split
    next k hk =>
      obtain ⟨hdigits, rfl, hle⟩ := digits_eq_ok_iff.1 hk
      rw [Except.ok.injEq, and_iff_right hdigits]
      omega
    next hk =>
      refine ⟨nofun, fun ⟨⟨hdigits, hi⟩, hle, _⟩ ↦ ?_⟩
      rw [hread hdigits (hi ▸ hle)] at hk
      cases hk
    next hk =>
      refine ⟨nofun, fun ⟨⟨hdigits, hi⟩, hle, _⟩ ↦ ?_⟩
      rw [hread hdigits (hi ▸ hle)] at hk
      cases hk
  next hplus hminus =>
    rw [spells_plain_iff hplus hminus, map_digits_eq_ok_iff]

/-- Everything that spells a number of 64 bits with a sign is read, and nothing else. -/
theorem signed64_eq_ok_iff :
    signed64 s = .ok i ↔ ∃ v : Int64, v.toInt = i ∧ Spells s.toList i := by
  have hlimit : Nat.pow 2 63 - 1 = 9223372036854775807 := by decide
  rw [signed64, signed_eq_ok_iff, hlimit]
  constructor
  · rintro ⟨hspells, hlow, hhigh⟩
    exact ⟨.ofInt i, Int64.toInt_ofInt_of_le (by omega) (by omega), hspells⟩
  · rintro ⟨v, rfl, hspells⟩
    have hlow := v.le_toInt
    have hhigh := v.toInt_lt
    exact ⟨hspells, by omega, by omega⟩

end VaultAccess.Numeral
