import VaultAccess.Proofs.Url.Parts
import VaultAccess.Url.Domain.Composition
import VaultAccess.Url.Domain.Folding

/-!
# Folding and composing make no capitals

The tables by which names are folded and composed have no capitals of ASCII in them, so a name that
has been folded has none (`isCapital_of_fold?`), and none is made by composing what has none
(`isCapital_of_composed`). Both leave a text of ASCII without capitals as it is
(`fold?_eq_self`, `composed_eq_self`): composing changes only texts with characters outside ASCII.
-/

namespace VaultAccess.Url.Domain

variable {c d : Char} {n : Nat} {cs name : List Char} {points marks : List Nat}

/-! ### What the tables make -/

/-- Whether a code point is a capital of ASCII. -/
def isCapital (n : Nat) : Bool := 0x41 ≤ n && n ≤ 0x5A

set_option maxRecDepth 20000 in
/-- No text of the table has a capital. -/
theorem spellings_low : ∀ e ∈ spellings, ∃ cs, e.2 = String.ofList cs ∧
    (cs.all fun c ↦ !isCapital c.toNat) = true := by
  unfold spellings
  repeat refine List.forall_mem_cons.2 ⟨⟨_, rfl, rfl⟩, ?_⟩
  exact List.forall_mem_nil _

/-- No range of the table shifts a letter to a capital. -/
theorem shifts_low : ∀ s ∈ shifts, s.target + (s.last - s.first) < 0x41 ∨ 0x5A < s.target := by
  decide +kernel

/-- No pair of the table begins with ASCII or makes a capital. -/
theorem compositions_low : ∀ r ∈ compositions,
    0x80 ≤ r.1 ∧ isCapital r.2.1 = false ∧ 0x80 ≤ r.2.2 := by
  decide +kernel

theorem markClasses_high : ∀ r ∈ markClasses, 0x80 ≤ r.1 := by
  decide +kernel

/-- Only characters of ASCII count as capitals. -/
theorem isCapital_of_le (h : 0x80 ≤ n) : isCapital n = false := by
  simp only [isCapital, Bool.and_eq_false_iff, decide_eq_false_iff_not]
  omega

/-! ### Folding -/

/-- What holds of all characters of ASCII can be seen character by character. -/
theorem forall_ascii {P : Char → Prop} (h : ∀ n < 0x80, P (Char.ofNat n))
    (hc : c.toNat < 0x80) : P c := by
  simpa using h c.toNat hc

theorem isCapital_toLower (h : c.toNat < 0x80) : isCapital c.toLower.toNat = false :=
  forall_ascii (P := fun c ↦ isCapital c.toLower.toNat = false) (by decide +kernel) h

/-- What is no capital is its own small letter. -/
theorem toLower_eq_self (h : c.toNat < 0x80) (hc : isCapital c.toNat = false) :
    c.toLower = c :=
  forall_ascii (P := fun c ↦ isCapital c.toNat = false → c.toLower = c) (by decide +kernel) h hc

/-- A number that no character has stands for the character zero. -/
theorem toNat_ofNat_eq_or (n : Nat) : (Char.ofNat n).toNat = n ∨ (Char.ofNat n).toNat = 0 := by
  unfold Char.ofNat
  by_cases h : n.isValidChar
  · exact .inl (by rw [dif_pos h]; rfl)
  · exact .inr (by rw [dif_neg h]; rfl)

theorem isCapital_ofNat (h : isCapital n = false) : isCapital (Char.ofNat n).toNat = false := by
  rcases toNat_ofNat_eq_or n with hn | hn
  · rwa [hn]
  · rw [hn]
    rfl

/-- A character stands for no capital. -/
theorem isCapital_of_folding? (h : folding? c = some cs) (hd : d ∈ cs) :
    isCapital d.toNat = false := by
  rw [folding?] at h
  split at h
  next n hn =>
    obtain rfl := Option.some.inj h
    obtain rfl := List.mem_singleton.1 hd
    obtain ⟨s, hs, htarget⟩ := List.exists_of_findSome?_eq_some hn
    rw [Shift.targetOf?] at htarget
    split at htarget
    next hrun =>
      obtain rfl := Option.some.inj htarget
      have hlow := shifts_low s hs
      refine isCapital_ofNat ?_
      simp only [isCapital, Bool.and_eq_false_iff, decide_eq_false_iff_not]
      omega
    next => cases htarget
  next =>
    rw [spelling?] at h
    obtain ⟨⟨first, words⟩, hlast, hword⟩ := Option.bind_eq_some_iff.1 h
    have hentry : (first, words) ∈ spellings :=
      (List.takeWhile_prefix _).mem (List.mem_of_getLast? hlast)
    obtain ⟨all, hwords, hlow⟩ := spellings_low _ hentry
    obtain rfl : words = String.ofList all := hwords
    have hmem : d ∈ (String.ofList all).toList :=
      (mem_of_mem_splitAt (List.mem_of_getElem? hword) hd).1
    rw [String.toList_ofList] at hmem
    simpa using List.all_eq_true.1 hlow d hmem

/-- A folded name has no capitals. -/
theorem isCapital_of_fold? (h : fold? cs = some name) (hd : d ∈ name) :
    isCapital d.toNat = false := by
  induction cs generalizing name with
  | nil =>
    obtain rfl := Option.some.inj h
    cases hd
  | cons c cs ih =>
    simp only [fold?] at h
    split at h
    next hascii =>
      obtain ⟨rest, hrest, heq⟩ := Option.bind_eq_some_iff.1 h
      obtain rfl := Option.some.inj heq
      rcases List.mem_cons.1 hd with rfl | hd
      · exact isCapital_toLower hascii
      · exact ih hrest hd
    next hascii =>
      split at h
      next => cases h
      next =>
        split at h
        next => exact ih h hd
        next =>
          obtain ⟨rest, hrest, heq⟩ := Option.bind_eq_some_iff.1 h
          obtain rfl := Option.some.inj heq
          rcases List.mem_append.1 hd with hd | hd
          · rcases hfolding : folding? c with - | ds <;> rw [hfolding] at hd
            · obtain rfl := List.mem_singleton.1 hd
              exact isCapital_of_le (Nat.le_of_not_lt hascii)
            · exact isCapital_of_folding? hfolding hd
          · exact ih hrest hd

/-- What has no capitals is left alone. -/
theorem fold?_eq_self (h : ∀ c ∈ cs, c.toNat < 0x80 ∧ isCapital c.toNat = false) :
    fold? cs = some cs := by
  induction cs with
  | nil => rfl
  | cons c cs ih =>
    obtain ⟨⟨hascii, hc⟩, hcs⟩ := List.forall_mem_cons.1 h
    rw [fold?, ih hcs, if_pos hascii, toLower_eq_self hascii hc]
    rfl

/-! ### Composing -/

/-- Taking a letter apart makes no capital. -/
theorem isCapital_of_parts {depth m : Nat} (hn : isCapital n = false) (hm : m ∈ parts depth n) :
    isCapital m = false := by
  induction depth generalizing n m with
  | zero =>
    obtain rfl := List.mem_singleton.1 hm
    exact hn
  | succ depth ih =>
    rw [parts] at hm
    split at hm
    next =>
      refine isCapital_of_le ?_
      simp only [lettersOfSyllable, List.cons_append, List.nil_append, List.mem_cons] at hm
      rcases hm with rfl | rfl | hm
      · omega
      · omega
      · split at hm
        · cases hm
        · rw [List.mem_singleton.1 hm]
          omega
    next =>
      split at hm
      next _ a b hfind =>
        obtain ⟨-, ha, hb⟩ := compositions_low _ (List.mem_of_find?_eq_some hfind)
        rcases List.mem_append.1 hm with hm | hm
        · exact ih ha hm
        · obtain rfl := List.mem_singleton.1 hm
          exact isCapital_of_le hb
      next =>
        obtain rfl := List.mem_singleton.1 hm
        exact hn

theorem mem_of_mem_putInOrder {m : Nat} (h : m ∈ putInOrder n points) : m = n ∨ m ∈ points := by
  induction points with
  | nil => exact .inl (List.mem_singleton.1 h)
  | cons k points ih =>
    rw [putInOrder] at h
    split at h
    · rcases List.mem_cons.1 h with rfl | h
      · exact .inr List.mem_cons_self
      · exact (ih h).imp_right (List.mem_cons_of_mem _)
    · exact List.mem_cons.1 h

/-- Marks are put in order, and none is added. -/
theorem mem_of_mem_inOrder {m : Nat} (h : m ∈ points.foldr putInOrder []) : m ∈ points := by
  induction points with
  | nil => cases h
  | cons n points ih =>
    rcases mem_of_mem_putInOrder h with rfl | h
    · exact List.mem_cons_self
    · exact List.mem_cons_of_mem _ (ih h)

/-- Two characters make up none of ASCII. -/
theorem le_of_joined? {a b : Nat} (h : joined? a b = some n) : 0x80 ≤ n := by
  rw [joined?] at h
  split at h
  next _ _ _ hfind =>
    obtain rfl := Option.some.inj h
    exact (compositions_low _ (List.mem_of_find?_eq_some hfind)).1
  next =>
    rw [syllable?] at h
    split at h
    · obtain rfl := Option.some.inj h
      omega
    · split at h
      · obtain rfl := Option.some.inj h
        omega
      · cases h

/-- Nor does putting a letter together with its marks. -/
theorem isCapital_of_joinFrom {letter m : Nat} (hletter : isCapital letter = false)
    (hmarks : ∀ n ∈ marks, isCapital n = false) (hpoints : ∀ n ∈ points, isCapital n = false)
    (hm : m ∈ joinFrom letter marks points) : isCapital m = false := by
  induction points generalizing letter marks with
  | nil =>
    rcases List.mem_cons.1 hm with rfl | hm
    · exact hletter
    · exact hmarks m (List.mem_reverse.1 hm)
  | cons n points ih =>
    obtain ⟨hn, hrest⟩ := List.forall_mem_cons.1 hpoints
    rw [joinFrom] at hm
    split at hm
    next whole hwhole =>
      have hjoined : joined? letter n = some whole := by
        split at hwhole
        · cases hwhole
        · exact hwhole
      exact ih (isCapital_of_le (le_of_joined? hjoined)) hmarks hrest hm
    next =>
      split at hm
      · rcases List.mem_append.1 hm with hm | hm
        · rcases List.mem_cons.1 hm with rfl | hm
          · exact hletter
          · exact hmarks m (List.mem_reverse.1 hm)
        · exact ih hn (List.forall_mem_nil _) hrest hm
      · refine ih hletter (fun k hk ↦ ?_) hrest hm
        rcases List.mem_cons.1 hk with rfl | hk
        · exact hn
        · exact hmarks k hk

/-- Composing makes no capitals. -/
theorem isCapital_of_composed {m : Nat} (hpoints : ∀ n ∈ points, isCapital n = false)
    (hm : m ∈ composed points) : isCapital m = false := by
  have hordered : ∀ n ∈ (points.flatMap (parts 3)).foldr putInOrder [], isCapital n = false := by
    intro n hn
    obtain ⟨k, hk, hn⟩ := List.mem_flatMap.1 (mem_of_mem_inOrder hn)
    exact isCapital_of_parts (hpoints k hk) hn
  rw [composed] at hm
  split at hm
  next => cases hm
  next n rest heq =>
    rw [heq] at hordered
    obtain ⟨hn, hrest⟩ := List.forall_mem_cons.1 hordered
    exact isCapital_of_joinFrom hn (List.forall_mem_nil _) hrest hm

/-- Characters of ASCII are not taken apart. -/
theorem parts_of_lt {depth : Nat} (h : n < 0x80) : parts depth n = [n] := by
  cases depth with
  | zero => rfl
  | succ depth =>
    have hnone : compositions.find? (·.1 == n) = none := by
      refine List.find?_eq_none.2 fun r hr ↦ ?_
      have hle := (compositions_low r hr).1
      simp only [beq_iff_eq]
      omega
    rw [parts, if_neg (by omega), hnone]

theorem flatMap_parts_of_lt {depth : Nat} (h : ∀ n ∈ points, n < 0x80) :
    points.flatMap (parts depth) = points := by
  induction points with
  | nil => rfl
  | cons n points ih =>
    obtain ⟨hn, hrest⟩ := List.forall_mem_cons.1 h
    rw [List.flatMap_cons, parts_of_lt hn, ih hrest]
    rfl

theorem markClass_of_lt (h : n < 0x80) : markClass n = 0 := by
  rw [markClass]
  split
  next hfind =>
    have hle := markClasses_high _ (List.mem_of_find?_eq_some hfind)
    exact if_neg (by omega)
  next => rfl

/-- They are no marks, so they stay in their order. -/
theorem inOrder_of_lt (h : ∀ n ∈ points, n < 0x80) : points.foldr putInOrder [] = points := by
  induction points with
  | nil => rfl
  | cons n points ih =>
    obtain ⟨hn, hrest⟩ := List.forall_mem_cons.1 h
    rw [List.foldr_cons, ih hrest]
    cases points with
    | nil => rfl
    | cons m points =>
      have hm : markClass m = 0 := markClass_of_lt (hrest m List.mem_cons_self)
      rw [putInOrder, if_neg (by omega)]

/-- And they are not put together. -/
theorem joinFrom_of_lt {letter : Nat} (hletter : letter < 0x80) (h : ∀ n ∈ points, n < 0x80) :
    joinFrom letter [] points = letter :: points := by
  induction points generalizing letter with
  | nil => rfl
  | cons n points ih =>
    obtain ⟨hn, hrest⟩ := List.forall_mem_cons.1 h
    have hapart : joined? letter n = none := by
      have hnone : compositions.find? (fun r ↦ r.2.1 == letter && r.2.2 == n) = none := by
        refine List.find?_eq_none.2 fun r hr ↦ ?_
        have hle := (compositions_low r hr).2.2
        simp only [Bool.and_eq_true, beq_iff_eq, not_and]
        omega
      rw [joined?, hnone]
      simp only [syllable?]
      rw [if_neg (by omega), if_neg (by omega)]
    simp [joinFrom, hapart, markClass_of_lt hn, ih hn hrest]

/-- ASCII is composed as it is. -/
theorem composed_eq_self (h : ∀ n ∈ points, n < 0x80) : composed points = points := by
  rw [composed, flatMap_parts_of_lt h, inOrder_of_lt h]
  cases points with
  | nil => rfl
  | cons n points =>
    obtain ⟨hn, hrest⟩ := List.forall_mem_cons.1 h
    exact joinFrom_of_lt hn hrest

end VaultAccess.Url.Domain
