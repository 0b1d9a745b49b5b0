/-!
# Finite maps from names

A map whose keys are texts, kept as a list of entries in strictly ascending order of their names. The
order of texts is by code point, which is also the order of their UTF-8 bytes. Since the order leaves
one list for each map, equal maps are equal values.
-/

namespace VaultAccess

/-- Put an entry into an ascending list of entries, in the place of one with the same name. -/
def putEntry {α : Type} (name : String) (value : α) : List (String × α) → List (String × α)
  | [] => [(name, value)]
  | (n, v) :: rest =>
    if name < n then (name, value) :: (n, v) :: rest
    else if name = n then (name, value) :: rest
    else (n, v) :: putEntry name value rest

/-- A finite map from names. -/
structure NameMap (α : Type) where
  entries : List (String × α)
  ascending : entries.Pairwise (fun a b ↦ a.1 < b.1)

namespace NameMap

variable {α : Type}

/-- Every entry of a list after an insertion is the new one or an old one. -/
theorem mem_putEntry {name : String} {value : α} {l : List (String × α)} {e : String × α}
    (h : e ∈ putEntry name value l) : e = (name, value) ∨ e ∈ l := by
  induction l with
  | nil => simpa [putEntry] using h
  | cons a rest ih =>
    obtain ⟨n, v⟩ := a
    simp only [putEntry] at h
    split at h
    · simpa using h
    · split at h
      · rcases List.mem_cons.1 h with h | h
        · exact .inl h
        · exact .inr (List.mem_cons_of_mem _ h)
      · rcases List.mem_cons.1 h with h | h
        · exact .inr (h ▸ List.mem_cons_self)
        · exact (ih h).imp_right (List.mem_cons_of_mem _)

/-- Insertion keeps the order. -/
theorem ascending_putEntry (name : String) (value : α) {l : List (String × α)}
    (h : l.Pairwise (fun a b ↦ a.1 < b.1)) :
    (putEntry name value l).Pairwise (fun a b ↦ a.1 < b.1) := by
  induction l with
  | nil => simp [putEntry]
  | cons a rest ih =>
    obtain ⟨n, v⟩ := a
    obtain ⟨hn, hrest⟩ := List.pairwise_cons.1 h
    simp only [putEntry]
    split
    case isTrue hlt =>
      refine List.pairwise_cons.2 ⟨fun e he ↦ ?_, h⟩
      rcases List.mem_cons.1 he with rfl | he
      · exact hlt
      · exact String.lt_trans hlt (hn e he)
    case isFalse hnlt =>
      split
      case isTrue heq =>
        subst heq
        exact List.pairwise_cons.2 ⟨hn, hrest⟩
      case isFalse hne =>
        refine List.pairwise_cons.2 ⟨fun e he ↦ ?_, ih hrest⟩
        rcases mem_putEntry he with rfl | he
        · exact Std.lt_of_le_of_ne (String.not_lt.1 hnlt) (Ne.symm hne)
        · exact hn e he

/-- The map without entries. -/
def empty : NameMap α := ⟨[], .nil⟩

/-- Set the value of a name. -/
def insert (m : NameMap α) (name : String) (value : α) : NameMap α :=
  ⟨putEntry name value m.entries, ascending_putEntry name value m.ascending⟩

/-- The value of a name. -/
def get? (m : NameMap α) (name : String) : Option α :=
  (m.entries.find? fun e ↦ e.1 == name).map (·.2)

/-- Two maps with the same entries are the same map. -/
@[ext]
theorem ext {m₁ m₂ : NameMap α} (h : m₁.entries = m₂.entries) : m₁ = m₂ := by
  cases m₁
  cases m₂
  cases h
  rfl

/-- Nothing has a value in the map without entries. -/
@[simp]
theorem get?_empty (name : String) : (empty : NameMap α).get? name = none := rfl

/-- An insertion changes what is found under its own name only. -/
theorem find?_putEntry (name : String) (value : α) (l : List (String × α)) (key : String) :
    (putEntry name value l).find? (fun e ↦ e.1 == key) =
      if key = name then some (name, value) else l.find? (fun e ↦ e.1 == key) := by
  induction l with
  | nil =>
    by_cases h : key = name
    · simp [putEntry, h]
    · simp [putEntry, h, Ne.symm h]
  | cons a rest ih =>
    obtain ⟨n, v⟩ := a
    by_cases h : key = name
    · subst h
      by_cases hn : n = key
      · subst hn
        simp only [putEntry, String.lt_irrefl, if_false, if_true, List.find?_cons, beq_self_eq_true]
      · simp only [putEntry, if_neg (Ne.symm hn)]
        split <;> simp [hn, ih]
    · simp only [putEntry, if_neg h] at ih ⊢
      split
      · simp [Ne.symm h]
      · split
        case isTrue hn => simp [← hn, Ne.symm h]
        case isFalse => simp [List.find?_cons, ih]

/-- After an insertion its name has the new value and every other name the one that it had. -/
theorem get?_insert (m : NameMap α) (name : String) (value : α) (key : String) :
    (m.insert name value).get? key = if key = name then some value else m.get? key := by
  simp only [get?, insert, find?_putEntry]
  split <;> rfl

/-- The number of names. -/
def size (m : NameMap α) : Nat := m.entries.length

/-- Whether there is no name. -/
def isEmpty (m : NameMap α) : Bool := m.entries.isEmpty

/-- The map of a list of entries; of several entries with one name the last counts. -/
def ofList (l : List (String × α)) : NameMap α :=
  l.foldl (fun m e ↦ m.insert e.1 e.2) empty

/-! ### Many entries at once -/

/-- Whether an entry may stand in front of another. -/
def inOrder (a b : String × α) : Bool := !decide (b.1 < a.1)

/-- The last of those entries in a row that have the same name, for every name. -/
def lastOfEach : List (String × α) → List (String × α)
  | [] => []
  | e :: rest =>
    if rest.head?.map (·.1) = some e.1 then lastOfEach rest else e :: lastOfEach rest

theorem inOrder_iff {a b : String × α} : inOrder a b = true ↔ a.1 ≤ b.1 := by
  rw [inOrder, Bool.not_eq_true', decide_eq_false_iff_not, String.not_lt]

theorem inOrder_trans (a b c : String × α) (hab : inOrder a b = true) (hbc : inOrder b c = true) :
    inOrder a c = true :=
  inOrder_iff.2 (String.le_trans (inOrder_iff.1 hab) (inOrder_iff.1 hbc))

theorem inOrder_total (a b : String × α) : (inOrder a b || inOrder b a) = true := by
  rw [Bool.or_eq_true, inOrder_iff, inOrder_iff]
  exact String.le_total a.1 b.1

theorem lastOfEach_sublist (l : List (String × α)) : (lastOfEach l).Sublist l := by
  induction l with
  | nil => exact .slnil
  | cons e rest ih =>
    rw [lastOfEach]
    split
    · exact ih.cons e
    · exact ih.cons_cons e

/-- What follows an entry in a sorted list has a greater name, unless the next one has its name. -/
theorem lt_of_mem_sorted {e f : String × α} {rest : List (String × α)}
    (h : (e :: rest).Pairwise fun a b ↦ inOrder a b = true)
    (hhead : ¬ rest.head?.map (·.1) = some e.1) (hf : f ∈ rest) : e.1 < f.1 := by
  cases rest with
  | nil => cases hf
  | cons g rest =>
    obtain ⟨he, hrest⟩ := List.pairwise_cons.1 h
    have hle : e.1 ≤ g.1 := inOrder_iff.1 (he g List.mem_cons_self)
    have hlt : e.1 < g.1 := Std.lt_of_le_of_ne hle fun heq ↦ hhead (congrArg some heq.symm)
    rcases List.mem_cons.1 hf with rfl | hf
    · exact hlt
    · exact Std.lt_of_lt_of_le hlt (inOrder_iff.1 ((List.pairwise_cons.1 hrest).1 f hf))

/-- A sorted list ascends once of each name only the last is left. -/
theorem ascending_lastOfEach {l : List (String × α)}
    (h : l.Pairwise fun a b ↦ inOrder a b = true) :
    (lastOfEach l).Pairwise (fun a b ↦ a.1 < b.1) := by
  induction l with
  | nil => exact .nil
  | cons e rest ih =>
    rw [lastOfEach]
    split
    case isTrue => exact ih (List.pairwise_cons.1 h).2
    case isFalse hhead =>
      refine List.pairwise_cons.2 ⟨fun f hf ↦ ?_, ih (List.pairwise_cons.1 h).2⟩
      exact lt_of_mem_sorted h hhead ((lastOfEach_sublist rest).subset hf)

/-- The map of a list of entries that are put in all at once: they are sorted by their names, those
of one name staying as they are, and the last of each name is kept. -/
def collect (l : List (String × α)) : NameMap α :=
  ⟨lastOfEach (l.mergeSort inOrder),
    ascending_lastOfEach (List.pairwise_mergeSort inOrder_trans inOrder_total l)⟩

/-- The entries whose names pass a test. -/
def filterNames (m : NameMap α) (p : String → Bool) : NameMap α :=
  ⟨m.entries.filter fun e ↦ p e.1, m.ascending.filter _⟩

end NameMap

end VaultAccess
