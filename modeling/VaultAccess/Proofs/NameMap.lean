import VaultAccess.NameMap

/-!
# What maps from names hold

The entries of a map and what is found in it are two views of the same: a name has a value exactly
if the two stand together in the list (`get?_eq_some_iff`), and maps in which the same is found are
the same (`eq_of_get?`). A list that is in order already is the list of entries of its own map
(`entries_ofList`).

Of the entries that are put into a map the last of each name counts (`get?_ofList`). When they are
put in all at once they are sorted first, and it has to be shown that the last of a name is still the
last of it then: sorting keeps the order of entries with one name (`filter_mergeSort`), so it makes
no difference (`collect_eq_ofList`).
-/

namespace VaultAccess

variable {α : Type} {name : String} {value : α} {l : List (String × α)}

/-- An entry whose name comes after all others goes to the end. -/
theorem putEntry_of_forall_lt (h : ∀ e ∈ l, e.1 < name) :
    putEntry name value l = l ++ [(name, value)] := by
  induction l with
  | nil => rfl
  | cons a rest ih =>
    have hlt : a.1 < name := h a List.mem_cons_self
    have hnot : ¬ name < a.1 := String.lt_asymm hlt
    have hne : name ≠ a.1 := fun heq ↦ String.lt_irrefl name (heq ▸ hlt)
    rw [putEntry, if_neg hnot, if_neg hne, ih fun e he ↦ h e (List.mem_cons_of_mem _ he)]
    rfl

namespace NameMap

variable {m : NameMap α} {p : String → Bool}

theorem get?_eq_some_iff : m.get? name = some value ↔ (name, value) ∈ m.entries := by
  rcases m with ⟨l, h⟩
  show (l.find? fun e ↦ e.1 == name).map (·.2) = some value ↔ (name, value) ∈ l
  induction l with
  | nil => simp
  | cons a rest ih =>
    obtain ⟨hlt, hrest⟩ := List.pairwise_cons.1 h
    by_cases ha : a.1 = name
    · -- names after the first are greater, so only the first entry can have this one
      have hnot : (name, value) ∉ rest := fun hmem ↦ by
        have hafter : a.1 < name := hlt (name, value) hmem
        exact String.lt_irrefl name (ha ▸ hafter)
      rw [List.find?_cons_of_pos (by simp [ha]), List.mem_cons]
      simp only [Option.map_some, Option.some.injEq, hnot, or_false]
      exact ⟨fun hv ↦ Prod.ext ha.symm hv.symm, fun he ↦ (congrArg Prod.snd he).symm⟩
    · have hne : (name, value) ≠ a := fun he ↦ ha (congrArg Prod.fst he).symm
      rw [List.find?_cons_of_neg (by simpa using ha), ih hrest, List.mem_cons]
      simp [hne]

/-- A name has a value exactly if it is the name of an entry. -/
theorem isSome_get?_iff : (m.get? name).isSome ↔ name ∈ m.entries.map Prod.fst := by
  rw [Option.isSome_iff_exists, List.mem_map]
  constructor
  · rintro ⟨value, hvalue⟩
    exact ⟨(name, value), get?_eq_some_iff.1 hvalue, rfl⟩
  · rintro ⟨⟨_, value⟩, hmem, rfl⟩
    exact ⟨value, get?_eq_some_iff.2 hmem⟩

theorem get?_filterNames :
    (m.filterNames p).get? name = if p name = true then m.get? name else none := by
  ext value
  rw [get?_eq_some_iff, filterNames, List.mem_filter, ← get?_eq_some_iff]
  split <;> simp [*]

/-- Entries that are put in one after the other, each after all those before, stand in that order.
-/
theorem entries_foldl_insert (h : (m.entries ++ l).Pairwise fun a b ↦ a.1 < b.1) :
    (l.foldl (fun m e ↦ m.insert e.1 e.2) m).entries = m.entries ++ l := by
  induction l generalizing m with
  | nil => exact (List.append_nil _).symm
  | cons a rest ih =>
    have hlast : ∀ e ∈ m.entries, e.1 < a.1 := fun e he ↦
      (List.pairwise_append.1 h).2.2 e he a List.mem_cons_self
    have hput : (m.insert a.1 a.2).entries = m.entries ++ [a] := putEntry_of_forall_lt hlast
    have hsplit : m.entries ++ a :: rest = (m.insert a.1 a.2).entries ++ rest := by
      rw [hput, List.append_assoc]
      rfl
    rw [hsplit] at h ⊢
    exact ih h

/-- A list in order is the list of entries of its map. -/
theorem entries_ofList (h : l.Pairwise fun a b ↦ a.1 < b.1) : (ofList l).entries = l :=
  entries_foldl_insert (m := empty) h

/-! ### Maps in which the same is found -/

theorem nodup_names (m : NameMap α) : (m.entries.map Prod.fst).Nodup :=
  List.pairwise_map.2 (m.ascending.imp fun hlt ↦ Std.ne_of_lt hlt)

/-- A map is given by what is found in it. -/
theorem eq_of_get? {m m' : NameMap α} (h : ∀ name, m.get? name = m'.get? name) : m = m' := by
  have hnodup : ∀ m : NameMap α, m.entries.Nodup := fun m ↦
    m.ascending.imp fun hlt heq ↦ Std.ne_of_lt hlt (congrArg Prod.fst heq)
  have hperm : m.entries.Perm m'.entries := by
    refine (List.perm_ext_iff_of_nodup (hnodup m) (hnodup m')).2 fun ⟨name, value⟩ ↦ ?_
    rw [← get?_eq_some_iff, ← get?_eq_some_iff, h]
  exact ext (hperm.eq_of_pairwise (fun a b _ _ hab hba ↦ absurd hba (String.lt_asymm hab))
    m.ascending m'.ascending)

/-! ### The last entry of a name -/

/-- The value of the last entry of a name. -/
def lastValue (name : String) : List (String × α) → Option α
  | [] => none
  | e :: rest => (lastValue name rest).or (if e.1 = name then some e.2 else none)

theorem lastValue_eq_none_iff : lastValue name l = none ↔ name ∉ l.map Prod.fst := by
  induction l with
  | nil => simp [lastValue]
  | cons e rest ih =>
    rw [lastValue, Option.or_eq_none_iff, ih, ite_eq_right_iff, List.map_cons, List.mem_cons,
      not_or, and_comm]
    simp [eq_comm]

/-- A value is the last of its name exactly if no entry of the name follows it. -/
theorem lastValue_eq_some_iff : lastValue name l = some value ↔
    ∃ before after, l = before ++ (name, value) :: after ∧ name ∉ after.map Prod.fst := by
  induction l with
  | nil => simp [lastValue]
  | cons e rest ih =>
    rw [lastValue, Option.or_eq_some_iff, ih]
    constructor
    · rintro (⟨before, after, rfl, hafter⟩ | ⟨hnone, he⟩)
      · exact ⟨e :: before, after, rfl, hafter⟩
      · obtain ⟨rfl, rfl⟩ : e.1 = name ∧ e.2 = value := by simpa using he
        exact ⟨[], rest, rfl, lastValue_eq_none_iff.1 hnone⟩
    · rintro ⟨before, after, hl, hafter⟩
      cases before with
      | nil =>
        obtain ⟨rfl, rfl⟩ := List.cons.inj hl
        exact .inr ⟨lastValue_eq_none_iff.2 hafter, if_pos rfl⟩
      | cons f before =>
        obtain ⟨rfl, rfl⟩ := List.cons.inj hl
        exact .inl ⟨before, after, rfl, hafter⟩

theorem get?_foldl_insert : (l.foldl (fun m e ↦ m.insert e.1 e.2) m).get? name =
    (lastValue name l).or (m.get? name) := by
  induction l generalizing m with
  | nil => rfl
  | cons e rest ih =>
    rw [List.foldl_cons, ih, get?_insert, lastValue, Option.or_assoc]
    by_cases he : e.1 = name
    · simp [he]
    · simp [he, Ne.symm he]

/-- Of the entries that are put in, the last of each name is found. -/
theorem get?_ofList : (ofList l).get? name = lastValue name l := by
  rw [ofList, get?_foldl_insert, get?_empty, Option.or_none]

/-! ### Entries that are put in all at once -/

theorem lastValue_filter : lastValue name (l.filter fun e ↦ e.1 == name) = lastValue name l := by
  induction l with
  | nil => rfl
  | cons e rest ih =>
    by_cases he : e.1 = name
    · rw [List.filter_cons_of_pos (by simpa using he), lastValue, lastValue, ih]
    · rw [List.filter_cons_of_neg (by simpa using he), lastValue, if_neg he, Option.or_none, ih]

/-- Sorting keeps the order of the entries of one name. -/
theorem filter_mergeSort : (l.mergeSort inOrder).filter (fun e ↦ e.1 == name) =
    l.filter fun e ↦ e.1 == name := by
  let ofName : String × α → Bool := fun e ↦ e.1 == name
  have hsame : (l.filter ofName).Pairwise fun a b ↦ inOrder a b = true := by
    refine List.pairwise_of_forall_mem_list fun a ha b hb ↦ ?_
    have ha : a.1 = name := by simpa [ofName] using (List.mem_filter.1 ha).2
    have hb : b.1 = name := by simpa [ofName] using (List.mem_filter.1 hb).2
    exact inOrder_iff.2 (ha.trans hb.symm ▸ String.le_refl a.1)
  have hsublist : (l.filter ofName).Sublist ((l.mergeSort inOrder).filter ofName) := by
    have hsorted := (List.sublist_mergeSort inOrder_trans inOrder_total hsame
      List.filter_sublist).filter ofName
    rwa [List.filter_filter, List.filter_congr fun e _ ↦ Bool.and_self (ofName e)] at hsorted
  exact (hsublist.eq_of_length ((List.mergeSort_perm l inOrder).filter ofName).length_eq.symm).symm

/-- Of a sorted list, what is found among the last of each name is the last of the name. -/
theorem find?_lastOfEach (h : l.Pairwise fun a b ↦ inOrder a b = true) :
    ((lastOfEach l).find? fun e ↦ e.1 == name).map (·.2) = lastValue name l := by
  induction l with
  | nil => rfl
  | cons e rest ih =>
    have hrest := ih (List.pairwise_cons.1 h).2
    rw [lastOfEach, lastValue]
    split
    case isTrue hhead =>
      -- the next entry has the same name, so this one is not the last of it
      rw [hrest]
      split
      case isFalse => rw [Option.or_none]
      case isTrue he =>
        obtain ⟨f, hf, hname⟩ := Option.map_eq_some_iff.1 hhead
        have hsome : lastValue name rest ≠ none := fun hnone ↦
          lastValue_eq_none_iff.1 hnone (List.mem_map.2 ⟨f, List.mem_of_mem_head? hf, hname.trans he⟩)
        obtain ⟨value, hvalue⟩ := Option.ne_none_iff_exists'.1 hsome
        rw [hvalue]
        rfl
    case isFalse hhead =>
      by_cases he : e.1 = name
      · have hnone : lastValue name rest = none := by
          rw [lastValue_eq_none_iff]
          intro hmem
          obtain ⟨f, hf, hname⟩ := List.mem_map.1 hmem
          have hlt : e.1 < f.1 := lt_of_mem_sorted h hhead hf
          exact String.lt_irrefl name (by rwa [he, hname] at hlt)
        rw [List.find?_cons_of_pos (by simpa using he), hnone, if_pos he]
        rfl
      · rw [List.find?_cons_of_neg (by simpa using he), hrest, if_neg he, Option.or_none]

theorem get?_collect : (collect l).get? name = lastValue name l := by
  have hsorted := List.pairwise_mergeSort inOrder_trans inOrder_total l
  have hfind : (collect l).get? name = lastValue name (l.mergeSort inOrder) :=
    find?_lastOfEach hsorted
  rw [hfind, ← lastValue_filter, filter_mergeSort, lastValue_filter]

/-- Entries that are put in all at once make the map that they make one by one. -/
theorem collect_eq_ofList : collect l = ofList l :=
  eq_of_get? fun _ ↦ get?_collect.trans get?_ofList.symm

end NameMap

end VaultAccess
