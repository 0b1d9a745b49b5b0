import Mathlib.Data.List.Nodup
import VaultAccess.Json.Record
import VaultAccess.Proofs.Json.Objects
import VaultAccess.Proofs.Lists

/-!
# What records hold

A record that was read from the members of an object holds for each of its fields what the members
hold for it (`slotOf?_eq_get?`), whatever its other fields are. So two records that were read from
the same members agree in the fields that they share (`get?_eq_get?`), and what was printed for a
field is what is read for it (`exists_of_printed`).
-/

namespace VaultAccess.Json.Record

variable {fields fields' : List String} {members : List (String × Tree)} {r r' : Record}
  {field s : String} {t : Tree} {l : List (String × Option String)} {v : Option String}

/-! ### Fields of an object -/

/-- A record holds for a field what the members hold for it. -/
theorem slotOf?_eq_get? (h : ofMembers? fields members = some r) (hfield : field ∈ fields) :
    slotOf? members field = some (r.get? field) := by
  obtain ⟨slots, hslots, rfl⟩ := Option.map_eq_some_iff.1 h
  clear h
  rw [get?]
  induction fields generalizing slots with
  | nil => cases hfield
  | cons f fields ih =>
    obtain ⟨slot, rest, hslot, hrest, rfl⟩ := mapM_cons_eq_some.1 hslots
    obtain ⟨written, hwritten, rfl⟩ := Option.map_eq_some_iff.1 hslot
    by_cases hf : f = field
    · subst hf
      rw [hwritten, List.find?_cons_of_pos (by simp)]
      rfl
    · rw [List.find?_cons_of_neg (by simpa using hf)]
      exact ih ((List.mem_cons.1 hfield).resolve_left (Ne.symm hf)) rest hrest

/-- Records of the same members agree in the fields that they share. -/
theorem get?_eq_get? (h : ofMembers? fields members = some r)
    (h' : ofMembers? fields' members = some r') (hfield : field ∈ fields)
    (hfield' : field ∈ fields') : r.get? field = r'.get? field :=
  Option.some.inj ((slotOf?_eq_get? h hfield).symm.trans (slotOf?_eq_get? h' hfield'))

/-- There is a record if no field is repeated. -/
theorem ofMembers?_isSome (h : ∀ f ∈ fields, (slotOf? members f).isSome) :
    ∃ r, ofMembers? fields members = some r := by
  induction fields with
  | nil => exact ⟨⟨[]⟩, rfl⟩
  | cons f fields ih =>
    obtain ⟨hf, hfields⟩ := List.forall_mem_cons.1 h
    obtain ⟨written, hwritten⟩ := Option.isSome_iff_exists.1 hf
    obtain ⟨r, hr⟩ := ih hfields
    obtain ⟨slots, hslots, -⟩ := Option.map_eq_some_iff.1 hr
    refine ⟨⟨(f, written) :: slots⟩, ?_⟩
    rw [ofMembers?, mapM_cons_eq_some.2 ⟨(f, written), slots, by rw [hwritten]; rfl, hslots, rfl⟩]
    rfl

/-! ### Kinds of fields -/

theorem nullable_of_text? (h : t.text? = some s) : nullable Tree.text? t = some (some s) := by
  cases t with
  | string body => exact congrArg (Option.map some) h
  | _ => cases h

/-- A field that may be missing is read from what is held for it. -/
theorem optional_congr (h : r.get? field = r'.get? field) {α : Type} (read : Tree → Option α) :
    r.optional field read = r'.optional field read := by
  rw [optional, optional, defaulted, defaulted, h]

/-- A text that must be there is one that may be. -/
theorem optional_of_required (h : r.required field Tree.text? = some s) :
    r.optional field Tree.text? = some (some s) := by
  obtain ⟨t, ht, htext⟩ := Option.bind_eq_some_iff.1 h
  rw [optional, defaulted, ht]
  exact nullable_of_text? htext

/-- A default that is put in when a field is read can be put in later as well. -/
theorem optional_of_defaulted {default : String}
    (h : r.defaulted field default Tree.text? = some s) :
    ∃ v, r.optional field Tree.text? = some v ∧ v.getD default = s := by
  rw [defaulted] at h
  rw [optional, defaulted]
  cases hget : r.get? field with
  | none =>
    rw [hget] at h
    exact ⟨none, rfl, Option.some.inj h⟩
  | some t =>
    rw [hget] at h
    exact ⟨some s, nullable_of_text? h, rfl⟩

/-! ### Members with different names -/

/-- Among members with different names a field has one at most. -/
theorem slotOf?_of_nodup (hnodup : (members.map Prod.fst).Nodup) :
    slotOf? members field = some ((members.find? fun m ↦ m.1 == field).map Prod.snd) := by
  induction members with
  | nil => rfl
  | cons m members ih =>
    rw [List.map_cons, List.nodup_cons] at hnodup
    by_cases hm : m.1 = field
    · have hrest : members.filter (fun m ↦ m.1 == field) = [] :=
        List.filter_eq_nil_iff.2 fun n hn heq ↦
          hnodup.1 (hm ▸ beq_iff_eq.1 heq ▸ List.mem_map_of_mem hn)
      rw [slotOf?, List.filter_cons_of_pos (by simpa using hm), hrest,
        List.find?_cons_of_pos (by simpa using hm)]
      rfl
    · rw [slotOf?, List.filter_cons_of_neg (by simpa using hm),
        List.find?_cons_of_neg (by simpa using hm)]
      exact ih hnodup.2

/-- And it has the one with its name. -/
theorem slotOf?_of_mem (hnodup : (members.map Prod.fst).Nodup) (hmem : (field, t) ∈ members) :
    slotOf? members field = some (some t) := by
  have hfind : ∃ m, members.find? (fun m ↦ m.1 == field) = some m :=
    Option.isSome_iff_exists.1 (List.find?_isSome.2 ⟨_, hmem, by simp⟩)
  obtain ⟨⟨name, u⟩, hu⟩ := hfind
  obtain rfl : name = field := by simpa using List.find?_some hu
  have hpair : (name, u) = (name, t) :=
    List.inj_on_of_nodup_map hnodup (List.mem_of_find?_eq_some hu) hmem rfl
  rw [slotOf?_of_nodup hnodup, hu, ← (Prod.mk.inj hpair).2]
  rfl

/-! ### Printed objects -/

/-- The members of a printed object, with their names as texts. -/
def printed (l : List (String × Option String)) : List (String × Tree) :=
  l.map fun e ↦ (e.1, treeOf e.2)

/-- The names of members are read as they were printed. -/
theorem named?_printed (l : List (String × Option String)) :
    named? (l.map fun e ↦ (bodyOf e.1, treeOf e.2)) = some (printed l) := by
  induction l with
  | nil => rfl
  | cons e l ih =>
    rw [List.map_cons, named?, ih, unescape?_bodyOf]
    rfl

/-- A printed object whose names differ is a record of all the fields it has, and holds for each of
them what was printed. -/
theorem exists_of_printed (hnodup : (l.map Prod.fst).Nodup) (hfields : l.map Prod.fst ⊆ fields) :
    ∃ r, ofMembers? fields (printed l) = some r ∧
      ∀ {field v}, (field, v) ∈ l → r.get? field = some (treeOf v) := by
  have hnames : (printed l).map Prod.fst = l.map Prod.fst := by
    rw [printed, List.map_map]
    rfl
  have hprinted : ((printed l).map Prod.fst).Nodup := hnames ▸ hnodup
  obtain ⟨r, hr⟩ : ∃ r, ofMembers? fields (printed l) = some r :=
    ofMembers?_isSome fun f _ ↦ by
      rw [slotOf?_of_nodup hprinted]
      rfl
  refine ⟨r, hr, fun {field v} hmem ↦ ?_⟩
  have hslot : slotOf? (printed l) field = some (some (treeOf v)) :=
    slotOf?_of_mem hprinted (List.mem_map_of_mem (f := fun e ↦ (e.1, treeOf e.2)) hmem)
  have hfield : field ∈ fields := hfields (List.mem_map_of_mem hmem)
  exact Option.some.inj ((slotOf?_eq_get? hr hfield).symm.trans hslot)

/-! ### Texts in printed objects -/

theorem text?_treeOf (s : String) : (treeOf (some s)).text? = some s := unescape?_bodyOf s

/-- A text that was printed is there to be required. -/
theorem required_of_printed (h : r.get? field = some (treeOf (some s))) :
    r.required field Tree.text? = some s := by
  rw [required, h]
  exact text?_treeOf s

/-- No default stands in for a text that was printed. -/
theorem defaulted_of_printed {default : String} (h : r.get? field = some (treeOf (some s))) :
    r.defaulted field default Tree.text? = some s := by
  rw [defaulted, h]
  exact text?_treeOf s

/-- Null is read as nothing, and a text as the text. -/
theorem optional_of_printed (h : r.get? field = some (treeOf v)) :
    r.optional field Tree.text? = some v := by
  rw [optional, defaulted, h]
  cases v with
  | none => rfl
  | some s => exact congrArg (Option.map some) (text?_treeOf s)

end VaultAccess.Json.Record
