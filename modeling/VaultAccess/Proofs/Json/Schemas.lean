import Mathlib.Data.List.Perm.Basic
import Mathlib.Data.Option.Basic
import VaultAccess.Proofs.Json.Records

/-!
# What a record does not depend on

A schema says of which trees the fields of records are read, and how deep that goes. By it a
document can be changed in ways that should make no difference (`Schema.Changes`): the members of a
record may come in another order, members that are no fields may be put in, a field that has a default
may be written with it or left out, and any of this may be done inside a field.

A reader respects a schema if no such change makes a difference to it (`Schema.Respects`). The proof
goes once over the changes, for the slots of any record (`slots_of_changes`); the readers of records
are put together of readers of fields, and so are the proofs that they respect their schemas.
-/

namespace VaultAccess.Json

/-- What a tree is read as: as a whole, or as a record with these fields, each with the tree that
its absence stands for, if it may be absent, and with what it is read as itself. -/
inductive Schema where
  | plain
  | record (fields : List (String × Option Tree × Schema))

namespace Schema

/-- A field of a record. -/
abbrev Field := String × Option Tree × Schema

/-- A change that should make no difference. -/
inductive Changes : Schema → Tree → Tree → Prop
  /-- The members come in another order. -/
  | reorder {fields : List Field} {ms ms' : List (List UInt8 × Tree)} (h : ms.Perm ms') :
      Changes (.record fields) (.object ms) (.object ms')
  /-- There is another member. Its name is a text and that of no field. -/
  | insert {fields : List Field} {before after : List (List UInt8 × Tree)} {key : List UInt8}
      {name : String} {t : Tree} (hkey : unescape? key = some name)
      (hname : name ∉ fields.map (·.1)) :
      Changes (.record fields) (.object (before ++ after)) (.object (before ++ (key, t) :: after))
  /-- A field that is not written is written with its default. -/
  | fill {fields : List Field} {before after : List (List UInt8 × Tree)} {key : List UInt8}
      {name : String} {default : Tree} {schema : Schema} (hkey : unescape? key = some name)
      (hfield : (name, some default, schema) ∈ fields)
      (habsent : ∀ m ∈ before ++ after, unescape? m.1 ≠ some name) :
      Changes (.record fields) (.object (before ++ after))
        (.object (before ++ (key, default) :: after))
  /-- A field is changed. -/
  | member {fields : List Field} {before after : List (List UInt8 × Tree)} {key : List UInt8}
      {field : Field} {t t' : Tree} (hkey : unescape? key = some field.1) (hfield : field ∈ fields)
      (h : Changes field.2.2 t t') :
      Changes (.record fields) (.object (before ++ (key, t) :: after))
        (.object (before ++ (key, t') :: after))
  /-- A field is changed in a record that is written as an array. -/
  | item {fields : List Field} {before after : List Tree} {field : Field} {t t' : Tree}
      (hfield : fields[before.length]? = some field) (h : Changes field.2.2 t t') :
      Changes (.record fields) (.array (before ++ t :: after)) (.array (before ++ t' :: after))

variable {α β : Type} {schema : Schema} {fields : List Field} {field : Field}

/-- No change makes a difference to a reader. -/
def Respects (schema : Schema) (read : Tree → α) : Prop :=
  ∀ t t', schema.Changes t t' → read t = read t'

theorem respects_plain {read : Tree → α} : plain.Respects read := nofun

/-! ### Slots -/

/-- What becomes of the slot of a field. -/
inductive SlotChanges (field : Field) : Option Tree → Option Tree → Prop
  | same {slot : Option Tree} : SlotChanges field slot slot
  | fill {default : Tree} (h : field.2.1 = some default) : SlotChanges field none (some default)
  | inside {t t' : Tree} (h : field.2.2.Changes t t') : SlotChanges field (some t) (some t')

end Schema

namespace Record

open Schema

variable {α β : Type} {fields : List Field} {names : List String} {r r' : Record}
  {before after : List (List UInt8 × Tree)} {members members' : List (String × Tree)}

/-- The slots of a record are changed one by one. -/
def Changes (fields : List Field) (r r' : Record) : Prop :=
  ∀ field ∈ fields, SlotChanges field (r.get? field.1) (r'.get? field.1)

/-! ### The members of an object -/

theorem named?_nil : named? [] = some [] := rfl

theorem named?_cons_eq_some {m : List UInt8 × Tree} {ms : List (List UInt8 × Tree)} :
    named? (m :: ms) = some members ↔ ∃ name rest, unescape? m.1 = some name ∧
      named? ms = some rest ∧ members = (name, m.2) :: rest := by
  simp only [named?, Option.bind_eq_bind, Option.bind_eq_some_iff, Option.pure_def,
    Option.some.injEq]
  constructor
  · rintro ⟨name, hname, rest, hrest, rfl⟩
    exact ⟨name, rest, hname, hrest, rfl⟩
  · rintro ⟨name, rest, hname, hrest, rfl⟩
    exact ⟨name, hname, rest, hrest, rfl⟩

theorem named?_append_eq_some {ms ms' : List (List UInt8 × Tree)} :
    named? (ms ++ ms') = some members ↔ ∃ first rest, named? ms = some first ∧
      named? ms' = some rest ∧ members = first ++ rest := by
  induction ms generalizing members with
  | nil => simp [named?]
  | cons m ms ih =>
    simp only [List.cons_append, named?_cons_eq_some, ih]
    constructor
    · rintro ⟨name, _, hname, ⟨first, rest, hfirst, hrest, rfl⟩, rfl⟩
      exact ⟨(name, m.2) :: first, rest, ⟨name, first, hname, hfirst, rfl⟩, hrest, rfl⟩
    · rintro ⟨_, rest, ⟨name, first, hname, hfirst, rfl⟩, hrest, rfl⟩
      exact ⟨name, first ++ rest, hname, ⟨first, rest, hfirst, hrest, rfl⟩, rfl⟩

/-- A name is what is written for it. -/
theorem exists_key_of_named? {ms : List (List UInt8 × Tree)} (h : named? ms = some members)
    {m : String × Tree} (hm : m ∈ members) : ∃ m' ∈ ms, unescape? m'.1 = some m.1 := by
  induction ms generalizing members with
  | nil =>
    obtain rfl := Option.some.inj h
    cases hm
  | cons m' ms ih =>
    obtain ⟨name, rest, hname, hrest, rfl⟩ := named?_cons_eq_some.1 h
    rcases List.mem_cons.1 hm with rfl | hm
    · exact ⟨m', List.mem_cons_self, hname⟩
    · obtain ⟨m', hm', hkey⟩ := ih hrest hm
      exact ⟨m', List.mem_cons_of_mem _ hm', hkey⟩

/-- Members in another order have their names in another order. -/
theorem exists_named?_of_perm {ms ms' : List (List UInt8 × Tree)} (h : ms.Perm ms')
    (hms : named? ms = some members) :
    ∃ members', named? ms' = some members' ∧ members.Perm members' := by
  induction h generalizing members with
  | nil => exact ⟨members, hms, .refl _⟩
  | cons m _ ih =>
    obtain ⟨name, rest, hname, hrest, rfl⟩ := named?_cons_eq_some.1 hms
    obtain ⟨rest', hrest', hperm⟩ := ih hrest
    exact ⟨_, named?_cons_eq_some.2 ⟨name, rest', hname, hrest', rfl⟩, hperm.cons _⟩
  | swap m m' ms =>
    obtain ⟨name', _, hname', htail, rfl⟩ := named?_cons_eq_some.1 hms
    obtain ⟨name, rest, hname, hrest, rfl⟩ := named?_cons_eq_some.1 htail
    exact ⟨_, named?_cons_eq_some.2 ⟨name, _, hname,
      named?_cons_eq_some.2 ⟨name', rest, hname', hrest, rfl⟩, rfl⟩, .swap ..⟩
  | trans _ _ ih ih' =>
    obtain ⟨_, hmiddle, hperm⟩ := ih hms
    obtain ⟨members', hmembers', hperm'⟩ := ih' hmiddle
    exact ⟨members', hmembers', hperm.trans hperm'⟩

/-! ### The slot of a field -/

theorem slotOf?_perm (h : members.Perm members') (name : String) :
    slotOf? members name = slotOf? members' name := by
  have hfilter := h.filter fun m ↦ m.1 == name
  rw [slotOf?, slotOf?]
  generalize members.filter (fun m ↦ m.1 == name) = found at hfilter ⊢
  generalize members'.filter (fun m ↦ m.1 == name) = found' at hfilter ⊢
  rcases found with _ | ⟨m, _ | ⟨m', rest⟩⟩
  · rw [hfilter.nil_eq]
  · rw [hfilter.singleton_eq]
  · -- Two members of the name are two in any order.
    have hlength := hfilter.length_eq
    rcases found' with _ | ⟨_, _ | ⟨_, _⟩⟩
    · cases hlength
    · cases hlength
    · rfl

/-- The members of other names do not matter. -/
theorem slotOf?_congr {name : String}
    (h : members.filter (fun m ↦ m.1 == name) = members'.filter fun m ↦ m.1 == name) :
    slotOf? members name = slotOf? members' name := by
  rw [slotOf?, slotOf?, h]

theorem filter_eq_nil_of_ne {name : String} (h : ∀ m ∈ members, m.1 ≠ name) :
    members.filter (fun m ↦ m.1 == name) = [] :=
  List.filter_eq_nil_iff.2 fun m hm ↦ by simpa using h m hm

variable {first rest : List (String × Tree)} {name : String} {t t' : Tree}

theorem slotOf?_insert_of_ne {m : String × Tree} (h : m.1 ≠ name) :
    slotOf? (first ++ m :: rest) name = slotOf? (first ++ rest) name :=
  slotOf?_congr (by simp [List.filter_append, h])

theorem slotOf?_of_absent (h : ∀ m ∈ members, m.1 ≠ name) : slotOf? members name = some none := by
  rw [slotOf?, filter_eq_nil_of_ne h]

/-- The only member of a name. -/
theorem slotOf?_insert_of_absent (h : ∀ m ∈ first ++ rest, m.1 ≠ name) :
    slotOf? (first ++ (name, t) :: rest) name = some (some t) := by
  obtain ⟨hfirst, hrest⟩ := List.forall_mem_append.1 h
  simp [slotOf?, List.filter_append, filter_eq_nil_of_ne hfirst, filter_eq_nil_of_ne hrest]

/-- A name that has other members has no slot. -/
theorem slotOf?_insert_of_mem {m : String × Tree} (hm : m ∈ first ++ rest) (hname : m.1 = name) :
    slotOf? (first ++ (name, t) :: rest) name = none := by
  have hperm : (first ++ (name, t) :: rest).Perm ((name, t) :: (first ++ rest)) :=
    List.perm_middle
  rw [slotOf?_perm hperm, slotOf?, List.filter_cons_of_pos (by simp)]
  have hne : (first ++ rest).filter (fun m ↦ m.1 == name) ≠ [] :=
    List.ne_nil_of_mem (List.mem_filter.2 ⟨hm, by simpa using hname⟩)
  obtain ⟨m', found, hfound⟩ := List.exists_cons_of_ne_nil hne
  rw [hfound]

/-! ### Changes of a record -/

variable {field : Field} {ms ms' middle middle' : List (List UInt8 × Tree)}
  {named named' : List (String × Tree)} {slot slot' : Option (Option Tree)}

theorem slotChanges_refl : Option.Rel (SlotChanges field) slot slot := by
  cases slot with
  | none => exact .none
  | some _ => exact .some .same

/-- What stands at one place does not matter for whether the names around it are texts. -/
theorem named?_around (before after : List (List UInt8 × Tree))
    (hmiddle : named? middle = some named) (hmiddle' : named? middle' = some named') :
    named? (before ++ (middle ++ after)) = none ∧ named? (before ++ (middle' ++ after)) = none ∨
      ∃ first rest, named? before = some first ∧ named? after = some rest ∧
        named? (before ++ (middle ++ after)) = some (first ++ (named ++ rest)) ∧
        named? (before ++ (middle' ++ after)) = some (first ++ (named' ++ rest)) := by
  have hall : ∀ {middle named}, named? middle = some named → ∀ {first rest},
      named? before = some first → named? after = some rest →
        named? (before ++ (middle ++ after)) = some (first ++ (named ++ rest)) :=
    fun hmiddle _ _ hfirst hrest ↦ named?_append_eq_some.2
      ⟨_, _, hfirst, named?_append_eq_some.2 ⟨_, _, hmiddle, hrest, rfl⟩, rfl⟩
  have hnone : (named? before = none ∨ named? after = none) → ∀ middle,
      named? (before ++ (middle ++ after)) = none := by
    rintro hnone middle
    rw [Option.eq_none_iff_forall_ne_some]
    intro members hmembers
    obtain ⟨_, _, hfirst, hmembers, -⟩ := named?_append_eq_some.1 hmembers
    obtain ⟨_, _, -, hrest, -⟩ := named?_append_eq_some.1 hmembers
    rcases hnone with hnone | hnone
    · exact nomatch hnone.symm.trans hfirst
    · exact nomatch hnone.symm.trans hrest
  cases hfirst : named? before with
  | none => exact .inl ⟨hnone (.inl hfirst) _, hnone (.inl hfirst) _⟩
  | some first =>
    cases hrest : named? after with
    | none => exact .inl ⟨hnone (.inr hrest) _, hnone (.inr hrest) _⟩
    | some rest =>
      exact .inr ⟨first, rest, rfl, rfl, hall hmiddle hfirst hrest, hall hmiddle' hfirst hrest⟩

/-- The slots of all fields are changed one by one, if the names of the members are texts. -/
def SlotsChange (fields : List Field) (ms ms' : List (List UInt8 × Tree)) : Prop :=
  named? ms = none ∧ named? ms' = none ∨
    ∃ members members', named? ms = some members ∧ named? ms' = some members' ∧
      ∀ field ∈ fields, Option.Rel (SlotChanges field) (slotOf? members field.1)
        (slotOf? members' field.1)

theorem slotsChange_of_perm (h : ms.Perm ms') : SlotsChange fields ms ms' := by
  cases hms : named? ms with
  | some members =>
    obtain ⟨members', hms', hmembers⟩ := exists_named?_of_perm h hms
    exact .inr ⟨members, members', hms, hms', fun field _ ↦
      slotOf?_perm hmembers field.1 ▸ slotChanges_refl⟩
  | none =>
    cases hms' : named? ms' with
    | none => exact .inl ⟨hms, hms'⟩
    | some members' =>
      obtain ⟨_, hsome, -⟩ := exists_named?_of_perm h.symm hms'
      exact nomatch hms.symm.trans hsome

variable {key : List UInt8}

theorem named?_singleton (hkey : unescape? key = some name) (t : Tree) :
    named? [(key, t)] = some [(name, t)] :=
  named?_cons_eq_some.2 ⟨name, [], hkey, rfl, rfl⟩

/-- A member that is no field leaves all slots alone. -/
theorem slotsChange_of_insert (hkey : unescape? key = some name)
    (hname : name ∉ fields.map (·.1)) :
    SlotsChange fields (before ++ after) (before ++ (key, t) :: after) := by
  obtain hnone | ⟨first, rest, -, -, hms, hms'⟩ :=
    named?_around before after named?_nil (named?_singleton hkey t)
  · exact .inl hnone
  · refine .inr ⟨_, _, hms, hms', fun field hfield ↦ ?_⟩
    have hne : name ≠ field.1 := fun heq ↦ hname (heq ▸ List.mem_map_of_mem hfield)
    have hslot : slotOf? (first ++ (name, t) :: rest) field.1 = slotOf? (first ++ rest) field.1 :=
      slotOf?_insert_of_ne hne
    exact hslot ▸ slotChanges_refl

/-- A field that was not there fills its slot. -/
theorem slotsChange_of_fill {default : Tree} {schema : Schema} (hnodup : (fields.map (·.1)).Nodup)
    (hkey : unescape? key = some name) (hfield : (name, some default, schema) ∈ fields)
    (habsent : ∀ m ∈ before ++ after, unescape? m.1 ≠ some name) :
    SlotsChange fields (before ++ after) (before ++ (key, default) :: after) := by
  obtain hnone | ⟨first, rest, hfirst, hrest, hms, hms'⟩ :=
    named?_around before after named?_nil (named?_singleton hkey default)
  · exact .inl hnone
  · refine .inr ⟨_, _, hms, hms', fun field' hfield' ↦ ?_⟩
    have hfree : ∀ m ∈ first ++ rest, m.1 ≠ name := by
      rintro m hm rfl
      obtain ⟨m', hm', hkey'⟩ := exists_key_of_named?
        (named?_append_eq_some.2 ⟨first, rest, hfirst, hrest, rfl⟩) hm
      exact habsent m' hm' hkey'
    by_cases hname : name = field'.1
    · obtain rfl := List.inj_on_of_nodup_map hnodup hfield hfield' hname
      show Option.Rel _ (slotOf? (first ++ rest) name)
        (slotOf? (first ++ (name, default) :: rest) name)
      rw [slotOf?_of_absent hfree, slotOf?_insert_of_absent hfree]
      exact .some (.fill rfl)
    · have hslot : slotOf? (first ++ (name, default) :: rest) field'.1 =
          slotOf? (first ++ rest) field'.1 := slotOf?_insert_of_ne hname
      exact hslot ▸ slotChanges_refl

/-- A field that is changed changes in its slot, unless it is repeated: then there is none. -/
theorem slotsChange_of_member (hnodup : (fields.map (·.1)).Nodup)
    (hkey : unescape? key = some field.1) (hfield : field ∈ fields) (h : field.2.2.Changes t t') :
    SlotsChange fields (before ++ (key, t) :: after) (before ++ (key, t') :: after) := by
  obtain hnone | ⟨first, rest, -, -, hms, hms'⟩ :=
    named?_around before after (named?_singleton hkey t) (named?_singleton hkey t')
  · exact .inl hnone
  · refine .inr ⟨_, _, hms, hms', fun field' hfield' ↦ ?_⟩
    show Option.Rel _ (slotOf? (first ++ (field.1, t) :: rest) field'.1)
      (slotOf? (first ++ (field.1, t') :: rest) field'.1)
    by_cases hname : field.1 = field'.1
    · obtain rfl := List.inj_on_of_nodup_map hnodup hfield hfield' hname
      by_cases hfree : ∀ m ∈ first ++ rest, m.1 ≠ field.1
      · rw [slotOf?_insert_of_absent hfree, slotOf?_insert_of_absent hfree]
        exact .some (.inside h)
      · simp only [ne_eq, not_forall, not_not] at hfree
        obtain ⟨m, hm, hrepeated⟩ := hfree
        rw [slotOf?_insert_of_mem hm hrepeated, slotOf?_insert_of_mem hm hrepeated]
        exact .none
    · rw [slotOf?_insert_of_ne hname, slotOf?_insert_of_ne hname]
      exact slotChanges_refl

theorem slots_of_changes (hnodup : (fields.map (·.1)).Nodup)
    (h : (Schema.record fields).Changes (.object ms) (.object ms')) :
    SlotsChange fields ms ms' := by
  cases h with
  | reorder hperm => exact slotsChange_of_perm hperm
  | insert hkey hname => exact slotsChange_of_insert hkey hname
  | fill hkey hfield habsent => exact slotsChange_of_fill hnodup hkey hfield habsent
  | member hkey hfield hinside => exact slotsChange_of_member hnodup hkey hfield hinside

theorem isSome_eq_of_rel {γ δ : Type} {rel : γ → δ → Prop} {a : Option γ} {b : Option δ}
    (h : Option.Rel rel a b) : a.isSome = b.isSome := by
  cases h <;> rfl

/-- Without one slot there is no record. -/
theorem ofMembers?_eq_none (hfield : name ∈ names) (h : slotOf? members name = none) :
    ofMembers? names members = none := by
  rw [Option.eq_none_iff_forall_ne_some]
  intro r hr
  exact nomatch h.symm.trans (slotOf?_eq_get? hr hfield)

theorem ofMembers?_rel
    (h : ∀ field ∈ fields, Option.Rel (SlotChanges field) (slotOf? members field.1)
      (slotOf? members' field.1)) :
    Option.Rel (Changes fields) (ofMembers? (fields.map (·.1)) members)
      (ofMembers? (fields.map (·.1)) members') := by
  by_cases hall : ∀ field ∈ fields, (slotOf? members field.1).isSome = true
  · have hall' : ∀ field ∈ fields, (slotOf? members' field.1).isSome = true :=
      fun field hfield ↦ isSome_eq_of_rel (h field hfield) ▸ hall field hfield
    obtain ⟨r, hr⟩ : ∃ r, ofMembers? (fields.map (·.1)) members = some r :=
      ofMembers?_isSome (List.forall_mem_map.2 hall)
    obtain ⟨r', hr'⟩ : ∃ r, ofMembers? (fields.map (·.1)) members' = some r :=
      ofMembers?_isSome (List.forall_mem_map.2 hall')
    rw [hr, hr']
    refine .some fun field hfield ↦ ?_
    have hmem : field.1 ∈ fields.map (·.1) := List.mem_map_of_mem hfield
    have hrel := h field hfield
    rw [slotOf?_eq_get? hr hmem, slotOf?_eq_get? hr' hmem] at hrel
    cases hrel with
    | some hrel => exact hrel
  · simp only [not_forall, Bool.not_eq_true] at hall
    obtain ⟨field, hfield, hnone⟩ := hall
    have hmem : field.1 ∈ fields.map (·.1) := List.mem_map_of_mem hfield
    have hnone' : (slotOf? members' field.1).isSome = false :=
      (isSome_eq_of_rel (h field hfield)).symm.trans hnone
    rw [ofMembers?_eq_none hmem (Option.not_isSome_iff_eq_none.1 (by simp [hnone])),
      ofMembers?_eq_none hmem (Option.not_isSome_iff_eq_none.1 (by simp [hnone']))]
    exact .none

theorem get?_cons_self {slots : List (String × Option Tree)} {slot : Option Tree} :
    get? ⟨(name, slot) :: slots⟩ name = slot := by
  rw [get?, List.find?_cons_of_pos (by simp)]
  rfl

theorem get?_cons_of_ne {slots : List (String × Option Tree)} {slot : Option Tree}
    {first : String} (h : first ≠ name) :
    get? ⟨(first, slot) :: slots⟩ name = get? ⟨slots⟩ name := by
  rw [get?, get?, List.find?_cons_of_neg (by simpa using h)]

/-- A first slot is changed or others are. -/
theorem Changes.cons {slots slots' : List (String × Option Tree)} {slot slot' : Option Tree}
    (hnodup : ((field :: fields).map (·.1)).Nodup) (hslot : SlotChanges field slot slot')
    (h : Changes fields ⟨slots⟩ ⟨slots'⟩) :
    Changes (field :: fields) ⟨(field.1, slot) :: slots⟩ ⟨(field.1, slot') :: slots'⟩ := by
  rw [List.map_cons, List.nodup_cons] at hnodup
  refine List.forall_mem_cons.2 ⟨?_, fun f hf ↦ ?_⟩
  · rw [get?_cons_self, get?_cons_self]
    exact hslot
  · have hne : field.1 ≠ f.1 := fun heq ↦ hnodup.1 (heq ▸ List.mem_map_of_mem hf)
    rw [get?_cons_of_ne hne, get?_cons_of_ne hne]
    exact h f hf

/-- An array holds its items for the fields in their order. -/
theorem ofItems?_rel {items : List Tree} {t t' : Tree} (front : List Tree)
    (hnodup : (fields.map (·.1)).Nodup) (hfield : fields[front.length]? = some field)
    (h : field.2.2.Changes t t') :
    Option.Rel (Changes fields)
      ((ofItems? (fields.map (·.1)) (front ++ t :: items)).map mk)
      ((ofItems? (fields.map (·.1)) (front ++ t' :: items)).map mk) := by
  induction front generalizing fields with
  | nil =>
    obtain ⟨_, rfl⟩ := List.head?_eq_some_iff.1 (List.head?_eq_getElem?.trans hfield)
    rw [List.nil_append, List.nil_append, List.map_cons, ofItems?, ofItems?]
    cases ofItems? _ items with
    | none => exact .none
    | some slots => exact .some (.cons hnodup (.inside h) fun _ _ ↦ .same)
  | cons u front ih =>
    cases fields with
    | nil => cases hfield
    | cons f fields =>
      have hrest := ih (List.nodup_cons.1 hnodup).2 hfield
      rw [List.cons_append, List.cons_append, List.map_cons, ofItems?, ofItems?]
      revert hrest
      generalize ofItems? _ (front ++ t :: items) = slots
      generalize ofItems? _ (front ++ t' :: items) = slots'
      intro hrest
      cases slots <;> cases slots' <;> cases hrest
      · exact .none
      · exact .some (.cons hnodup .same ‹_›)

/-- A change of a tree is one of the record that it is read as, if it is read. -/
theorem ofTree?_rel {t t' : Tree} (hnodup : (fields.map (·.1)).Nodup)
    (h : (Schema.record fields).Changes t t') :
    Option.Rel (Changes fields) (ofTree? (fields.map (·.1)) t) (ofTree? (fields.map (·.1)) t') := by
  have hobject : ∀ {ms ms' : List (List UInt8 × Tree)},
      (Schema.record fields).Changes (.object ms) (.object ms') →
        Option.Rel (Changes fields) (ofTree? (fields.map (·.1)) (.object ms))
          (ofTree? (fields.map (·.1)) (.object ms')) := by
    intro ms ms' h
    rw [ofTree?, ofTree?]
    obtain ⟨hms, hms'⟩ | ⟨members, members', hms, hms', hslots⟩ := slots_of_changes hnodup h
    · rw [hms, hms']
      exact .none
    · rw [hms, hms']
      exact ofMembers?_rel hslots
  cases h with
  | item hfield hinside => exact ofItems?_rel _ hnodup hfield hinside
  | reorder hperm => exact hobject (.reorder hperm)
  | insert hkey hname => exact hobject (.insert hkey hname)
  | fill hkey hfield habsent => exact hobject (.fill hkey hfield habsent)
  | member hkey hfield hinside => exact hobject (.member hkey hfield hinside)

end Record

/-! ### Readers of records -/

namespace Schema

variable {α β : Type} {schema : Schema} {fields : List Field} {name : String}

/-- No change makes a difference to a reader of fields. -/
def RespectsFields (fields : List Field) (read : Record → α) : Prop :=
  ∀ r r', Record.Changes fields r r' → read r = read r'

/-- A record is read through its fields. -/
theorem respects_record {read : Record → Option α} (hnodup : (fields.map (·.1)).Nodup)
    (h : RespectsFields fields read) :
    (record fields).Respects fun t ↦ (Record.ofTree? (fields.map (·.1)) t).bind read := by
  intro t t' hchanges
  have hrel := Record.ofTree?_rel hnodup hchanges
  show (Record.ofTree? (fields.map (·.1)) t).bind read =
    (Record.ofTree? (fields.map (·.1)) t').bind read
  revert hrel
  generalize Record.ofTree? (fields.map (·.1)) t = r
  generalize Record.ofTree? (fields.map (·.1)) t' = r'
  rintro (h' | _)
  · exact h _ _ h'
  · rfl

theorem respects_nullable {read : Tree → Option α} (h : schema.Respects read) :
    schema.Respects (Record.nullable read) := by
  intro t t' hchanges
  have heq := h t t' hchanges
  cases hchanges <;> exact congrArg (Option.map some) heq

namespace RespectsFields

variable {read : Record → Option α} {readField : Tree → Option α}

theorem pure {a : α} : RespectsFields fields fun _ ↦ a := fun _ _ _ ↦ rfl

theorem bind {next : α → Record → Option β} (h : RespectsFields fields read)
    (hnext : ∀ a, RespectsFields fields (next a)) :
    RespectsFields fields fun r ↦ (read r).bind fun a ↦ next a r := by
  intro r r' hchanges
  show (read r).bind _ = (read r').bind _
  rw [h r r' hchanges]
  exact congrArg _ (funext fun a ↦ hnext a r r' hchanges)

/-- A field that has to be there. -/
theorem required (i : Nat) (hfield : fields[i]? = some (name, none, schema))
    (h : schema.Respects readField) :
    RespectsFields fields fun r ↦ r.required name readField := by
  intro r r' hchanges
  have hslot := hchanges _ (List.mem_of_getElem? hfield)
  show (r.get? name).bind readField = (r'.get? name).bind readField
  revert hslot
  generalize r.get? name = slot
  generalize r'.get? name = slot'
  rintro (_ | hdefault | hinside)
  · rfl
  · cases hdefault
  · exact h _ _ hinside

/-- A field whose absence stands for a tree. -/
theorem defaulted (i : Nat) {default : α} {tree : Tree}
    (hfield : fields[i]? = some (name, some tree, schema)) (h : schema.Respects readField)
    (hdefault : readField tree = some default) :
    RespectsFields fields fun r ↦ r.defaulted name default readField := by
  intro r r' hchanges
  have hslot := hchanges _ (List.mem_of_getElem? hfield)
  show r.defaulted name default readField = r'.defaulted name default readField
  rw [Record.defaulted, Record.defaulted]
  revert hslot
  generalize r.get? name = slot
  generalize r'.get? name = slot'
  rintro (_ | htree | hinside)
  · rfl
  · obtain rfl := Option.some.inj htree
    exact hdefault.symm
  · exact h _ _ hinside

/-- A field whose absence stands for null. -/
theorem optional (i : Nat) (hfield : fields[i]? = some (name, some .null, schema))
    (h : schema.Respects readField) :
    RespectsFields fields fun r ↦ r.optional name readField :=
  defaulted i hfield (respects_nullable h) rfl

end RespectsFields

end Schema

end VaultAccess.Json
