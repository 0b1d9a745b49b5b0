import Mathlib.Data.List.Dedup
import VaultAccess.Proofs.Config.RoundTrip
import VaultAccess.Proofs.Json.Schemas
import VaultAccess.Proofs.Json.Soundness
import VaultAccess.Proofs.Secret.Storing
import VaultAccess.Proofs.Text.Order

/-!
# What documents of secrets hold

A document may be made of fields all at once, read from a text, and changed field by field. However it
came about, it is the map of everything that has been written into it, one field after the other
(`Made.eq_ofList`). So what is found in it is what has been written last, and its fields are listed in
the order of the bytes of their names, in its text as in its payload (`contents_law`).

Which fields a text spells is said by the grammar of documents and not by the reader; that the reader
takes just these has to be shown (`read?_eq_some_iff`).
-/

namespace VaultAccess.SecretDocument

open Json (Tree)

variable {d : SecretDocument} {bytes : List UInt8} {fields fields' written : List (String × String)}
  {members : List (List UInt8 × Tree)} {name : String}

/-! ### Texts -/

/-- A member of an object is a field: its name and its value are texts. -/
def IsField (member : List UInt8 × Tree) (field : String × String) : Prop :=
  Json.unescape? member.1 = some field.1 ∧
    ∃ body, member.2 = .string body ∧ Json.unescape? body = some field.2

/-- A text spells fields: it writes an object that has them for its members, in their order. -/
def Spells (bytes : List UInt8) (fields : List (String × String)) : Prop :=
  ∃ members, (Tree.object members).Writes bytes ∧ List.Forall₂ IsField members fields

theorem text?_eq_some_iff {t : Tree} {s : String} :
    t.text? = some s ↔ ∃ body, t = .string body ∧ Json.unescape? body = some s := by
  cases t <;> simp [Tree.text?]

/-- The members of an object are read as fields one by one. -/
theorem mapM_named?_eq_some_iff :
    (Json.Record.named? members).bind (List.mapM fun m ↦ (m.2.text?).map (m.1, ·)) = some fields ↔
      List.Forall₂ IsField members fields := by
  induction members generalizing fields with
  | nil =>
    rw [List.forall₂_nil_left_iff, Json.Record.named?_nil]
    simp [eq_comm]
  | cons m members ih =>
    rw [Option.bind_eq_some_iff, List.forall₂_cons_left_iff]
    constructor
    · rintro ⟨_, hnamed, hfields⟩
      obtain ⟨name, rest, hname, hrest, rfl⟩ := Json.Record.named?_cons_eq_some.1 hnamed
      obtain ⟨field, more, hfield, hmore, rfl⟩ := mapM_cons_eq_some.1 hfields
      obtain ⟨value, hvalue, rfl⟩ := Option.map_eq_some_iff.1 hfield
      exact ⟨(name, value), more, ⟨hname, text?_eq_some_iff.1 hvalue⟩,
        ih.1 (Option.bind_eq_some_iff.2 ⟨rest, hrest, hmore⟩), rfl⟩
    · rintro ⟨⟨name, value⟩, more, ⟨hname, hvalue⟩, hmore, rfl⟩
      obtain ⟨rest, hrest, hmore⟩ := Option.bind_eq_some_iff.1 (ih.2 hmore)
      refine ⟨_, Json.Record.named?_cons_eq_some.2 ⟨name, rest, hname, hrest, rfl⟩, ?_⟩
      refine mapM_cons_eq_some.2 ⟨(name, value), more, ?_, hmore, rfl⟩
      rw [text?_eq_some_iff.2 hvalue]
      rfl

/-- A text is read as a document exactly if it spells fields, and the document is made of these one
after the other. -/
theorem read?_eq_some_iff :
    read? bytes = some d ↔ ∃ fields, Spells bytes fields ∧ NameMap.ofList fields = d := by
  rw [read?, Option.bind_eq_bind, Option.bind_eq_some_iff]
  constructor
  · rintro ⟨t, hread, hmap⟩
    cases t with
    | object members =>
      obtain ⟨named, hnamed, hmap⟩ := Option.bind_eq_some_iff.1 hmap
      obtain ⟨fields, hfields, hd⟩ := Option.bind_eq_some_iff.1 hmap
      exact ⟨fields, ⟨members, Tree.read?_eq_some_iff.1 hread,
        mapM_named?_eq_some_iff.1 (Option.bind_eq_some_iff.2 ⟨named, hnamed, hfields⟩)⟩,
        Option.some.inj hd⟩
    | _ => cases hmap
  · rintro ⟨fields, ⟨members, hwrites, hfields⟩, rfl⟩
    obtain ⟨named, hnamed, hfields⟩ := Option.bind_eq_some_iff.1 (mapM_named?_eq_some_iff.2 hfields)
    refine ⟨.object members, Tree.read?_eq_some_iff.2 hwrites, ?_⟩
    rw [Tree.map?, hnamed]
    simp only [Option.bind_eq_bind, Option.bind_some, hfields]
    rfl

/-- A text spells fields in one way. -/
theorem Spells.unique (h : Spells bytes fields) (h' : Spells bytes fields') : fields = fields' := by
  obtain ⟨members, hwrites, hfields⟩ := h
  obtain ⟨members', hwrites', hfields'⟩ := h'
  obtain rfl : members = members' := by
    have hread := (Tree.read?_eq_some_iff.2 hwrites).symm.trans (Tree.read?_eq_some_iff.2 hwrites')
    exact Tree.object.inj (Option.some.inj hread)
  exact Option.some.inj ((mapM_named?_eq_some_iff.2 hfields).symm.trans
    (mapM_named?_eq_some_iff.2 hfields'))

/-- The text of a document spells its entries. -/
theorem spells_render (d : SecretDocument) : Spells (Utf8.encode d.render) d.entries := by
  have hread := Json.read?_render d.optionalEntries
  rw [← ofTexts_entries, optionalEntries, List.map_map] at hread
  refine ⟨_, Tree.read?_eq_some_iff.1 hread, List.forall₂_map_left_iff.2 ?_⟩
  exact List.forall₂_same.2 fun e _ ↦
    ⟨Json.unescape?_bodyOf e.1, _, rfl, Json.unescape?_bodyOf e.2⟩

/-! ### Histories -/

/-- How a document comes about, with the fields that are written on the way, the oldest first. -/
inductive Made : SecretDocument → List (String × String) → Prop
  /-- A new document. -/
  | new : Made NameMap.empty []
  /-- Fields that are put in all at once. -/
  | collected (fields : List (String × String)) : Made (NameMap.collect fields) fields
  /-- A text that is read. -/
  | read {bytes : List UInt8} {d : SecretDocument} {fields : List (String × String)}
      (hread : read? bytes = some d) (hspells : Spells bytes fields) : Made d fields
  /-- One more field. -/
  | inserted {d : SecretDocument} {written : List (String × String)} (h : Made d written)
      (name value : String) : Made (d.insert name value) (written ++ [(name, value)])

/-- However a document came about, it is what has been written, put in one after the other. -/
theorem Made.eq_ofList (h : Made d written) : d = NameMap.ofList written := by
  induction h with
  | new => rfl
  | collected fields => exact NameMap.collect_eq_ofList
  | read hread hspells =>
    obtain ⟨fields, hfields, rfl⟩ := read?_eq_some_iff.1 hread
    rw [hfields.unique hspells]
  | inserted _ name value ih =>
    rw [ih, NameMap.ofList, NameMap.ofList, List.foldl_append]
    rfl

/-! ### Contents -/

/-- A document holds what has been written. -/
structure Holds (d : SecretDocument) (written : List (String × String)) : Prop where
  /-- A name has the value that was written last for it. -/
  found : ∀ name value, d.get? name = some value ↔
    ∃ before after, written = before ++ (name, value) :: after ∧ name ∉ after.map Prod.fst
  /-- A name has no value if none was written for it. -/
  absent : ∀ name, d.get? name = none ↔ name ∉ written.map Prod.fst
  /-- There are as many fields as different names. -/
  size : d.size = (written.map Prod.fst).dedup.length

/-- Fields are listed once each, in the order of the bytes of their names. -/
structure Lists (fields : List (String × String)) (IsListed : String → String → Prop) : Prop where
  ordered : fields.Pairwise fun a b ↦ Utf8.Precedes a.1 b.1
  mem_iff : ∀ name value, (name, value) ∈ fields ↔ IsListed name value

theorem mem_names_ofList :
    name ∈ (NameMap.ofList written).entries.map Prod.fst ↔ name ∈ written.map Prod.fst := by
  rw [← NameMap.isSome_get?_iff, NameMap.get?_ofList, ← Option.ne_none_iff_isSome, ne_eq,
    NameMap.lastValue_eq_none_iff, not_not]

theorem holds_ofList (written : List (String × String)) :
    Holds (NameMap.ofList written) written where
  found name value := by rw [NameMap.get?_ofList, NameMap.lastValue_eq_some_iff]
  absent name := by rw [NameMap.get?_ofList, NameMap.lastValue_eq_none_iff]
  size := by
    have hperm : ((NameMap.ofList written).entries.map Prod.fst).Perm
        (written.map Prod.fst).dedup :=
      (List.perm_ext_iff_of_nodup (NameMap.nodup_names _) (List.nodup_dedup _)).2 fun name ↦ by
        rw [mem_names_ofList, List.mem_dedup]
    rw [NameMap.size, ← hperm.length_eq, List.length_map]

/-- The entries of a map are in the order of the bytes of their names. -/
theorem precedes_entries (m : NameMap String) :
    m.entries.Pairwise fun a b ↦ Utf8.Precedes a.1 b.1 :=
  m.ascending.imp Utf8.precedes_of_lt

theorem lists_entries (d : SecretDocument) :
    Lists d.entries fun name value ↦ d.get? name = some value where
  ordered := precedes_entries d
  mem_iff _ _ := NameMap.get?_eq_some_iff.symm

theorem lists_payload (d : SecretDocument) :
    Lists d.payload.entries fun name value ↦
      d.get? name = some value ∧ name ∉ Property.routing where
  ordered := precedes_entries d.payload
  mem_iff _ _ := KeyVault.mem_payload_iff.trans and_comm

/-- A document is a finite map, whether it is read, made of fields all at once, which is to put them in
one by one, or changed: a name has the value that was written last for it, and none if nothing was. Its
text spells all of its fields and nothing else, its payload consists of those that are no part of an
address, and both are in the order of the bytes of their names. A text is read as a document if it
spells fields at all. -/
theorem contents_law :
    (∀ bytes, (∃ d, read? bytes = some d) ↔ ∃ fields, Spells bytes fields) ∧
      (∀ fields : List (String × String), NameMap.collect fields =
        fields.foldl (fun d field ↦ d.insert field.1 field.2) NameMap.empty) ∧
      ∀ d written, Made d written →
        Holds d written ∧
        (∃ fields, (∀ l, Spells (Utf8.encode d.render) l ↔ l = fields) ∧
          Lists fields fun name value ↦ d.get? name = some value) ∧
        Lists d.payload.entries fun name value ↦
          d.get? name = some value ∧ name ∉ Property.routing := by
  refine ⟨fun bytes ↦ ⟨?_, ?_⟩, fun fields ↦ NameMap.collect_eq_ofList, fun d written h ↦ ?_⟩
  · rintro ⟨d, hread⟩
    obtain ⟨fields, hfields, -⟩ := read?_eq_some_iff.1 hread
    exact ⟨fields, hfields⟩
  · rintro ⟨fields, hfields⟩
    exact ⟨_, read?_eq_some_iff.2 ⟨fields, hfields, rfl⟩⟩
  · have hholds : Holds d written := h.eq_ofList ▸ holds_ofList written
    refine ⟨hholds, ⟨d.entries, fun l ↦ ⟨fun hl ↦ hl.unique (spells_render d), ?_⟩,
      lists_entries d⟩, lists_payload d⟩
    rintro rfl
    exact spells_render d

/-- A text in which a name is repeated. -/
def repeating : List UInt8 := Utf8.encode "\x7b\"b\":\"1\",\"a\":\"2\",\"b\":\"3\"\x7d"

theorem spells_repeating : Spells repeating [("b", "1"), ("a", "2"), ("b", "3")] := by
  have hread : Tree.read? repeating = some (.object
      [([0x62], .string [0x31]), ([0x61], .string [0x32]), ([0x62], .string [0x33])]) := rfl
  exact ⟨_, Tree.read?_eq_some_iff.1 hread, .cons ⟨rfl, _, rfl, rfl⟩ (.cons ⟨rfl, _, rfl, rfl⟩
    (.cons ⟨rfl, _, rfl, rfl⟩ .nil))⟩

/-- The last value of a repeated name counts, and a field that is part of an address is held but not
stored. -/
theorem contents_law_of_repeated_name : ∃ d, read? repeating = some d ∧
    Made (d.insert "secretId" "b")
      [("b", "1"), ("a", "2"), ("b", "3"), ("secretId", "b")] ∧
    (d.insert "secretId" "b").get? "b" = some "3" ∧
    (d.insert "secretId" "b").get? "c" = none ∧
    (d.insert "secretId" "b").size = 3 ∧
    (d.insert "secretId" "b").get? "secretId" = some "b" ∧
    ("b", "3") ∈ (payload (d.insert "secretId" "b")).entries ∧
    ("secretId", "b") ∉ (payload (d.insert "secretId" "b")).entries := by
  obtain ⟨d, hread⟩ := (contents_law.1 repeating).2 ⟨_, spells_repeating⟩
  have hmade := (Made.read hread spells_repeating).inserted "secretId" "b"
  obtain ⟨hholds, -, hpayload⟩ := contents_law.2.2 _ _ hmade
  have hlast : (d.insert "secretId" "b").get? "b" = some "3" :=
    (hholds.found _ _).2 ⟨[("b", "1"), ("a", "2")], [("secretId", "b")], rfl, by decide⟩
  have hid : (d.insert "secretId" "b").get? "secretId" = some "b" :=
    (hholds.found _ _).2 ⟨[("b", "1"), ("a", "2"), ("b", "3")], [], rfl, by decide⟩
  refine ⟨d, hread, hmade, hlast, (hholds.absent _).2 (by decide), hholds.size.trans (by decide),
    hid, (hpayload.mem_iff _ _).2 ⟨hlast, by decide⟩, fun hmem ↦ ?_⟩
  exact ((hpayload.mem_iff _ _).1 hmem).2 (by decide)

end VaultAccess.SecretDocument
