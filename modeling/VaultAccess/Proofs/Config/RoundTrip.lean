import VaultAccess.Config.Database
import VaultAccess.Proofs.Json.Records
import VaultAccess.Proofs.NameMap
import VaultAccess.Secret.Document

/-!
# Configurations are read as they are printed

A configuration is printed as an object of texts and nulls with all of its fields, so the defaults
that its reader knows never stand in for anything. The names of the fields differ, the tunables of a
database configuration included, and a null is read as what it was printed for. A document of secrets
is printed in the order of its names, which is the order in which the reader's map keeps them.
-/

namespace VaultAccess

open Json

/-! ### Configurations of servers -/

namespace ServerConfig

/-- The fields of a configuration with their values, in the order in which they are printed. -/
def entries (c : ServerConfig) : List (String × Option String) :=
  [("url", some c.url), ("namespace", c.namespaceName), ("approlePath", some c.approlePath),
    ("tlsKeyStorePath", c.keyStore), ("tlsTrustStorePath", c.trustStore)]

/-- A configuration is printed as the object of its entries. -/
theorem toJson_eq (c : ServerConfig) : c.toJson = ofOptions c.entries := rfl

/-- Everything that the reader knows is printed, in its order. -/
theorem names_entries (c : ServerConfig) : c.entries.map Prod.fst = fields := rfl

/-- No field of a server has the name of another. -/
theorem nodup_fields : fields.Nodup := by decide

/-- A configuration of a server is had back from the text that it is printed as. -/
theorem read?_toJson (c : ServerConfig) : read? (Utf8.encode c.toJson.render) = some c := by
  obtain ⟨r, hr, hprinted⟩ : ∃ r, Record.ofMembers? fields (Record.printed c.entries) = some r ∧
      ∀ {field v}, (field, v) ∈ c.entries → r.get? field = some (treeOf v) :=
    Record.exists_of_printed (c.names_entries ▸ nodup_fields) (c.names_entries ▸ List.Subset.refl _)
  have hrecord : Record.ofTree? fields
      (.object (c.entries.map fun e ↦ (bodyOf e.1, treeOf e.2))) = some r := by
    rw [Record.ofTree?, Record.named?_printed]
    exact hr
  have hurl : r.required "url" Tree.text? = some c.url :=
    Record.required_of_printed (hprinted (by simp [entries]))
  have hpath : r.defaulted "approlePath" defaultApprolePath Tree.text? = some c.approlePath :=
    Record.defaulted_of_printed (hprinted (by simp [entries]))
  have hoptional : ∀ {field v}, (field, v) ∈ c.entries → r.optional field Tree.text? = some v :=
    fun hmem ↦ Record.optional_of_printed (hprinted hmem)
  rw [read?, toJson_eq, read?_render]
  show ofTree? (.object _) = _
  rw [ofTree?, hrecord]
  simp only [Option.bind_eq_bind, Option.bind_some, hurl, hpath,
    hoptional (show ("namespace", c.namespaceName) ∈ c.entries by simp [entries]),
    hoptional (show ("tlsKeyStorePath", c.keyStore) ∈ c.entries by simp [entries]),
    hoptional (show ("tlsTrustStorePath", c.trustStore) ∈ c.entries by simp [entries])]
  rfl

end ServerConfig

/-! ### Configurations of sources of database credentials -/

namespace Rotation.Tunables

variable {r : Record} {t : Tunables}

/-- The tunables with their texts. -/
def entries (t : Tunables) : List (String × Option String) :=
  Tunable.all.map fun s ↦ (s.property, t.get? s)

theorem mem_all (s : Tunable) : s ∈ Tunable.all := by
  cases s <;> decide

/-- Every tunable is printed, set or not. -/
theorem mem_entries (t : Tunables) (s : Tunable) : (s.property, t.get? s) ∈ t.entries :=
  List.mem_map_of_mem (mem_all s)

/-- Tunables are had back from a record that holds all of them as they are printed. -/
theorem ofRecord?_of_printed (h : ∀ s, r.get? (Tunable.property s) = some (treeOf (t.get? s))) :
    ofRecord? r = some t := by
  have htext : ∀ s, r.optional (Tunable.property s) Tree.text? = some (t.get? s) :=
    fun s ↦ Record.optional_of_printed (h s)
  simp only [ofRecord?, htext, Option.bind_eq_bind, Option.bind_some]
  rfl

end Rotation.Tunables

namespace DatabaseConfig

/-- The fields of a configuration with their values, in the order in which they are printed. -/
def entries (c : DatabaseConfig) : List (String × Option String) :=
  [("url", c.url), ("namespace", c.namespaceName), ("approlePath", c.approlePath),
    ("dbSecretEngineName", c.engine), ("vaultDbRole", c.role), ("credentialType", c.credentialType),
    ("tlsKeyStorePath", c.keyStore), ("tlsTrustStorePath", c.trustStore)] ++ c.tunables.entries

/-- A configuration of a source is printed as the object of its entries, tunables included. -/
theorem toJson_eq (c : DatabaseConfig) : c.toJson = ofOptions c.entries := rfl

theorem names_entries (c : DatabaseConfig) :
    c.entries.map Prod.fst = fields ++ Rotation.Tunables.fields := rfl

/-- No field of a source has the name of another or of a tunable. -/
theorem nodup_fields : (fields ++ Rotation.Tunables.fields).Nodup := by decide

/-- What stands for a text or for nothing has a value. -/
theorem isSome_value?_treeOf (v : Option String) (room : Nat) :
    ((treeOf v).value? room).isSome := by
  cases v with
  | none => simp [treeOf, Tree.value?]
  | some s => simp [treeOf, Tree.value?, unescape?_bodyOf]

/-- What is printed passes the check that all members have values. -/
theorem othersReadable_printed (l : List (String × Option String)) :
    othersReadable (Record.printed l) = true := by
  rw [othersReadable, Record.printed, List.all_map, List.all_eq_true]
  intro e _
  simp [isSome_value?_treeOf]

/-- A configuration of a source is had back from the text that it is printed as. -/
theorem read?_toJson (c : DatabaseConfig) : read? (Utf8.encode c.toJson.render) = some c := by
  obtain ⟨r, hr, hprinted⟩ : ∃ r,
      Record.ofMembers? (fields ++ Rotation.Tunables.fields) (Record.printed c.entries) = some r ∧
        ∀ {field v}, (field, v) ∈ c.entries → r.get? field = some (treeOf v) :=
    Record.exists_of_printed (c.names_entries ▸ nodup_fields) (c.names_entries ▸ List.Subset.refl _)
  have htexts : ∀ e ∈ c.entries, r.optional e.1 Tree.text? = some e.2 :=
    fun e he ↦ Record.optional_of_printed (hprinted he)
  have htunables : Rotation.Tunables.ofRecord? r = some c.tunables :=
    Rotation.Tunables.ofRecord?_of_printed fun s ↦
      hprinted (List.mem_append_right _ (c.tunables.mem_entries s))
  simp only [entries, List.forall_mem_append, List.forall_mem_cons] at htexts
  obtain ⟨⟨hurl, hnamespace, hpath, hengine, hrole, htype, hkeys, htrusted, -⟩, -⟩ := htexts
  rw [read?, toJson_eq, read?_render]
  show ofTree? (.object _) = _
  rw [ofTree?, Record.named?_printed]
  simp only [Option.bind_eq_bind, Option.bind_some, othersReadable_printed, hr, htunables, hurl,
    hnamespace, hpath, hengine, hrole, htype, hkeys, htrusted]
  rfl

end DatabaseConfig

/-! ### Documents of secrets -/

namespace SecretDocument

/-- The fields of a document with their values. -/
def optionalEntries (d : SecretDocument) : List (String × Option String) :=
  d.entries.map fun e ↦ (e.1, some e.2)

/-- The fields of a document are printed like fields that may be missing and are not. -/
theorem ofTexts_entries (d : SecretDocument) :
    Json.ofTexts d.entries = ofOptions d.optionalEntries := by
  rw [Json.ofTexts, ofOptions, optionalEntries, List.map_map]
  rfl

/-- The members of a document are read as the texts that they were printed for. -/
theorem mapM_printed (l : List (String × String)) :
    (Record.printed (l.map fun e ↦ (e.1, some e.2))).mapM
      (fun m ↦ (Tree.text? m.2).map (m.1, ·)) = some l := by
  rw [Record.printed, List.map_map]
  refine mapM_map_eq_some fun e _ ↦ ?_
  simp [Record.text?_treeOf]

/-- A document of secrets is had back from the text that it is printed as. -/
theorem read?_render (d : SecretDocument) : read? (Utf8.encode d.render) = some d := by
  rw [read?, render, ofTexts_entries, Json.read?_render]
  show Tree.map? Tree.text? (.object _) = _
  rw [Tree.map?, Record.named?_printed]
  simp only [Option.bind_eq_bind, Option.bind_some, optionalEntries, mapM_printed]
  exact congrArg some (NameMap.ext (NameMap.entries_ofList d.ascending))

end SecretDocument

/-- Every configuration and every document of secrets is had back from the text that it is printed
as, whichever of the fields are there and whatever characters their texts are made of. -/
theorem read?_of_printed :
    (∀ c : ServerConfig, ServerConfig.read? (Utf8.encode c.toJson.render) = some c) ∧
      (∀ c : DatabaseConfig, DatabaseConfig.read? (Utf8.encode c.toJson.render) = some c) ∧
      ∀ d : SecretDocument, SecretDocument.read? (Utf8.encode d.render) = some d :=
  ⟨ServerConfig.read?_toJson, DatabaseConfig.read?_toJson, SecretDocument.read?_render⟩

end VaultAccess
