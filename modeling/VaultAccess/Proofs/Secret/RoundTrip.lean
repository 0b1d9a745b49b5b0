import VaultAccess.Proofs.Faithful
import VaultAccess.Proofs.Secret.Storing

/-!
# Reading back what was stored

Whether a value is encrypted is decided twice and from different evidence: when it is stored, from
the address and from whether it is empty; when it is read, from the mark that ciphertexts bear. The
two agree, whatever the value is, on a backend that keeps what it is given (`Backend.Faithful`):
what was encrypted bears the mark, an empty value does not, and a value that bears the mark from the
start is encrypted once more or, without a key, refused with what is missing.

The argument runs over the history of the backend. The calls that storing makes are known
(`set_makes`), a backend is faithful to all of its history, and whatever happens between storing and
reading only makes the history longer.
-/

namespace VaultAccess

namespace KeyVault

open Backend

variable {σ : Type} {b : Backend σ} {r : SecretReference} {d : SecretDocument} {s t u : Scene σ}
  {calls : List Answered} {v : UInt32} {value : String} {document : NameMap Json}

/-! ### What has been stored -/

theorem outcomeOf_eq_ok_iff {written : Except Failure (Option UInt32)} :
    outcomeOf written = .ok ⟨v⟩ ↔ written = .ok (some v) := by
  rcases written with f | ⟨_ | version⟩ <;> simp [outcomeOf]

/-- Once a document has been stored, a field of it is empty, or it has been encrypted, or the
address does not ask for that. -/
inductive Holds (r : SecretReference) (value : String) (calls : List Answered) : String → Prop
  | empty {engine key : String} (hnames : r.Names engine key) (hvalue : value = "") :
      Holds r value calls ""
  | sealed {engine key ciphertext : String} (hnames : r.Names engine key)
      (hmade : ⟨.encrypt engine key value, .ok ciphertext⟩ ∈ calls) : Holds r value calls ciphertext
  | plain (hnames : ∀ engine key, ¬ r.Names engine key) : Holds r value calls value

/-- Storing a document ends in a write of what it is to hold. -/
theorem Storing.of_ok (h : Storing r d calls (.ok ⟨v⟩)) (hid : r.id ∉ Property.routing)
    (hvalue : d.get? r.id = some value) :
    ∃ before fields stored, calls = before ++ [⟨.write r.engine r.name fields, .ok (some v)⟩] ∧
      fields.get? r.id = some stored ∧ Holds r value calls stored := by
  generalize houtcome : Except.ok (Stored.mk v) = outcome at h
  cases h with
  | refused => cases houtcome
  | @sealed engine key sealed fields written hnames _ hseals =>
    obtain rfl := outcomeOf_eq_ok_iff.1 houtcome.symm
    by_cases hempty : value = ""
    · have hstored := hseals.empty r.id hid (hempty ▸ hvalue)
      exact ⟨_, fields, "", rfl, hstored, .empty hnames hempty⟩
    · obtain ⟨ciphertext, hsealed, hstored⟩ := hseals.filled r.id value hid hvalue hempty
      have hmade := List.mem_map_of_mem (f := Sealed.call engine key) hsealed
      exact ⟨_, fields, ciphertext, rfl, hstored, .sealed hnames (List.mem_append_left _ hmade)⟩
  | @plain fields written hnames hkeeps =>
    obtain rfl := outcomeOf_eq_ok_iff.1 houtcome.symm
    refine ⟨[], fields, value, rfl, ?_, .plain hnames⟩
    rw [hkeeps, if_neg hid, hvalue]

/-- On a backend that is ready, storing succeeds. -/
theorem Storing.ok_of_ready (hb : b.Ready) (hleads : b.Leads s calls t)
    {outcome : Except Failure Stored} (h : Storing r d calls outcome) : ∃ v, outcome = .ok ⟨v⟩ := by
  have hwrite : ∀ {fields written}, ⟨.write r.engine r.name fields, written⟩ ∈ calls →
      ∃ v, outcomeOf written = .ok ⟨v⟩ := fun {fields written} hmade ↦ by
    obtain ⟨u, hu⟩ := hleads.answered hmade
    obtain ⟨v, hv⟩ := hb.writes r.engine r.name fields u
    refine ⟨v, outcomeOf_eq_ok_iff.2 ?_⟩
    rw [← hv]
    simpa [make] using hu
  cases h with
  | @refused engine key sealed field rest f =>
    obtain ⟨u, hu⟩ := hleads.answered (List.mem_append_right _ List.mem_cons_self)
    obtain ⟨ciphertext, hciphertext⟩ := hb.encrypts engine key field.2 u
    simp [make, hciphertext] at hu
  | sealed => exact hwrite (List.mem_append_right _ List.mem_cons_self)
  | plain => exact hwrite List.mem_cons_self

/-! ### Reading it back -/

/-- What is to be done with a text that was read: nothing, unless it bears the mark. -/
theorem find_of_text (hfield : document.get? r.id = some (.text value)) :
    find r (some document) =
      if Ciphertext.isCiphertext value then
        match r.transit with
        | some (engine, key) => .ok (.encrypted engine key value)
        | none => .error (.decryptionUnconfigured r.missingTransit)
      else .ok (.plain value) := by
  by_cases hmark : Ciphertext.isCiphertext value = true
  · simp only [find, hfield, fieldText, hmark, Bool.not_true, Bool.false_eq_true, if_false, if_true]
    cases r.transit <;> rfl
  · simp only [find, hfield, fieldText, hmark, Bool.not_false, if_true]
    rfl

section

variable (hread : (b.read r.engine r.name r.version).perform s = (.ok (some document), t))
  (hfield : document.get? r.id = some (.text value))

include hread hfield

/-- A value without the mark is returned as it is. -/
theorem get_of_unmarked (hmark : Ciphertext.isCiphertext value = false) :
    ((get b r).perform s).1 = .ok value := by
  rw [get, Action.perform_bind_of_ok hread, find_of_text hfield, hmark]
  rfl

/-- A value with the mark is decrypted with the key that the address names. -/
theorem get_of_marked {engine key : String} (hnames : r.Names engine key)
    (hmark : Ciphertext.isCiphertext value = true) :
    ((get b r).perform s).1 = ((b.decrypt engine key value).perform t).1 := by
  rw [get, Action.perform_bind_of_ok hread, find_of_text hfield, if_pos hmark,
    SecretReference.transit_eq_some_iff.2 hnames, Action.perform_bind_of_ok Action.perform_ofExcept]
  exact Action.perform_bind_emit_pure

/-- A value with the mark is refused if the address names no key. -/
theorem get_of_unconfigured (hnames : ∀ engine key, ¬ r.Names engine key)
    (hmark : Ciphertext.isCiphertext value = true) :
    ((get b r).perform s).1 = .error (.decryptionUnconfigured r.missingTransit) := by
  rw [get, Action.perform_bind_of_ok hread, find_of_text hfield, if_pos hmark,
    SecretReference.transit_eq_none_of_not_names hnames,
    Action.perform_bind_of_error Action.perform_ofExcept]

end

/-- A field that is held is read as it was stored, or as it can be read without a key. -/
theorem Holds.get_eq {stored : String} {version : Option UInt32} (h : Holds r value calls stored)
    (hb : b.Faithful) (hleads : b.Leads s calls t)
    (hread : (b.read r.engine r.name version).perform t = (.ok (some document), u))
    (hfield : document.get? r.id = some (.text stored)) :
    ((∃ engine key, r.Names engine key) → ((get b { r with version }).perform t).1 = .ok value) ∧
      ((∀ engine key, ¬ r.Names engine key) → stored = value ∧
        ((get b { r with version }).perform t).1 =
          if Ciphertext.isCiphertext value then .error (.decryptionUnconfigured r.missingTransit)
          else .ok value) := by
  cases h with
  | @empty engine key hnames hvalue =>
    refine ⟨fun _ ↦ ?_, fun hno ↦ absurd hnames (hno engine key)⟩
    rw [hvalue]
    exact get_of_unmarked (r := { r with version }) hread hfield rfl
  | @sealed engine key _ hnames hmade =>
    refine ⟨fun _ ↦ ?_, fun hno ↦ absurd hnames (hno engine key)⟩
    have hcall := (makes_call (b := b) (s := t) (.read r.engine r.name version)).leads
    rw [make, hread] at hcall
    rw [get_of_marked (r := { r with version }) hread hfield hnames (hb.marks hleads hmade)]
    exact hb.decrypts (hleads.append hcall) (List.mem_append_left _ hmade)
  | plain hnames =>
    constructor
    · rintro ⟨engine, key, hyes⟩
      exact absurd hyes (hnames engine key)
    · refine fun _ ↦ ⟨rfl, ?_⟩
      by_cases hmark : Ciphertext.isCiphertext value = true
      · rw [if_pos hmark]
        exact get_of_unconfigured (r := { r with version }) hread hfield hnames hmark
      · rw [if_neg hmark]
        exact get_of_unmarked (r := { r with version }) hread hfield (by simpa using hmark)

theorem Holds.mono {stored : String} {more : List Answered} (h : Holds r value calls stored) :
    Holds r value (calls ++ more) stored := by
  cases h with
  | empty hnames hvalue => exact .empty hnames hvalue
  | sealed hnames hmade => exact .sealed hnames (List.mem_append_left _ hmade)
  | plain hnames => exact .plain hnames

/-- What is stored is read back. On a backend that keeps what it is given and for any field that is
stored at all, whatever its value is: storing succeeds if the backend refuses nothing, and after it
has succeeded, reading the field from the latest version or from the one that was stored gives its
value if the address names a key. If it does not, the value is stored as it is and read as it is,
unless it bears the mark of a ciphertext: then reading is refused with the names that are missing.
-/
theorem get_of_set (hb : b.Faithful) (hid : r.id ∉ Property.routing)
    (hvalue : d.get? r.id = some value) :
    (b.Ready → ∃ v t, (set b r d).perform s = (.ok ⟨v⟩, t)) ∧
      ∀ v t later u version, (set b r d).perform s = (.ok ⟨v⟩, t) → b.Leads t later u →
        (∀ c ∈ later, c.call.Spares r.engine r.name) → version ∈ [none, some 0, some v] →
          ((∃ engine key, r.Names engine key) →
            ((get b { r with version }).perform u).1 = .ok value) ∧
          ((∀ engine key, ¬ r.Names engine key) →
            (∃ document, ((b.read r.engine r.name version).perform u).1 = .ok (some document) ∧
              document.get? r.id = some (.text value)) ∧
            r.missingTransit ≠ [] ∧ (∀ name, name ∈ r.missingTransit ↔ r.Lacks name) ∧
            ((get b { r with version }).perform u).1 =
              if Ciphertext.isCiphertext value then
                .error (.decryptionUnconfigured r.missingTransit)
              else .ok value) := by
  obtain ⟨calls, hmakes, hstoring⟩ := set_makes (b := b) (r := r) (d := d) (s := s)
  have hleads := hmakes.leads
  refine ⟨fun hready ↦ ?_, fun v t later u version hset hlater hspares hversion ↦ ?_⟩
  · obtain ⟨v, hv⟩ := hstoring.ok_of_ready hready hleads
    exact ⟨v, _, Prod.ext hv rfl⟩
  rw [hset] at hstoring hleads
  obtain ⟨before, fields, stored, rfl, hstored, hholds⟩ := hstoring.of_ok hid hvalue
  have hhistory := hleads.append hlater
  obtain ⟨document, hdocument, hfields⟩ := hb.reads (by simpa using hhistory) hspares hversion
  have hfield : document.get? r.id = some (.text stored) := by rw [hfields, hstored]; rfl
  obtain ⟨hnamed, hunnamed⟩ :=
    hholds.mono.get_eq hb hhistory (Prod.ext hdocument rfl) hfield
  refine ⟨hnamed, fun hno ↦ ?_⟩
  obtain ⟨rfl, hget⟩ := hunnamed hno
  exact ⟨⟨document, hdocument, hfield⟩, SecretReference.transit_eq_none_iff.1
    (SecretReference.transit_eq_none_of_not_names hno),
    fun _ ↦ SecretReference.mem_missingTransit_iff, hget⟩

/-- The address of a password, with an engine and maybe a key to encrypt with. -/
def password (key : Option String) : SecretReference where
  engine := "kv"
  name := "app"
  id := "password"
  transitEngine := some "transit"
  transitKey := key

/-- A document whose value bears the mark from the start. -/
def marked : SecretDocument := NameMap.empty.insert "password" "vault:v1:old"

/-- On the backend in memory a value with the mark comes back with a key and is refused without. -/
theorem get_of_set_marked :
    (∀ key, (password key).id ∉ Property.routing ∧
      marked.get? (password key).id = some "vault:v1:old") ∧ shelf.Faithful ∧ shelf.Ready ∧
      (∃ v t, (set shelf (password (some "app")) marked).perform Shelf.bare = (.ok ⟨v⟩, t) ∧
        ((get shelf { password (some "app") with version := some v }).perform t).1 =
          .ok "vault:v1:old") ∧
      ∃ v t, (set shelf (password none) marked).perform Shelf.bare = (.ok ⟨v⟩, t) ∧
        ((get shelf (password none)).perform t).1 =
          .error (.decryptionUnconfigured ["transitKeyName"]) := by
  have hid : ∀ key, (password key).id ∉ Property.routing := fun key ↦
    show "password" ∉ Property.routing by decide
  have hvalue : ∀ key, marked.get? (password key).id = some "vault:v1:old" := fun _ ↦ rfl
  have hround := fun key ↦ get_of_set (s := Shelf.bare) shelf_faithful (hid key) (hvalue key)
  refine ⟨fun key ↦ ⟨hid key, hvalue key⟩, shelf_faithful, shelf_ready, ?_, ?_⟩
  · obtain ⟨hset, hget⟩ := hround (some "app")
    obtain ⟨v, t, hv⟩ := hset shelf_ready
    have hnames : (password (some "app")).Names "transit" "app" := by
      simp [SecretReference.Names, password]
    obtain ⟨hpinned, -⟩ := hget v t [] t (some v) hv .refl (List.forall_mem_nil _) (by simp)
    exact ⟨v, t, hv, hpinned ⟨_, _, hnames⟩⟩
  · obtain ⟨hset, hget⟩ := hround none
    obtain ⟨v, t, hv⟩ := hset shelf_ready
    have hnames : ∀ engine key, ¬ (password none).Names engine key := by
      simp [SecretReference.Names, password]
    obtain ⟨-, hlatest⟩ := hget v t [] t none hv .refl (List.forall_mem_nil _) (by simp)
    obtain ⟨-, -, -, hrefused⟩ := hlatest hnames
    exact ⟨v, t, hv, hrefused⟩

end KeyVault

end VaultAccess
