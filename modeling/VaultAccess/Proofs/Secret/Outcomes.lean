import VaultAccess.Proofs.Json.Printing
import VaultAccess.Proofs.Secret.RoundTrip

/-!
# What comes of getting a secret

Getting a secret is one read, and at most one decryption after it. What is done is settled by what the
read yields and by what the address names: `Getting` lists the cases, each with its calls and its
outcome, and no two of them are open for the same read.

Only a text can ask for decryption. Any other value is returned as it is printed, and what is printed is
no ciphertext, so a value that was never encrypted is not taken for one (`Json.isCiphertext_render`).
-/

namespace VaultAccess

namespace SecretReference

variable {r : SecretReference}

/-- What an address lacks for decryption, all of it and the engine first. -/
structure Missing (r : SecretReference) (missing : List String) : Prop where
  ne_nil : missing ≠ []
  mem_iff : ∀ name, name ∈ missing ↔ r.Lacks name
  ordered : missing.Sublist [Property.transitEngine, Property.transitKey]

/-- What is reported as missing is what the address does not name, in the order of the report. -/
theorem missing_missingTransit (h : r.transit = none) : r.Missing r.missingTransit where
  ne_nil := transit_eq_none_iff.1 h
  mem_iff _ := mem_missingTransit_iff
  ordered := by
    show List.Sublist (_ ++ _) ([Property.transitEngine] ++ [Property.transitKey])
    refine List.Sublist.append ?_ ?_ <;> split <;> simp

end SecretReference

namespace KeyVault

open Backend

variable {σ : Type} {b : Backend σ} {r : SecretReference} {s : Scene σ}
  {document : NameMap Json} {v : Json} {value : String}

/-- A text begins with the mark of ciphertexts. -/
def Marked (value : String) : Prop := Ciphertext.marker.toList <+: value.toList

theorem isCiphertext_iff : Ciphertext.isCiphertext value = true ↔ Marked value :=
  List.isPrefixOf_iff_prefix

/-- How a secret is got: the calls that are made, the oldest first, and what comes of it. -/
inductive Getting (r : SecretReference) : List Answered → Except Failure String → Prop
  /-- The read fails. -/
  | refused {f : Failure} :
      Getting r [⟨.read r.engine r.name r.version, .error f⟩] (.error f)
  /-- There is no document. -/
  | nothing :
      Getting r [⟨.read r.engine r.name r.version, .ok none⟩]
        (.error (.notFound (.document r.location)))
  /-- The document lacks the field. -/
  | lacking {document : NameMap Json} (hfield : document.get? r.id = none) :
      Getting r [⟨.read r.engine r.name r.version, .ok (some document)⟩]
        (.error (.notFound (.field r.id r.location)))
  /-- The field is no text. -/
  | printed {document : NameMap Json} {v : Json} (hfield : document.get? r.id = some v)
      (hv : ∀ s, v ≠ .text s) :
      Getting r [⟨.read r.engine r.name r.version, .ok (some document)⟩] (.ok v.render)
  /-- The field is a text without the mark. -/
  | plain {document : NameMap Json} {value : String}
      (hfield : document.get? r.id = some (.text value)) (hmark : ¬ Marked value) :
      Getting r [⟨.read r.engine r.name r.version, .ok (some document)⟩] (.ok value)
  /-- The field is a text with the mark, and the address names an engine and a key. -/
  | decrypted {document : NameMap Json} {value engine key : String}
      {plaintext : Except Failure String} (hfield : document.get? r.id = some (.text value))
      (hmark : Marked value) (hnames : r.Names engine key) :
      Getting r [⟨.read r.engine r.name r.version, .ok (some document)⟩,
        ⟨.decrypt engine key value, plaintext⟩] plaintext
  /-- The field is a text with the mark, and the address lacks a name. -/
  | unconfigured {document : NameMap Json} {value : String} {missing : List String}
      (hfield : document.get? r.id = some (.text value)) (hmark : Marked value)
      (hnames : ∀ engine key, ¬ r.Names engine key) (hmissing : r.Missing missing) :
      Getting r [⟨.read r.engine r.name r.version, .ok (some document)⟩]
        (.error (.decryptionUnconfigured missing))

/-! ### Finding a secret -/

theorem find_none : find r none = .error (.notFound (.document r.location)) := rfl

/-- A field that a document lacks is reported with its name. -/
theorem find_of_lacking (hfield : document.get? r.id = none) :
    find r (some document) = .error (.notFound (.field r.id r.location)) := by
  simp only [find, hfield]
  rfl

/-- A value that is no text is found as it is printed. -/
theorem find_of_value (hfield : document.get? r.id = some v) (hv : ∀ s, v ≠ .text s) :
    find r (some document) = .ok (.plain v.render) := by
  have htext : fieldText v = v.render := by
    cases v with
    | text s => exact absurd rfl (hv s)
    | null | bool | number | array | object => rfl
  simp only [find, hfield, htext, Json.isCiphertext_render hv]
  rfl

/-! ### Getting a secret -/

/-- What is found settles which calls are made after the read. -/
def finish (b : Backend σ) : Reading → Action σ String
  | .plain value => pure value
  | .encrypted engine key value => b.decryptLogged engine key value

/-- What is done after the read. -/
def continued (b : Backend σ) (r : SecretReference) (document : Option (NameMap Json)) :
    Action σ String :=
  Action.ofExcept (find r document) >>= finish b

theorem get_eq : get b r = b.read r.engine r.name r.version >>= continued b r := rfl

variable {found : Option (NameMap Json)}

/-- Where nothing is found no more calls are made. -/
theorem continued_makes_of_error {f : Failure} (hfind : find r found = .error f) :
    b.Makes (continued b.watched r found) (continued b r found) s [] ∧
      ((continued b r found).perform s).1 = .error f := by
  rw [continued, continued, hfind]
  exact ⟨makes_ofExcept.bind_error Action.perform_ofExcept,
    by rw [Action.perform_bind_of_error Action.perform_ofExcept]⟩

/-- Nor are they for a value that is no ciphertext. -/
theorem continued_makes_of_plain (hfind : find r found = .ok (.plain value)) :
    b.Makes (continued b.watched r found) (continued b r found) s [] ∧
      ((continued b r found).perform s).1 = .ok value := by
  rw [continued, continued, hfind]
  exact ⟨makes_ofExcept.bind_ok Action.perform_ofExcept makes_pure,
    by rw [Action.perform_bind_of_ok Action.perform_ofExcept]; rfl⟩

/-- A ciphertext is decrypted with one call, whose outcome is the outcome of all. -/
theorem continued_makes_of_encrypted {engine key : String}
    (hfind : find r found = .ok (.encrypted engine key value)) :
    b.Makes (continued b.watched r found) (continued b r found) s
      [⟨.decrypt engine key value, ((continued b r found).perform s).1⟩] := by
  rw [continued, continued, hfind, Action.perform_bind_of_ok Action.perform_ofExcept]
  exact makes_ofExcept.bind_ok Action.perform_ofExcept (decryptLogged_makes engine key value)

/-- What is done after the read is settled by what was read. -/
theorem continued_makes (found : Option (NameMap Json)) :
    ∃ calls, b.Makes (continued b.watched r found) (continued b r found) s calls ∧
      Getting r (⟨.read r.engine r.name r.version, .ok found⟩ :: calls)
        ((continued b r found).perform s).1 := by
  cases found with
  | none =>
    obtain ⟨hmakes, houtcome⟩ := continued_makes_of_error (b := b) (r := r) (s := s) find_none
    exact ⟨_, hmakes, houtcome ▸ .nothing⟩
  | some document =>
    cases hfield : document.get? r.id with
    | none =>
      obtain ⟨hmakes, houtcome⟩ :=
        continued_makes_of_error (b := b) (s := s) (find_of_lacking hfield)
      exact ⟨_, hmakes, houtcome ▸ .lacking hfield⟩
    | some v =>
      by_cases hv : ∀ s, v ≠ .text s
      · obtain ⟨hmakes, houtcome⟩ :=
          continued_makes_of_plain (b := b) (s := s) (find_of_value hfield hv)
        exact ⟨_, hmakes, houtcome ▸ .printed hfield hv⟩
      obtain ⟨value, rfl⟩ : ∃ value, v = .text value := by simpa using hv
      have hfind := find_of_text hfield
      by_cases hmark : Marked value
      · rw [if_pos (isCiphertext_iff.2 hmark)] at hfind
        cases htransit : r.transit with
        | none =>
          rw [htransit] at hfind
          obtain ⟨hmakes, houtcome⟩ := continued_makes_of_error (b := b) (s := s) hfind
          refine ⟨_, hmakes, houtcome ▸ .unconfigured hfield hmark (fun engine key hnames ↦ ?_)
            (SecretReference.missing_missingTransit htransit)⟩
          rw [SecretReference.transit_eq_some_iff.2 hnames] at htransit
          cases htransit
        | some names =>
          rw [htransit] at hfind
          exact ⟨_, continued_makes_of_encrypted hfind,
            .decrypted hfield hmark (SecretReference.transit_eq_some_iff.1 htransit)⟩
      · rw [if_neg (mt isCiphertext_iff.1 hmark)] at hfind
        obtain ⟨hmakes, houtcome⟩ := continued_makes_of_plain (b := b) (s := s) hfind
        exact ⟨_, hmakes, houtcome ▸ .plain hfield hmark⟩

/-- Whatever an address says and whatever is read, a secret is got in one of the ways that there are:
with one read, with one decryption after it if the field is a text with the mark and the address names an
engine and a key, and with no other call. -/
theorem get_outcome (b : Backend σ) (r : SecretReference) (s : Scene σ) :
    ∃ calls, b.Makes (get b.watched r) (get b r) s calls ∧
      Getting r calls ((get b r).perform s).1 := by
  simp only [get_eq]
  have hread := makes_call (b := b) (s := s) (.read r.engine r.name r.version)
  rcases hcall : (b.read r.engine r.name r.version).perform s with ⟨f | found, t⟩
  · rw [make, hcall] at hread
    refine ⟨_, hread.bind_error hcall, ?_⟩
    rw [Action.perform_bind_of_error hcall]
    exact .refused
  · rw [make, hcall] at hread
    obtain ⟨calls, hmakes, hgetting⟩ := continued_makes (b := b) (r := r) (s := t) found
    refine ⟨_, hread.bind_ok hcall hmakes, ?_⟩
    rw [Action.perform_bind_of_ok hcall]
    exact hgetting

end KeyVault

end VaultAccess
