import VaultAccess.Ciphertext
import VaultAccess.Proofs.Calls
import VaultAccess.Proofs.NameMap

/-!
# Backends that keep what they are given

What services rely on: a backend is faithful if, after any history, what was encrypted can be
decrypted and what was written can be read. It does not have to succeed; `Ready` says that it does.
Both hold of a backend in memory (`shelf_faithful`, `shelf_ready`), which keeps the latest version
of every document and encrypts by setting the mark.
-/

namespace VaultAccess

namespace Backend

variable {σ : Type}

/-- A call does not write a document. -/
def Call.Spares (engine name : String) (c : Call) : Prop :=
  ∀ fields, c ≠ .write engine name fields

/-- A backend that keeps what it is given. -/
structure Faithful (b : Backend σ) : Prop where
  /-- What an encryption yields is marked as a ciphertext. -/
  marks : ∀ {s t : Scene σ} {calls : List Answered} {engine key plaintext ciphertext : String},
    b.Leads s calls t → ⟨.encrypt engine key plaintext, .ok ciphertext⟩ ∈ calls →
      Ciphertext.isCiphertext ciphertext = true
  /-- With the same key it gives back what was encrypted. -/
  decrypts : ∀ {s t : Scene σ} {calls : List Answered} {engine key plaintext ciphertext : String},
    b.Leads s calls t → ⟨.encrypt engine key plaintext, .ok ciphertext⟩ ∈ calls →
      ((b.decrypt engine key ciphertext).perform t).1 = .ok plaintext
  /-- Until a document is written again it is read as it was written, as the latest version and as
  the version that it became. -/
  reads : ∀ {s t : Scene σ} {before after : List Answered} {engine name : String}
    {fields : NameMap String} {v : UInt32} {version : Option UInt32},
    b.Leads s (before ++ ⟨.write engine name fields, .ok (some v)⟩ :: after) t →
      (∀ later ∈ after, later.call.Spares engine name) → version ∈ [none, some 0, some v] →
        ∃ document, ((b.read engine name version).perform t).1 = .ok (some document) ∧
          ∀ field, document.get? field = (fields.get? field).map .text

/-- A backend that never refuses to encrypt or to write. -/
structure Ready (b : Backend σ) : Prop where
  encrypts : ∀ engine key plaintext s, ∃ ciphertext,
    ((b.encrypt engine key plaintext).perform s).1 = .ok ciphertext
  writes : ∀ engine name fields s, ∃ v, ((b.write engine name fields).perform s).1 = .ok (some v)

/-! ### A backend in memory -/

/-- The latest version of every document, and its fields. -/
abbrev Shelf := (engine name : String) → Option (UInt32 × NameMap String)

namespace Shelf

/-- The beginning, with nothing on the shelf. -/
def bare : Scene Shelf := ⟨fun _ _ ↦ none, []⟩

/-- Fields as they are read. -/
def texts (fields : NameMap String) : NameMap Json :=
  ⟨fields.entries.map fun e ↦ (e.1, .text e.2), List.pairwise_map.2 fields.ascending⟩

/-- The fields of a version of a document, if it is the latest. -/
def find (s : Shelf) (engine name : String) (version : Option UInt32) : Option (NameMap Json) :=
  match s engine name with
  | some (v, fields) => if version ∈ [none, some 0, some v] then some (texts fields) else none
  | none => none

/-- The version that a document will become when it is written. -/
def next (s : Shelf) (engine name : String) : UInt32 :=
  match s engine name with
  | some (v, _) => v + 1
  | none => 1

/-- Put a document in the place of its latest version. -/
def put (s : Shelf) (engine name : String) (fields : NameMap String) : Shelf := fun e n ↦
  if e = engine ∧ n = name then some (s.next engine name, fields) else s e n

/-- What plaintexts are marked with. -/
def mark : String := "vault:v1:"

end Shelf

/-- The backend in memory. -/
def shelf : Backend Shelf where
  read engine name version := do return (← Action.state).find engine name version
  write engine name fields := do
    let version := (← Action.state).next engine name
    Action.modifyState (·.put engine name fields)
    return some version
  encrypt _ _ plaintext := return Shelf.mark ++ plaintext
  decrypt _ _ ciphertext := return String.ofList (ciphertext.toList.drop Shelf.mark.length)
  readCredentials _ := return none

variable {s t : Scene Shelf} {engine name field : String} {fields : NameMap String} {v : UInt32}
  {before after : List Answered}

theorem Shelf.get?_texts : (texts fields).get? field = (fields.get? field).map .text := by
  simp only [texts, NameMap.get?, List.find?_map, Option.map_map]
  rfl

/-- What is encrypted is marked. -/
theorem eq_of_encrypted {key plaintext ciphertext : String} {calls : List Answered}
    (h : shelf.Leads s calls t) (hmade : ⟨.encrypt engine key plaintext, .ok ciphertext⟩ ∈ calls) :
    ciphertext = Shelf.mark ++ plaintext := by
  obtain ⟨u, hu⟩ := h.answered hmade
  simpa [make, shelf] using hu

/-- Calls that do not write a document leave it where it is. -/
theorem shelf_of_spares (h : shelf.Leads s after t)
    (hspares : ∀ later ∈ after, later.call.Spares engine name) :
    t.state engine name = s.state engine name := by
  induction h with
  | refl => rfl
  | @call s t calls c h ih =>
    obtain ⟨hc, hcalls⟩ := List.forall_mem_cons.1 hspares
    rw [ih hcalls]
    cases c with
    | write e n fields =>
      have hne : ¬ (engine = e ∧ name = n) := fun ⟨he, hn⟩ ↦ hc fields (by rw [he, hn])
      exact if_neg hne
    | read | encrypt | decrypt | readCredentials => rfl
  | log log h ih => exact ih hspares

/-- A document that was written and not written again is where it was put. -/
theorem shelf_of_written
    (h : shelf.Leads s (before ++ ⟨.write engine name fields, .ok (some v)⟩ :: after) t)
    (hspares : ∀ later ∈ after, later.call.Spares engine name) :
    t.state engine name = some (v, fields) := by
  generalize hcalls : before ++ ⟨.write engine name fields, .ok (some v)⟩ :: after = calls at h
  induction h generalizing before with
  | refl => simp at hcalls
  | @call s t calls c h ih =>
    cases before with
    | nil =>
      obtain ⟨hc, rfl⟩ := List.cons.inj hcalls
      obtain ⟨rfl, hv⟩ := Answered.mk.inj hc
      rw [shelf_of_spares h hspares]
      obtain rfl := Option.some.inj (Except.ok.inj (eq_of_heq hv))
      exact if_pos ⟨rfl, rfl⟩
    | cons made before => exact ih (List.cons.inj hcalls).2
  | log log h ih => exact ih hcalls

theorem shelf_faithful : shelf.Faithful where
  marks h hmade := by
    have hmark : Ciphertext.marker.toList <+: Shelf.mark.toList := by decide
    rw [eq_of_encrypted h hmade, Ciphertext.isCiphertext, List.isPrefixOf_iff_prefix,
      String.toList_append]
    exact hmark.trans (List.prefix_append _ _)
  decrypts {_ t _ engine key plaintext _} h hmade := by
    rw [eq_of_encrypted h hmade]
    show Except.ok (String.ofList ((Shelf.mark ++ plaintext).toList.drop Shelf.mark.length)) = _
    rw [String.toList_append, ← String.length_toList, List.drop_left, String.ofList_toList]
  reads {_ t _ _ engine name fields v version} h hspares hversion := by
    refine ⟨Shelf.texts fields, ?_, fun _ ↦ Shelf.get?_texts⟩
    show Except.ok (t.state.find engine name version) = _
    rw [Shelf.find, shelf_of_written h hspares]
    exact congrArg Except.ok (if_pos hversion)

theorem shelf_ready : shelf.Ready where
  encrypts _ _ plaintext _ := ⟨Shelf.mark ++ plaintext, rfl⟩
  writes engine name _ s := ⟨s.state.next engine name, rfl⟩

end Backend

end VaultAccess
