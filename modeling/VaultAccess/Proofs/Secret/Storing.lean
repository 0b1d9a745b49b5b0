import VaultAccess.KeyVault
import VaultAccess.Proofs.Calls
import VaultAccess.Proofs.NameMap
import VaultAccess.Proofs.Secret.Addresses

/-!
# Storing a document

Storing a document is a row of calls that may each fail and one call that makes the rest count. If
the address asks for encryption, every field that is not empty and not part of an address is
encrypted, in the order of the names; then all fields are written at once. So either an encryption
fails, and nothing is written, or what is written is encrypted throughout.

`Sealing` follows the fields one by one, with the calls that each causes. What is said of the whole
is read off it: where it stops (`Sealing.of_error`) and what it yields (`Sealing.of_ok`). `Storing`
is the whole, in terms of the document that was to be stored.
-/

namespace VaultAccess.KeyVault

open Backend

variable {σ : Type} {b : Backend σ} {r : SecretReference} {d : SecretDocument} {s : Scene σ}
  {engine key name value : String} {fields stored : List (String × String)} {calls : List Answered}
  {outcome : Except Failure (List (String × String))} {f : Failure}

/-- A field with the ciphertext that it was given. -/
structure Sealed where
  name : String
  value : String
  ciphertext : String

/-- The field as it was. -/
def Sealed.field (x : Sealed) : String × String := (x.name, x.value)

/-- The call that gave a field its ciphertext. -/
def Sealed.call (engine key : String) (x : Sealed) : Answered :=
  ⟨.encrypt engine key x.value, .ok x.ciphertext⟩

/-- The fields among some that are not empty. -/
def filled (fields : List (String × String)) : List (String × String) :=
  fields.filter fun field ↦ !field.2.isEmpty

/-! ### Field by field -/

/-- How some fields go through encryption with a key: the calls that are made and what comes of it.
-/
inductive Sealing (engine key : String) :
    List (String × String) → List Answered → Except Failure (List (String × String)) → Prop
  | done : Sealing engine key [] [] (.ok [])
  | skipped {name : String} {fields : List (String × String)} {calls : List Answered}
      {outcome : Except Failure (List (String × String))}
      (h : Sealing engine key fields calls outcome) :
      Sealing engine key ((name, "") :: fields) calls (outcome.map ((name, "") :: ·))
  | sealed {name value ciphertext : String} {fields : List (String × String)}
      {calls : List Answered} {outcome : Except Failure (List (String × String))}
      (hvalue : value ≠ "") (h : Sealing engine key fields calls outcome) :
      Sealing engine key ((name, value) :: fields)
        (⟨.encrypt engine key value, .ok ciphertext⟩ :: calls)
        (outcome.map ((name, ciphertext) :: ·))
  | refused {name value : String} {fields : List (String × String)} {f : Failure}
      (hvalue : value ≠ "") :
      Sealing engine key ((name, value) :: fields) [⟨.encrypt engine key value, .error f⟩]
        (.error f)

/-- A field is encrypted unless it is empty. -/
theorem storedValue_eq (htransit : r.transit = some (engine, key)) :
    storedValue b r value =
      if value = "" then pure value else b.encryptLogged engine key value := by
  simp [storedValue, htransit]

/-- With an address that asks for it, fields go through encryption. -/
theorem storedFields_makes (htransit : r.transit = some (engine, key))
    (fields : List (String × String)) :
    ∃ calls, b.Makes (storedFields b.watched r fields) (storedFields b r fields) s calls ∧
      Sealing engine key fields calls ((storedFields b r fields).perform s).1 := by
  induction fields generalizing s with
  | nil => exact ⟨[], makes_pure, .done⟩
  | cons field fields ih =>
    obtain ⟨name, value⟩ := field
    simp only [storedFields, storedValue_eq htransit]
    by_cases hvalue : value = ""
    · obtain ⟨calls, hmakes, hsealing⟩ := ih (s := s)
      obtain rfl := hvalue
      simp only [if_true]
      refine ⟨calls, makes_pure.bind_ok Action.perform_pure hmakes.bind_pure, ?_⟩
      rw [Action.perform_bind_of_ok Action.perform_pure, Action.perform_bind_pure]
      exact .skipped hsealing
    · simp only [if_neg hvalue]
      have hencrypt := encryptLogged_makes (b := b) (s := s) engine key value
      rcases hcall : (b.encryptLogged engine key value).perform s with ⟨f | ciphertext, t⟩
      · rw [hcall] at hencrypt
        refine ⟨_, hencrypt.bind_error hcall, ?_⟩
        rw [Action.perform_bind_of_error hcall]
        exact .refused hvalue
      · rw [hcall] at hencrypt
        obtain ⟨calls, hmakes, hsealing⟩ := ih (s := t)
        refine ⟨_, hencrypt.bind_ok hcall hmakes.bind_pure, ?_⟩
        rw [Action.perform_bind_of_ok hcall, Action.perform_bind_pure]
        exact .sealed hvalue hsealing

/-- With an address that does not ask for it, fields stay as they are and no call is made. -/
theorem storedFields_makes_nothing (htransit : r.transit = none)
    (fields : List (String × String)) :
    b.Makes (storedFields b.watched r fields) (storedFields b r fields) s [] ∧
      (storedFields b r fields).perform s = (.ok fields, s) := by
  have hpure : ∀ {τ : Type} (b : Backend τ), storedFields b r fields = pure fields := fun b ↦ by
    induction fields with
    | nil => rfl
    | cons field fields ih =>
      simp only [storedFields, storedValue, htransit, pure_bind, ih]
  rw [hpure, hpure]
  exact ⟨makes_pure, rfl⟩

/-! ### What fields come to -/

theorem filled_cons_of_ne (hvalue : value ≠ "") :
    filled ((name, value) :: fields) = (name, value) :: filled fields :=
  List.filter_cons_of_pos (by simpa using hvalue)

/-- Where fields do not go through, one is refused after those before it. -/
theorem Sealing.of_error (h : Sealing engine key fields calls (.error f)) :
    ∃ (sealed : List Sealed) (field : String × String) (rest : List (String × String)),
      filled fields = sealed.map Sealed.field ++ field :: rest ∧
        calls = sealed.map (Sealed.call engine key) ++
          [⟨.encrypt engine key field.2, .error f⟩] := by
  generalize hf : Except.error f = outcome at h
  induction h with
  | done => cases hf
  | @skipped name fields calls outcome h ih =>
    cases outcome with
    | ok => cases hf
    | error => exact ih hf
  | @sealed name value ciphertext fields calls outcome hvalue h ih =>
    cases outcome with
    | ok => cases hf
    | error =>
      obtain ⟨sealed, field, rest, hfields, rfl⟩ := ih hf
      refine ⟨⟨name, value, ciphertext⟩ :: sealed, field, rest, ?_, rfl⟩
      rw [filled_cons_of_ne hvalue, hfields]
      rfl
  | @refused name value fields f hvalue =>
    obtain rfl := Except.error.inj hf
    exact ⟨[], (name, value), filled fields, filled_cons_of_ne hvalue, rfl⟩

/-- Entries carry a field: as it is if it is empty, and with the ciphertext that it was given if
not. -/
structure Carries (sealed : List Sealed) (stored : List (String × String)) (name value : String) :
    Prop where
  empty : value = "" → (name, "") ∈ stored
  filled : value ≠ "" →
    ∃ ciphertext, ⟨name, value, ciphertext⟩ ∈ sealed ∧ (name, ciphertext) ∈ stored

theorem Carries.mono {sealed sealed' : List Sealed} {stored' : List (String × String)}
    (h : Carries sealed stored name value) (hsealed : sealed ⊆ sealed')
    (hstored : stored ⊆ stored') : Carries sealed' stored' name value where
  empty hvalue := hstored (h.empty hvalue)
  filled hvalue := (h.filled hvalue).imp fun _ hc ↦ hc.imp (@hsealed _) (@hstored _)

/-- Where fields go through, they keep their names and each is carried. -/
theorem Sealing.of_ok (h : Sealing engine key fields calls (.ok stored)) :
    ∃ sealed : List Sealed, sealed.map Sealed.field = filled fields ∧
      calls = sealed.map (Sealed.call engine key) ∧
      stored.map Prod.fst = fields.map Prod.fst ∧
      ∀ name value, (name, value) ∈ fields → Carries sealed stored name value := by
  generalize hstored : Except.ok stored = outcome at h
  induction h generalizing stored with
  | done =>
    obtain rfl := Except.ok.inj hstored
    exact ⟨[], rfl, rfl, rfl, fun _ _ hmem ↦ absurd hmem List.not_mem_nil⟩
  | @skipped name fields calls outcome h ih =>
    cases outcome with
    | error => cases hstored
    | ok rest =>
      obtain rfl := Except.ok.inj hstored
      obtain ⟨sealed, hfields, hcalls, hnames, hcarries⟩ := ih rfl
      refine ⟨sealed, hfields, hcalls, congrArg (name :: ·) hnames, fun n v hmem ↦ ?_⟩
      rcases List.mem_cons.1 hmem with heq | hmem
      · obtain ⟨rfl, rfl⟩ := Prod.mk.inj heq
        exact ⟨fun _ ↦ List.mem_cons_self, fun hvalue ↦ absurd rfl hvalue⟩
      · exact (hcarries n v hmem).mono (List.Subset.refl _) (List.subset_cons_self _ _)
  | @sealed name value ciphertext fields calls outcome hvalue h ih =>
    cases outcome with
    | error => cases hstored
    | ok rest =>
      obtain rfl := Except.ok.inj hstored
      obtain ⟨sealed, hfields, rfl, hnames, hcarries⟩ := ih rfl
      refine ⟨⟨name, value, ciphertext⟩ :: sealed, ?_, rfl, congrArg (name :: ·) hnames,
        fun n v hmem ↦ ?_⟩
      · rw [filled_cons_of_ne hvalue, ← hfields]
        rfl
      · rcases List.mem_cons.1 hmem with heq | hmem
        · obtain ⟨rfl, rfl⟩ := Prod.mk.inj heq
          exact ⟨fun hempty ↦ absurd hempty hvalue,
            fun _ ↦ ⟨ciphertext, List.mem_cons_self, List.mem_cons_self⟩⟩
        · exact (hcarries n v hmem).mono (List.subset_cons_self _ _) (List.subset_cons_self _ _)
  | refused => cases hstored

/-! ### The write -/

/-- What is made of the answer to a write. -/
def outcomeOf : Except Failure (Option UInt32) → Except Failure Stored
  | .ok (some version) => .ok ⟨version⟩
  | .ok none => .error (.unsaved .noVersion)
  | .error f => .error f

/-- Write fields, and make something of the answer. -/
def commit (b : Backend σ) (r : SecretReference) (fields : NameMap String) : Action σ Stored := do
  let version ← Action.orFail (.unsaved .noVersion) (← b.write r.engine r.name fields)
  Action.emit (.stored version)
  return ⟨version⟩

theorem set_eq :
    set b r d = storedFields b r (SecretDocument.payload d).entries >>= fun fields ↦
      commit b r (NameMap.ofList fields) := rfl

/-- There is one write, and its answer makes the outcome. -/
theorem commit_makes (fields : NameMap String) :
    ∃ written, b.Makes (commit b.watched r fields) (commit b r fields) s
        [⟨.write r.engine r.name fields, written⟩] ∧
      ((commit b r fields).perform s).1 = outcomeOf written := by
  have hwrite := makes_call (b := b) (s := s) (.write r.engine r.name fields)
  rcases hcall : (b.write r.engine r.name fields).perform s with ⟨f | version, t⟩
  · rw [make, hcall] at hwrite
    refine ⟨.error f, hwrite.bind_error hcall, ?_⟩
    rw [commit, Action.perform_bind_of_error hcall]
    rfl
  · rw [make, hcall] at hwrite
    refine ⟨.ok version, hwrite.bind_ok hcall ?_, ?_⟩
    · cases version with
      | none => exact makes_orFail.bind_error Action.perform_orFail_none
      | some version =>
        exact makes_orFail.bind_ok Action.perform_orFail_some
          (makes_emit.bind_ok Action.perform_emit makes_pure)
    · rw [commit, Action.perform_bind_of_ok hcall]
      cases version with
      | none | some version => rfl

/-! ### Storing as a whole -/

/-- The fields of a document that are to be encrypted: those that are no part of an address and not
empty, in the order of their names. -/
def toSeal (d : SecretDocument) : List (String × String) :=
  d.entries.filter fun field ↦ !Property.routing.contains field.1 && !field.2.isEmpty

/-- What is stored of a document that is not encrypted. -/
def Keeps (d : SecretDocument) (fields : NameMap String) : Prop :=
  ∀ name, fields.get? name = if name ∈ Property.routing then none else d.get? name

/-- What is stored of a document that is encrypted: the same names with an empty value under those
that had one, and the ciphertext of its value under every other. -/
structure Seals (d : SecretDocument) (sealed : List Sealed) (fields : NameMap String) : Prop where
  names : ∀ name, (fields.get? name).isSome ↔ (d.get? name).isSome ∧ name ∉ Property.routing
  empty : ∀ name, name ∉ Property.routing → d.get? name = some "" → fields.get? name = some ""
  filled : ∀ name value, name ∉ Property.routing → d.get? name = some value → value ≠ "" →
    ∃ ciphertext, ⟨name, value, ciphertext⟩ ∈ sealed ∧ fields.get? name = some ciphertext

/-- How a document is stored: the calls that are made, the oldest first, and what comes of it. -/
inductive Storing (r : SecretReference) (d : SecretDocument) :
    List Answered → Except Failure Stored → Prop
  /-- An encryption fails: nothing more is encrypted and nothing is written. -/
  | refused {engine key : String} {sealed : List Sealed} {field : String × String}
      {rest : List (String × String)} {f : Failure} (hnames : r.Names engine key)
      (hfields : toSeal d = sealed.map Sealed.field ++ field :: rest) :
      Storing r d (sealed.map (Sealed.call engine key) ++
        [⟨.encrypt engine key field.2, .error f⟩]) (.error f)
  /-- Every field is encrypted, and then all are written. -/
  | sealed {engine key : String} {sealed : List Sealed} {fields : NameMap String}
      {written : Except Failure (Option UInt32)} (hnames : r.Names engine key)
      (hfields : toSeal d = sealed.map Sealed.field) (hseals : Seals d sealed fields) :
      Storing r d (sealed.map (Sealed.call engine key) ++
        [⟨.write r.engine r.name fields, written⟩]) (outcomeOf written)
  /-- The address does not ask for encryption: the fields are written as they are. -/
  | plain {fields : NameMap String} {written : Except Failure (Option UInt32)}
      (hnames : ∀ engine key, ¬ r.Names engine key) (hkeeps : Keeps d fields) :
      Storing r d [⟨.write r.engine r.name fields, written⟩] (outcomeOf written)

theorem get?_payload {name : String} :
    (SecretDocument.payload d).get? name =
      if name ∈ Property.routing then none else d.get? name := by
  rw [SecretDocument.payload, NameMap.get?_filterNames]
  by_cases hname : name ∈ Property.routing <;> simp [hname]

theorem filled_payload : filled (SecretDocument.payload d).entries = toSeal d := by
  rw [filled, SecretDocument.payload, NameMap.filterNames, List.filter_filter, toSeal]
  congr 1
  funext field
  exact Bool.and_comm _ _

theorem mem_payload_iff :
    (name, value) ∈ (SecretDocument.payload d).entries ↔
      name ∉ Property.routing ∧ d.get? name = some value := by
  rw [← NameMap.get?_eq_some_iff, get?_payload]
  by_cases hname : name ∈ Property.routing <;> simp [hname]

/-- Fields under the names of a payload are in order. -/
theorem entries_ofList_of_names
    (h : stored.map Prod.fst = (SecretDocument.payload d).entries.map Prod.fst) :
    (NameMap.ofList stored).entries = stored := by
  refine NameMap.entries_ofList ?_
  have hascending := (SecretDocument.payload d).ascending
  rw [← List.pairwise_map (f := Prod.fst) (R := (· < ·)), ← h, List.pairwise_map] at hascending
  exact hascending

/-- A payload keeps what is stored. -/
theorem keeps_payload : Keeps d (NameMap.ofList (SecretDocument.payload d).entries) := fun name ↦ by
  have hpayload : NameMap.ofList (SecretDocument.payload d).entries = SecretDocument.payload d :=
    NameMap.ext (entries_ofList_of_names rfl)
  rw [hpayload, get?_payload]

/-- A payload that went through encryption seals what is stored. -/
theorem seals_of_sealing
    (h : Sealing engine key (SecretDocument.payload d).entries calls (.ok stored)) :
    ∃ sealed : List Sealed, toSeal d = sealed.map Sealed.field ∧
      calls = sealed.map (Sealed.call engine key) ∧ Seals d sealed (NameMap.ofList stored) := by
  obtain ⟨sealed, hfields, hcalls, hnames, hcarries⟩ := h.of_ok
  have hentries := entries_ofList_of_names hnames
  refine ⟨sealed, (hfields.trans filled_payload).symm, hcalls, ?_, ?_, ?_⟩
  · intro name
    rw [NameMap.isSome_get?_iff, hentries, hnames, ← NameMap.isSome_get?_iff, get?_payload]
    by_cases hname : name ∈ Property.routing <;> simp [hname]
  · intro name hname hvalue
    rw [NameMap.get?_eq_some_iff, hentries]
    exact (hcarries name "" (mem_payload_iff.2 ⟨hname, hvalue⟩)).empty rfl
  · intro name value hname hvalue hne
    obtain ⟨ciphertext, hmem, hstored⟩ :=
      (hcarries name value (mem_payload_iff.2 ⟨hname, hvalue⟩)).filled hne
    refine ⟨ciphertext, hmem, ?_⟩
    rwa [NameMap.get?_eq_some_iff, hentries]

/-- Storing a document makes the calls that it is to make. -/
theorem set_makes : ∃ calls, b.Makes (set b.watched r d) (set b r d) s calls ∧
    Storing r d calls ((set b r d).perform s).1 := by
  simp only [set_eq]
  cases htransit : r.transit with
  | none =>
    obtain ⟨hmakes, hstored⟩ := storedFields_makes_nothing (b := b) (s := s) htransit
      (SecretDocument.payload d).entries
    obtain ⟨written, hcommit, houtcome⟩ := commit_makes (b := b) (r := r) (s := s)
      (NameMap.ofList (SecretDocument.payload d).entries)
    refine ⟨_, hmakes.bind_ok hstored hcommit, ?_⟩
    rw [Action.perform_bind_of_ok hstored, houtcome]
    refine .plain (fun engine key hnames ↦ ?_) keeps_payload
    rw [SecretReference.transit_eq_some_iff.2 hnames] at htransit
    cases htransit
  | some names =>
    obtain ⟨engine, key⟩ := names
    have hnames := SecretReference.transit_eq_some_iff.1 htransit
    obtain ⟨calls, hmakes, hsealing⟩ := storedFields_makes (b := b) (s := s) htransit
      (SecretDocument.payload d).entries
    rcases hstored : (storedFields b r (SecretDocument.payload d).entries).perform s
      with ⟨f | stored, t⟩
    · rw [hstored] at hsealing
      obtain ⟨sealed, field, rest, hfields, rfl⟩ := hsealing.of_error
      refine ⟨_, hmakes.bind_error hstored, ?_⟩
      rw [Action.perform_bind_of_error hstored]
      exact .refused hnames (filled_payload.symm.trans hfields)
    · rw [hstored] at hsealing
      obtain ⟨sealed, hfields, rfl, hseals⟩ := seals_of_sealing hsealing
      obtain ⟨written, hcommit, houtcome⟩ := commit_makes (b := b) (r := r) (s := t)
        (NameMap.ofList stored)
      refine ⟨_, hmakes.bind_ok hstored hcommit, ?_⟩
      rw [Action.perform_bind_of_ok hstored, houtcome]
      exact .sealed hnames hfields hseals

/-- Storing a document is all or nothing. In the order of their names, the fields that are to be
encrypted are encrypted one at a time. Either one is refused, which is then the outcome, and nothing
is written; or everything is written at once, encrypted throughout if the address asks for it and as
it was if not, and the write makes the outcome. -/
theorem set_all_or_nothing (b : Backend σ) (r : SecretReference) (d : SecretDocument)
    (s : Scene σ) :
    (toSeal d).Pairwise (fun a b ↦ a.1 < b.1) ∧
      ∃ calls, b.Makes (set b.watched r d) (set b r d) s calls ∧
        Storing r d calls ((set b r d).perform s).1 :=
  ⟨d.ascending.filter _, set_makes⟩

end VaultAccess.KeyVault
