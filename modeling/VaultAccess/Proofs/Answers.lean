import VaultAccess.Proofs.Json.Records
import VaultAccess.Proofs.Transit

/-!
# What calls make of responses

A response that came in full brings a reply or nothing (`Brings`), or it is a refusal (`Refuses`).
Its status alone says which of these it is, unless it is a success that may have a body; then the
body does. No two cases are open for one response, so every outcome stands for statuses of its own,
and what may be tried again are the outcomes of two classes of statuses.

On top of this each call takes from the reply what it is for (`Gives`) and says what it does where
that is missing (`Misses`). Nothing stands in for what is missing: a call yields what the reply
holds, nothing where it may hold nothing, and fails otherwise.
-/

namespace VaultAccess

open Http Json

/-! ### Classes of statuses -/

namespace Http.Status

/-- A success that may have a body. -/
def MayBring (status : Status) : Prop :=
  200 ≤ status.toNat ∧ status.toNat < 300 ∧ status.toNat ≠ 204

/-- The server is to blame. -/
def Blames (status : Status) : Prop := 500 ≤ status.toNat ∧ status.toNat < 600

instance (status : Status) : Decidable status.MayBring := inferInstanceAs (Decidable (_ ∧ _))

instance (status : Status) : Decidable status.Blames := inferInstanceAs (Decidable (_ ∧ _))

/-- The class of statuses that no other class is for. -/
structure Stray (status : Status) : Prop where
  not_success : ¬ (200 ≤ status.toNat ∧ status.toNat < 300)
  not_forbidden : status ≠ 403
  not_absent : status ≠ 404
  not_limited : status ≠ 429
  not_blames : ¬ status.Blames

variable {status : Status}

theorem isSuccess_iff : status.isSuccess = true ↔ 200 ≤ status.toNat ∧ status.toNat < 300 := by
  have hlow : (200 : UInt16).toNat = 200 := rfl
  have hhigh : (300 : UInt16).toNat = 300 := rfl
  simp only [isSuccess, Bool.and_eq_true, decide_eq_true_eq, UInt16.le_iff_toNat_le,
    UInt16.lt_iff_toNat_lt, hlow, hhigh]

theorem isServerError_iff : status.isServerError = true ↔ status.Blames := by
  have hlow : (500 : UInt16).toNat = 500 := rfl
  have hhigh : (600 : UInt16).toNat = 600 := rfl
  simp only [isServerError, Blames, Bool.and_eq_true, decide_eq_true_eq, UInt16.le_iff_toNat_le,
    UInt16.lt_iff_toNat_lt, hlow, hhigh]

theorem mayBring_iff : status.MayBring ↔ status.isSuccess = true ∧ status ≠ 204 := by
  have hbody : status.toNat ≠ 204 ↔ status ≠ 204 := not_congr (UInt16.toNat_inj (b := 204))
  rw [isSuccess_iff, MayBring, ← and_assoc, hbody]

end Http.Status

/-! ### Responses -/

variable {α ν : Type} {path : String} {reader : Reply.Reader α} {read : List UInt8 → Option α}
  {status : Http.Status} {bytes : List UInt8} {value : Option α} {f : Failure}

/-- What a response brings. -/
inductive Brings (read : List UInt8 → Option α) (status : Http.Status) (bytes : List UInt8) :
    Option α → Prop
  /-- There is nothing, or there is no body. -/
  | absent (h : status = 404 ∨ status = 204) : Brings read status bytes none
  /-- The body is empty. -/
  | empty (h : status.MayBring) (hbytes : bytes = []) : Brings read status bytes none
  /-- The body is read. -/
  | value {a : α} (h : status.MayBring) (hbytes : bytes ≠ []) (ha : read bytes = some a) :
      Brings read status bytes (some a)

/-- Why a response brings neither a reply nor nothing. -/
inductive Refuses (path : String) (reader : Reply.Reader α) (status : Http.Status)
    (bytes : List UInt8) : Failure → Prop
  /-- The body cannot be read, and the reader says why. -/
  | undecodable (h : status.MayBring) (hbytes : bytes ≠ []) (ha : reader.read? bytes = none) :
      Refuses path reader status bytes (.undecodable ⟨reader.explain bytes, []⟩)
  | forbidden (h : status = 403) : Refuses path reader status bytes (.forbidden path)
  | rateLimited (h : status = 429) : Refuses path reader status bytes .rateLimited
  | unavailable (h : status.Blames) :
      Refuses path reader status bytes (.unavailable (.status status (Utf8.decodeLossy bytes)))
  | unexpected (h : status.Stray) : Refuses path reader status bytes
      (.unexpectedResponse (.status status (Utf8.decodeLossy bytes)))

theorem classify_of_mayBring (h : status.MayBring) :
    classify path reader ⟨status, .whole bytes⟩ = decodeBody reader (.whole bytes) :=
  have ⟨hsuccess, hbody⟩ := Status.mayBring_iff.1 h
  classify_of_isSuccess hsuccess hbody

theorem classify_of_blames (h : status.Blames) : classify path reader ⟨status, .whole bytes⟩ =
    .error (.unavailable (.status status (Utf8.decodeLossy bytes))) := by
  have hne : ∀ s : Http.Status, s.isServerError = false → (status == s) = false :=
    fun s hs ↦ beq_false_of_ne fun heq ↦ by
      rw [← Status.isServerError_iff, heq, hs] at h
      cases h
  rw [classify, hne 404 rfl, hne 204 rfl, hne 403 rfl, hne 429 rfl, Status.isServerError_iff.2 h]
  rfl

theorem classify_of_stray (h : status.Stray) : classify path reader ⟨status, .whole bytes⟩ =
    .error (.unexpectedResponse (.status status (Utf8.decodeLossy bytes))) := by
  have hsuccess : status.isSuccess = false :=
    Bool.eq_false_iff.2 fun hs ↦ h.not_success (Status.isSuccess_iff.1 hs)
  have hserver : status.isServerError = false :=
    Bool.eq_false_iff.2 fun hs ↦ h.not_blames (Status.isServerError_iff.1 hs)
  have hbody : status ≠ 204 := fun heq ↦ by rw [heq] at hsuccess; cases hsuccess
  rw [classify, beq_false_of_ne h.not_absent, beq_false_of_ne hbody,
    beq_false_of_ne h.not_forbidden, beq_false_of_ne h.not_limited, hserver, hsuccess]
  rfl

/-- Every response brings something or refuses. -/
theorem classify_sorted (path : String) (reader : Reply.Reader α) (status : Http.Status)
    (bytes : List UInt8) : match classify path reader ⟨status, .whole bytes⟩ with
    | .ok value => Brings reader.read? status bytes value
    | .error f => Refuses path reader status bytes f := by
  by_cases hnothing : status = 404 ∨ status = 204
  · rcases hnothing with rfl | rfl
    · exact .absent (.inl rfl)
    · exact .absent (.inr rfl)
  obtain ⟨habsent, hbody⟩ := not_or.1 hnothing
  by_cases hforbidden : status = 403
  · obtain rfl := hforbidden
    exact .forbidden rfl
  by_cases hlimited : status = 429
  · obtain rfl := hlimited
    exact .rateLimited rfl
  by_cases hblames : status.Blames
  · rw [classify_of_blames hblames]
    exact .unavailable hblames
  by_cases hsuccess : status.isSuccess = true
  · have hbring : status.MayBring := Status.mayBring_iff.2 ⟨hsuccess, hbody⟩
    rw [classify_of_mayBring hbring]
    by_cases hempty : bytes = []
    · obtain rfl := hempty
      exact .empty hbring rfl
    · rw [decodeBody_of_ne_nil hempty]
      cases hread : reader.read? bytes with
      | none => exact .undecodable hbring hempty hread
      | some a => exact .value hbring hempty hread
  · have hstray : status.Stray :=
      ⟨mt Status.isSuccess_iff.2 hsuccess, hforbidden, habsent, hlimited, hblames⟩
    rw [classify_of_stray hstray]
    exact .unexpected hstray

theorem classify_eq_ok_iff (path : String) :
    classify path reader ⟨status, .whole bytes⟩ = .ok value ↔
      Brings reader.read? status bytes value := by
  constructor
  · intro h
    have hsorted := classify_sorted path reader status bytes
    rw [h] at hsorted
    exact hsorted
  · rintro (h | ⟨h, rfl⟩ | ⟨h, hbytes, ha⟩)
    · exact if_pos (by simpa using h)
    · exact classify_of_mayBring h
    · rw [classify_of_mayBring h, decodeBody_of_ne_nil hbytes, ha]
      rfl

theorem classify_eq_error_iff :
    classify path reader ⟨status, .whole bytes⟩ = .error f ↔ Refuses path reader status bytes f := by
  constructor
  · intro h
    have hsorted := classify_sorted path reader status bytes
    rw [h] at hsorted
    exact hsorted
  · rintro (⟨h, hbytes, ha⟩ | rfl | rfl | h | h)
    · rw [classify_of_mayBring h, decodeBody_of_ne_nil hbytes, ha]
      rfl
    · rfl
    · rfl
    · exact classify_of_blames h
    · exact classify_of_stray h

/-- A refusal may be tried again exactly if there were too many requests or the server is to
blame. -/
theorem Refuses.isRetryable_iff (h : Refuses path reader status bytes f) :
    f.isRetryable = true ↔ status = 429 ∨ status.Blames := by
  cases h with
  | undecodable h =>
    refine ⟨nofun, fun hagain ↦ ?_⟩
    rcases hagain with rfl | hblames
    · exact absurd h.2.1 (by decide)
    · exact absurd (Nat.le_trans hblames.1 (Nat.le_of_lt h.2.1)) (by decide)
  | forbidden h =>
    refine ⟨nofun, fun hagain ↦ ?_⟩
    rcases hagain with rfl | hblames
    · cases h
    · rw [h] at hblames
      exact absurd hblames.1 (by decide)
  | rateLimited h => exact ⟨fun _ ↦ .inl h, fun _ ↦ rfl⟩
  | unavailable h => exact ⟨fun _ ↦ .inr h, fun _ ↦ rfl⟩
  | unexpected h =>
    exact ⟨nofun, fun hagain ↦ hagain.elim (fun h' ↦ absurd h' h.not_limited)
      fun h' ↦ absurd h' h.not_blames⟩

/-- What brings something or nothing is not to be tried again. -/
theorem Brings.not_again (h : Brings read status bytes value) :
    ¬ (status = 429 ∨ status.Blames) := by
  have hbring : ¬ (status.MayBring ∧ (status = 429 ∨ status.Blames)) := by
    rintro ⟨hbring, rfl | hblames⟩
    · exact absurd hbring.2.1 (by decide)
    · exact absurd (Nat.lt_of_le_of_lt hblames.1 hbring.2.1) (by decide)
  rcases h with (rfl | rfl) | h | h
  · decide
  · decide
  · exact fun hagain ↦ hbring ⟨h, hagain⟩
  · exact fun hagain ↦ hbring ⟨h, hagain⟩

/-- A body that is a reply is read as it. -/
theorem Brings.of_tree {net : Network ν} {kind : Reply.Kind} {t : Tree} {reply : kind.Content}
    (h : status.MayBring) (ht : Tree.read? bytes = some t) (hreply : kind.ofTree? t = some reply) :
    Brings (net.reader kind).read? status bytes (some reply) := by
  have hbytes : bytes ≠ [] := by
    rintro rfl
    cases ht
  refine .value h hbytes ?_
  show (Tree.read? bytes).bind kind.ofTree? = _
  rw [ht, Option.bind_some, hreply]

/-- A request whose response came in full ends as the response is sorted. -/
theorem Endpoint.request_sorted {e : Endpoint} {net : Network ν} {method : Http.Method}
    {token : Option Secret} {body : Option Json} {s : Scene ν}
    (h : ((e.send net method path token body).perform s).1 = .ok ⟨status, .whole bytes⟩) :
    (∀ value, ((e.request net reader method path token body).perform s).1 = .ok value ↔
        Brings reader.read? status bytes value) ∧
      (∀ f, ((e.request net reader method path token body).perform s).1 = .error f ↔
        Refuses path reader status bytes f) ∧
      ∀ f, Refuses path reader status bytes f →
        (f.isRetryable = true ↔ status = 429 ∨ status.Blames) := by
  rw [perform_request, h]
  exact ⟨fun _ ↦ classify_eq_ok_iff path, fun _ ↦ classify_eq_error_iff,
    fun _ ↦ Refuses.isRetryable_iff⟩

/-! ### What is missing from a body -/

/-- A field is not written, or it is null. -/
def Json.Record.Lacks (r : Record) (field : String) : Prop :=
  ∀ t, r.get? field = some t → t = .null

theorem Json.Record.optional_eq_some_none_iff {r : Record} {field : String}
    {read : Tree → Option α} : r.optional field read = some none ↔ r.Lacks field := by
  rw [optional, defaulted, Lacks]
  cases r.get? field with
  | none => simp
  | some t =>
    simp only [Option.some.injEq, forall_eq']
    cases t <;> simp [nullable]

theorem Json.Record.optional_eq_some_some_iff {r : Record} {field : String}
    {read : Tree → Option α} {a : α} : r.optional field read = some (some a) ↔
      ∃ t, r.get? field = some t ∧ t ≠ .null ∧ read t = some a := by
  rw [optional, defaulted]
  cases r.get? field with
  | none => simp
  | some t => cases t <;> simp [nullable]

namespace Reply

/-- A body has nothing in a field of its data, which are a record: the data are not written or null,
or the field is. -/
inductive Without (fields : List String) (field : String) (t : Tree) : Prop
  | outer {r : Record} (h : Record.ofTree? ["data"] t = some r) (hdata : r.Lacks "data")
  | inner {r r' : Record} {u : Tree} (h : Record.ofTree? ["data"] t = some r)
      (hu : r.get? "data" = some u) (h' : Record.ofTree? fields u = some r')
      (hfield : r'.Lacks field)

section

variable {β γ : Type} {fields : List String} {field : String} {t : Tree} {r : Record}
  {block? : Tree → Option β} {get : β → Option γ}

/-- If there are data, the field is to be found in them. -/
theorem without_iff {r' : Record} {u : Tree} (hr : Record.ofTree? ["data"] t = some r)
    (hu : r.get? "data" = some u) (hr' : Record.ofTree? fields u = some r') :
    Without fields field t ↔ r'.Lacks field := by
  refine ⟨?_, .inner hr hu hr'⟩
  rintro (⟨h, hlacks⟩ | ⟨h, hu', h', hlacks⟩) <;> obtain rfl := Option.some.inj (h.symm.trans hr)
  · -- null is no record
    rw [hlacks u hu] at hr'
    cases hr'
  · obtain rfl := Option.some.inj (hu.symm.trans hu')
    obtain rfl := Option.some.inj (hr'.symm.trans h')
    exact hlacks

/-- Data that may be missing. -/
theorem optional_bind_eq_none_iff {data : Option β} (hr : Record.ofTree? ["data"] t = some r)
    (hdata : r.optional "data" block? = some data)
    (hblock : ∀ u b, block? u = some b →
      ∃ r', Record.ofTree? fields u = some r' ∧ (get b = none ↔ r'.Lacks field)) :
    data.bind get = none ↔ Without fields field t := by
  cases data with
  | none =>
    exact ⟨fun _ ↦ .outer hr (Record.optional_eq_some_none_iff.1 hdata), fun _ ↦ rfl⟩
  | some b =>
    obtain ⟨u, hu, -, hb⟩ := Record.optional_eq_some_some_iff.1 hdata
    obtain ⟨r', hr', hget⟩ := hblock u b hb
    rw [Option.bind_some, hget, without_iff hr hu hr']

/-- Data that have to be there. -/
theorem required_eq_none_iff {b : β} (hr : Record.ofTree? ["data"] t = some r)
    (hdata : r.required "data" block? = some b)
    (hblock : ∀ u b, block? u = some b →
      ∃ r', Record.ofTree? fields u = some r' ∧ (get b = none ↔ r'.Lacks field)) :
    get b = none ↔ Without fields field t := by
  obtain ⟨u, hu, hb⟩ := Option.bind_eq_some_iff.1 hdata
  obtain ⟨r', hr', hget⟩ := hblock u b hb
  rw [hget, without_iff hr hu hr']

end

variable {t : Tree}

/-- The fields of a document are missing where the data in its data are. -/
theorem Document.fields_eq_none_iff {document : Document} (h : Document.ofTree? t = some document) :
    document.data.bind (·.fields) = none ↔ Without ["data", "metadata"] "data" t := by
  obtain ⟨r, hr, h⟩ := Option.bind_eq_some_iff.1 h
  obtain ⟨data, hdata, h⟩ := Option.bind_eq_some_iff.1 h
  obtain rfl := Option.some.inj h
  refine optional_bind_eq_none_iff hr hdata fun u version hversion ↦ ?_
  obtain ⟨r', hr', h⟩ := Option.bind_eq_some_iff.1 hversion
  obtain ⟨fields, hfields, h⟩ := Option.bind_eq_some_iff.1 h
  obtain ⟨metadata, -, h⟩ := Option.bind_eq_some_iff.1 h
  obtain rfl := Option.some.inj h
  exact ⟨r', hr', by rw [← Record.optional_eq_some_none_iff, hfields, Option.some.injEq]⟩

theorem Written.version_eq_none_iff {written : Written} (h : Written.ofTree? t = some written) :
    written.data.bind (·.version) = none ↔
      Without ["created_time", "deletion_time", "destroyed", "version"] "version" t := by
  obtain ⟨r, hr, h⟩ := Option.bind_eq_some_iff.1 h
  obtain ⟨data, hdata, h⟩ := Option.bind_eq_some_iff.1 h
  obtain rfl := Option.some.inj h
  refine optional_bind_eq_none_iff hr hdata fun u metadata hmetadata ↦ ?_
  obtain ⟨r', hr', h⟩ := Option.bind_eq_some_iff.1 hmetadata
  obtain ⟨_, -, h⟩ := Option.bind_eq_some_iff.1 h
  obtain ⟨_, -, h⟩ := Option.bind_eq_some_iff.1 h
  obtain ⟨_, -, h⟩ := Option.bind_eq_some_iff.1 h
  obtain ⟨version, hversion, h⟩ := Option.bind_eq_some_iff.1 h
  obtain rfl := Option.some.inj h
  exact ⟨r', hr', by rw [← Record.optional_eq_some_none_iff, hversion, Option.some.injEq]⟩

/-- Either result of encrypting or decrypting is missing where its field is. -/
theorem Transit.eq_none_iff {transit : Transit} (h : Transit.ofTree? t = some transit) :
    (transit.ciphertext = none ↔ Without ["ciphertext", "plaintext"] "ciphertext" t) ∧
      (transit.plaintext = none ↔ Without ["ciphertext", "plaintext"] "plaintext" t) := by
  have hblock : ∀ u b, Transit.ofBlock? u = some b →
      ∃ r', Record.ofTree? ["ciphertext", "plaintext"] u = some r' ∧
        (b.ciphertext = none ↔ r'.Lacks "ciphertext") ∧
        (b.plaintext = none ↔ r'.Lacks "plaintext") := by
    intro u b hb
    obtain ⟨r', hr', h⟩ := Option.bind_eq_some_iff.1 hb
    obtain ⟨ciphertext, hciphertext, h⟩ := Option.bind_eq_some_iff.1 h
    obtain ⟨plaintext, hplaintext, h⟩ := Option.bind_eq_some_iff.1 h
    obtain rfl := Option.some.inj h
    refine ⟨r', hr', ?_, ?_⟩
    · rw [← Record.optional_eq_some_none_iff, hciphertext, Option.some.injEq]
    · rw [← Record.optional_eq_some_none_iff, hplaintext, Option.some.injEq]
  obtain ⟨r, hr, hdata⟩ := Option.bind_eq_some_iff.1 h
  constructor
  · refine required_eq_none_iff hr hdata fun u b hb ↦ ?_
    obtain ⟨r', hr', hciphertext, -⟩ := hblock u b hb
    exact ⟨r', hr', hciphertext⟩
  · refine required_eq_none_iff hr hdata fun u b hb ↦ ?_
    obtain ⟨r', hr', -, hplaintext⟩ := hblock u b hb
    exact ⟨r', hr', hplaintext⟩

end Reply

/-! ### Calls -/

namespace Backend.Call

/-- The kind of the reply to a call. -/
abbrev kind : Backend.Call → Reply.Kind
  | .read _ _ _ => .document
  | .write _ _ _ => .written
  | .encrypt _ _ _ => .transit
  | .decrypt _ _ _ => .transit
  | .readCredentials _ => .database

/-- What the reply to a call is read as. -/
abbrev Reply (call : Backend.Call) : Type := call.kind.Content

/-- What a call yields for a reply, or for none. -/
inductive Gives : (call : Backend.Call) → Option call.Reply → call.Answer → Prop
  | fields {engine name version fields metadata} :
      Gives (.read engine name version) (some ⟨some ⟨some fields, metadata⟩⟩) (some fields)
  | noFields {engine name version metadata} :
      Gives (.read engine name version) (some ⟨some ⟨none, metadata⟩⟩) none
  | noData {engine name version} : Gives (.read engine name version) (some ⟨none⟩) none
  | noDocument {engine name version} : Gives (.read engine name version) none none
  | version {engine name fields version} {metadata : VaultAccess.Reply.Metadata}
      (h : metadata.version = some version) :
      Gives (.write engine name fields) (some ⟨some metadata⟩) (some version)
  | noVersion {engine name fields} {metadata : VaultAccess.Reply.Metadata}
      (h : metadata.version = none) :
      Gives (.write engine name fields) (some ⟨some metadata⟩) none
  | noMetadata {engine name fields} : Gives (.write engine name fields) (some ⟨none⟩) none
  | unacknowledged {engine name fields} : Gives (.write engine name fields) none none
  | ciphertext {engine key plaintext ciphertext rest} :
      Gives (.encrypt engine key plaintext) (some ⟨some ciphertext, rest⟩) ciphertext
  | plaintext {engine key ciphertext rest text} {value : String}
      (h : Base64.Spells text (Utf8.encode value)) :
      Gives (.decrypt engine key ciphertext) (some ⟨rest, some text⟩) value
  | credentials {path : String} {reply : Option VaultAccess.Reply.Database} :
      Gives (.readCredentials path) reply reply

/-- How a call fails for a reply, or for none. -/
inductive Misses : (call : Backend.Call) → Option call.Reply → Failure → Prop
  | noCiphertext {engine key plaintext rest} :
      Misses (.encrypt engine key plaintext) (some ⟨none, rest⟩)
        (.unexpectedResponse .noCiphertext)
  | notEncrypted {engine key plaintext} :
      Misses (.encrypt engine key plaintext) none (.unexpectedResponse .noCiphertext)
  | noPlaintext {engine key ciphertext rest} :
      Misses (.decrypt engine key ciphertext) (some ⟨rest, none⟩)
        (.unexpectedResponse .noPlaintext)
  | notDecrypted {engine key ciphertext} :
      Misses (.decrypt engine key ciphertext) none (.unexpectedResponse .noPlaintext)
  /-- The plaintext is no text in base 64. -/
  | garbled {engine key ciphertext rest text cause}
      (h : ∀ value, ¬ Base64.Spells text (Utf8.encode value))
      (hcause : Client.decoded text = .error (.unexpectedResponse cause)) :
      Misses (.decrypt engine key ciphertext) (some ⟨rest, some text⟩)
        (.unexpectedResponse cause)

/-- What is made of the reply to a call. -/
def finish : (call : Backend.Call) → Option call.Reply → Except Failure call.Answer
  | .read _ _ _, reply => .ok ((reply.bind (·.data)).bind (·.fields))
  | .write _ _ _, reply => .ok ((reply.bind (·.data)).bind (·.version))
  | .encrypt _ _ _, reply =>
    (reply.bind (·.ciphertext)).elim (.error (.unexpectedResponse .noCiphertext)) .ok
  | .decrypt _ _ _, reply => Client.decrypted reply
  | .readCredentials _, reply => .ok reply

/-- Every reply is one that a call yields something for or fails for. -/
theorem finish_cases (call : Backend.Call) (reply : Option call.Reply) :
    match call.finish reply with
    | .ok answer => call.Gives reply answer
    | .error f => call.Misses reply f := by
  match call, reply with
  | .read _ _ _, none => exact .noDocument
  | .read _ _ _, some ⟨none⟩ => exact .noData
  | .read _ _ _, some ⟨some ⟨none, _⟩⟩ => exact .noFields
  | .read _ _ _, some ⟨some ⟨some _, _⟩⟩ => exact .fields
  | .write _ _ _, none => exact .unacknowledged
  | .write _ _ _, some ⟨none⟩ => exact .noMetadata
  | .write _ _ _, some ⟨some ⟨_, _, _, none⟩⟩ => exact .noVersion rfl
  | .write _ _ _, some ⟨some ⟨_, _, _, some _⟩⟩ => exact .version rfl
  | .encrypt _ _ _, none => exact .notEncrypted
  | .encrypt _ _ _, some ⟨none, _⟩ => exact .noCiphertext
  | .encrypt _ _ _, some ⟨some _, _⟩ => exact .ciphertext
  | .decrypt _ _ _, none => exact .notDecrypted
  | .decrypt _ _ _, some ⟨_, none⟩ => exact .noPlaintext
  | .decrypt engine key ciphertext, some ⟨rest, some encoded⟩ =>
    have hfinish : (decrypt engine key ciphertext).finish (some ⟨rest, some encoded⟩) =
        Client.decoded encoded := rfl
    rw [hfinish]
    by_cases hspells : ∃ value, Base64.Spells encoded (Utf8.encode value)
    · obtain ⟨value, hvalue⟩ := hspells
      rw [Client.decoded_eq_ok_iff.2 hvalue]
      exact .plaintext hvalue
    · have hnone := not_exists.1 hspells
      obtain ⟨cause, hcause⟩ := Client.exists_decoded_eq_error hnone
      rw [hcause]
      exact .garbled hnone hcause
  | .readCredentials _, _ => exact .credentials

theorem finish_eq_ok_iff {call : Backend.Call} {reply : Option call.Reply} {answer : call.Answer} :
    call.finish reply = .ok answer ↔ call.Gives reply answer := by
  constructor
  · intro h
    have hcases := finish_cases call reply
    rw [h] at hcases
    exact hcases
  · rintro (_ | _ | _ | _ | h | h | _ | _ | _ | h | _)
    case plaintext => exact Client.decoded_eq_ok_iff.2 h
    case version | noVersion => exact congrArg Except.ok h
    all_goals rfl

theorem finish_eq_error_iff {call : Backend.Call} {reply : Option call.Reply} {f : Failure} :
    call.finish reply = .error f ↔ call.Misses reply f := by
  constructor
  · intro h
    have hcases := finish_cases call reply
    rw [h] at hcases
    exact hcases
  · rintro (_ | _ | _ | _ | ⟨-, hcause⟩)
    case garbled => exact hcause
    all_goals rfl

/-- What a call takes from the data of its reply, and what it comes to without that. -/
inductive Wants : (call : Backend.Call) → (fields : List String) → (field : String) →
    Except Failure call.Answer → Prop
  | fields {engine name version} :
      Wants (.read engine name version) ["data", "metadata"] "data" (.ok none)
  | version {engine name fields} :
      Wants (.write engine name fields) ["created_time", "deletion_time", "destroyed", "version"]
        "version" (.ok none)
  | ciphertext {engine key plaintext} :
      Wants (.encrypt engine key plaintext) ["ciphertext", "plaintext"] "ciphertext"
        (.error (.unexpectedResponse .noCiphertext))
  | plaintext {engine key ciphertext} :
      Wants (.decrypt engine key ciphertext) ["ciphertext", "plaintext"] "plaintext"
        (.error (.unexpectedResponse .noPlaintext))

variable {call : Backend.Call} {fields : List String} {field : String}
  {outcome : Except Failure call.Answer}

theorem Wants.finish_none (h : call.Wants fields field outcome) : call.finish none = outcome := by
  cases h <;> rfl

/-- A reply leads there exactly if the field is missing from it. -/
theorem Wants.finish_some_iff {t : Tree} {reply : call.Reply}
    (h : call.Wants fields field outcome) (hreply : call.kind.ofTree? t = some reply) :
    call.finish (some reply) = outcome ↔ VaultAccess.Reply.Without fields field t := by
  cases h with
  | fields =>
    rw [← Reply.Document.fields_eq_none_iff hreply]
    exact ⟨Except.ok.inj, congrArg Except.ok⟩
  | version =>
    rw [← Reply.Written.version_eq_none_iff hreply]
    exact ⟨Except.ok.inj, congrArg Except.ok⟩
  | ciphertext =>
    rw [← (Reply.Transit.eq_none_iff hreply).1]
    obtain ⟨ciphertext | _, _⟩ := reply
    · exact ⟨fun _ ↦ rfl, fun _ ↦ rfl⟩
    · exact ⟨nofun, nofun⟩
  | plaintext =>
    rw [← (Reply.Transit.eq_none_iff hreply).2]
    obtain ⟨_, _ | text⟩ := reply
    · exact ⟨fun _ ↦ rfl, fun _ ↦ rfl⟩
    · exact ⟨fun h ↦ absurd h Client.decoded_ne_noPlaintext, nofun⟩

/-- No refusal does. -/
theorem Wants.ne_of_refuses {path : String} {reader : VaultAccess.Reply.Reader call.Reply}
    {status : Http.Status} {bytes : List UInt8} {f : Failure}
    (h : call.Wants fields field outcome) (hrefuses : Refuses path reader status bytes f) :
    .error f ≠ outcome := by
  cases h <;> cases hrefuses <;> nofun

end Backend.Call

namespace Client

variable {c : Client} {net : Network ν} {call : Backend.Call}

theorem encrypt_perform_fst {net : Network ν} {s : Scene (Link ν)}
    {engine key plaintext : String} :
    ((c.encrypt net engine key plaintext).perform s).1 =
      ((c.request net (net.reader .transit) .post (engine ++ "/encrypt/" ++ key)
        (some (.object [("plaintext", .text (encoded plaintext))]))).perform s).1.bind
          (Backend.Call.encrypt engine key plaintext).finish := by
  rw [encrypt, Action.perform_bind]
  rcases (c.request net _ _ _ _).perform s with ⟨f | reply, t⟩
  · rfl
  · show ((Action.orFail _ (reply.bind (·.ciphertext))).perform t).1 =
      (reply.bind (·.ciphertext)).elim _ _
    cases reply.bind (·.ciphertext) <;> rfl

/-- What a call yields is made of the reply to its request. -/
theorem make_perform_fst {net : Network ν} {s : Scene (Link ν)} (call : Backend.Call) :
    (((c.backend net).make call).perform s).1 =
      ((c.request net (net.reader call.kind) (methodOf call) (pathOf call)
        (bodyOf call)).perform s).1.bind call.finish := by
  cases call with
  | read engine name version => exact congrArg Prod.fst Action.perform_bind_pure
  | write engine name fields => exact congrArg Prod.fst Action.perform_bind_pure
  | encrypt engine key plaintext => exact encrypt_perform_fst
  | decrypt engine key ciphertext => exact decrypt_perform_fst
  | readCredentials path =>
    have hok : ∀ r : Except Failure (Option Reply.Database), r.bind .ok = r := by
      rintro (_ | _) <;> rfl
    exact (hok _).symm

/-- The response to the request of a call came in full. -/
def Hears (c : Client) (net : Network ν) (call : Backend.Call) (s : Scene (Link (Recorded ν)))
    (status : Http.Status) (bytes : List UInt8) : Prop :=
  ∃ x, c.Asks net call s x ∧ x.response = some ⟨status, .whole bytes⟩

variable {s : Scene (Link (Recorded ν))}

/-- A call whose response came in full is what is made of that. -/
theorem Hears.make_perform_fst (h : c.Hears net call s status bytes) :
    (((c.backend net.recorded).make call).perform s).1 =
      (classify (pathOf call) (net.reader call.kind) ⟨status, .whole bytes⟩).bind call.finish := by
  obtain ⟨x, hasks, hresponse⟩ := h
  obtain ⟨token, t, htoken, hprepare, hx⟩ := asks_iff.1 hasks
  have hprepare : c.endpoint.prepare (methodOf call) (pathOf call) (some token.value)
      (bodyOf call) = .ok x.request := hprepare
  rw [Client.make_perform_fst, request_perform_fst htoken, hprepare]
  dsimp only
  rw [← hx, hresponse]
  rfl

theorem Hears.eq_ok_iff (h : c.Hears net call s status bytes) {answer : call.Answer} :
    (((c.backend net.recorded).make call).perform s).1 = .ok answer ↔
      ∃ reply, Brings (net.reader call.kind).read? status bytes reply ∧
        call.Gives reply answer := by
  simp only [h.make_perform_fst, ← classify_eq_ok_iff (pathOf call),
    ← Backend.Call.finish_eq_ok_iff]
  cases classify (pathOf call) (net.reader call.kind) ⟨status, .whole bytes⟩ with
  | error f => simp [Except.bind]
  | ok reply => simp [Except.bind]

theorem Hears.eq_error_iff (h : c.Hears net call s status bytes) :
    (((c.backend net.recorded).make call).perform s).1 = .error f ↔
      Refuses (pathOf call) (net.reader call.kind) status bytes f ∨
        ∃ reply, Brings (net.reader call.kind).read? status bytes reply ∧ call.Misses reply f := by
  simp only [h.make_perform_fst, ← classify_eq_ok_iff (pathOf call),
    ← classify_eq_error_iff, ← Backend.Call.finish_eq_error_iff]
  cases classify (pathOf call) (net.reader call.kind) ⟨status, .whole bytes⟩ with
  | error f => simp [Except.bind]
  | ok reply => simp [Except.bind]

/-- A call comes to what it comes to without a field if nothing is brought or the field is not among
the data. -/
theorem Hears.eq_wants_iff {fields : List String} {field : String}
    {outcome : Except Failure call.Answer} (h : c.Hears net call s status bytes)
    (hwants : call.Wants fields field outcome) :
    (((c.backend net.recorded).make call).perform s).1 = outcome ↔
      Brings (net.reader call.kind).read? status bytes none ∨
        ∃ t reply, status.MayBring ∧ Tree.read? bytes = some t ∧
          call.kind.ofTree? t = some reply ∧ Reply.Without fields field t := by
  rw [h.make_perform_fst]
  have hsorted := classify_sorted (pathOf call) (net.reader call.kind) status bytes
  have hbrings : ∀ reply, Brings (net.reader call.kind).read? status bytes reply →
      classify (pathOf call) (net.reader call.kind) ⟨status, .whole bytes⟩ = .ok reply :=
    fun _ ↦ (classify_eq_ok_iff _).2
  cases hclassify : classify (pathOf call) (net.reader call.kind) ⟨status, .whole bytes⟩ with
  | error f =>
    rw [hclassify] at hsorted hbrings
    refine iff_of_false (hwants.ne_of_refuses hsorted) ?_
    rintro (hnone | ⟨t, reply, hstatus, ht, hreply, -⟩)
    · cases hbrings _ hnone
    · cases hbrings _ (.of_tree hstatus ht hreply)
  | ok reply =>
    rw [hclassify] at hsorted hbrings
    show call.finish reply = outcome ↔ _
    cases reply with
    | none => exact iff_of_true hwants.finish_none (.inl hsorted)
    | some reply =>
      obtain _ | _ | ⟨hstatus, -, hread⟩ := hsorted
      obtain ⟨t, ht, hreply⟩ := Option.bind_eq_some_iff.1 hread
      rw [hwants.finish_some_iff hreply]
      constructor
      · exact fun hwithout ↦ .inr ⟨t, reply, hstatus, ht, hreply, hwithout⟩
      · rintro (hnone | ⟨t', _, -, ht', -, hwithout⟩)
        · cases hbrings _ hnone
        · rwa [Option.some.inj (ht.symm.trans ht')]

/-- A response to a request that came in full brings a reply or nothing, or it is a refusal, as its
status and its body say, and a refusal may be tried again exactly if there were too many requests or
the server is to blame. A call yields what is in the reply, and fails if that has to be there and is
missing. What it comes to where something is missing, it comes to exactly if nothing is brought or
the data in what is brought, or the field in them, are not written or null. -/
theorem answers_exact (c : Client) (net : Network ν) :
    (∀ (α : Type) (e : Endpoint) (reader : Reply.Reader α) (method : Http.Method)
        (path : String) (token : Option Secret) (body : Option Json) (s : Scene ν)
        (status : Http.Status) (bytes : List UInt8),
      ((e.send net method path token body).perform s).1 = .ok ⟨status, .whole bytes⟩ →
        (∀ value, ((e.request net reader method path token body).perform s).1 = .ok value ↔
          Brings reader.read? status bytes value) ∧
        (∀ f, ((e.request net reader method path token body).perform s).1 = .error f ↔
          Refuses path reader status bytes f) ∧
        ∀ f, Refuses path reader status bytes f →
          (f.isRetryable = true ↔ status = 429 ∨ status.Blames)) ∧
    (∀ (call : Backend.Call) (s : Scene (Link (Recorded ν))) (status : Http.Status)
        (bytes : List UInt8), c.Hears net call s status bytes →
      (∀ answer, (((c.backend net.recorded).make call).perform s).1 = .ok answer ↔
        ∃ reply, Brings (net.reader call.kind).read? status bytes reply ∧
          call.Gives reply answer) ∧
      (∀ f, (((c.backend net.recorded).make call).perform s).1 = .error f ↔
        Refuses (pathOf call) (net.reader call.kind) status bytes f ∨
          ∃ reply, Brings (net.reader call.kind).read? status bytes reply ∧
            call.Misses reply f) ∧
      ∀ f, (((c.backend net.recorded).make call).perform s).1 = .error f →
        (f.isRetryable = true ↔ status = 429 ∨ status.Blames)) ∧
    ∀ (call : Backend.Call) (fields : List String) (field : String)
        (outcome : Except Failure call.Answer) (s : Scene (Link (Recorded ν)))
        (status : Http.Status) (bytes : List UInt8),
      call.Wants fields field outcome → c.Hears net call s status bytes →
        ((((c.backend net.recorded).make call).perform s).1 = outcome ↔
          Brings (net.reader call.kind).read? status bytes none ∨
            ∃ t reply, status.MayBring ∧ Tree.read? bytes = some t ∧
              call.kind.ofTree? t = some reply ∧ Reply.Without fields field t) := by
  refine ⟨fun α e reader method path token body s status bytes h ↦ Endpoint.request_sorted h,
    fun call s status bytes h ↦ ⟨fun answer ↦ h.eq_ok_iff, fun f ↦ h.eq_error_iff, fun f hf ↦ ?_⟩,
    fun call fields field outcome s status bytes hwants h ↦ h.eq_wants_iff hwants⟩
  obtain hrefuses | ⟨reply, hbrings, hmisses⟩ := h.eq_error_iff.1 hf
  · exact hrefuses.isRetryable_iff
  · have hnever : f.isRetryable = false := by cases hmisses <;> rfl
    simp [hnever, hbrings.not_again]

/-- A network that answers every request alike. -/
def replying (status : Http.Status) (text : String) : Network Unit where
  exchange _ s := (some ⟨status, .whole (Utf8.encode text)⟩, s)
  now _ := ⟨0⟩
  explain _ _ := "expected value at line 1 column 1"

theorem hears_replying {call : Backend.Call} {status : Http.Status} {text : String}
    (h : ∃ q, tokenClient.prepare call ⟨⟨"s.static"⟩, ⟨0⟩, none⟩ = .ok q) :
    tokenClient.Hears (replying status text) call untouched status (Utf8.encode text) :=
  have ⟨q, hq⟩ := h
  ⟨⟨q, _⟩, asks_iff.2 ⟨_, _, rfl, hq, rfl⟩, rfl⟩

set_option maxRecDepth 8000 in
/-- Null in the place of a document is no document, a result without a ciphertext is a failure, what
is no document fails in the words of the reader, and what a sealed server says may be tried again. -/
theorem answers_exact_of_null_data :
    ((tokenClient.read (replying 200 "\x7b\"data\":\x7b\"data\":null\x7d\x7d").recorded "kv" "doc"
      none).perform untouched).1 = .ok none ∧
    ((tokenClient.encrypt (replying 200 "\x7b\"data\":\x7b\x7d\x7d").recorded "transit" "app"
      "hi").perform untouched).1 = .error (.unexpectedResponse .noCiphertext) ∧
    ((tokenClient.read (replying 200 "sealed").recorded "kv" "doc" none).perform untouched).1 =
      .error (.undecodable ⟨"expected value at line 1 column 1", []⟩) ∧
    ∃ f, ((tokenClient.endpoint.request (replying 503 "sealed")
      ((replying 503 "sealed").reader .acknowledgement) .get "kv/data/doc" none none).perform
        ⟨(), []⟩).1 = .error f ∧ f.isRetryable = true := by
  have hread : ∀ text, tokenClient.Hears (replying 200 text) (.read "kv" "doc" none) untouched 200
      (Utf8.encode text) := fun _ ↦ hears_replying ⟨_, rfl⟩
  have hencrypt : tokenClient.Hears (replying 200 "\x7b\"data\":\x7b\x7d\x7d")
      (.encrypt "transit" "app" "hi") untouched 200 (Utf8.encode "\x7b\"data\":\x7b\x7d\x7d") :=
    hears_replying ⟨_, rfl⟩
  have hdocument : Tree.read? (Utf8.encode "\x7b\"data\":\x7b\"data\":null\x7d\x7d") =
      some (.object [(Utf8.encode "data", .object [(Utf8.encode "data", .null)])]) := rfl
  have hresult : Tree.read? (Utf8.encode "\x7b\"data\":\x7b\x7d\x7d") =
      some (.object [(Utf8.encode "data", .object [])]) := rfl
  have hsealed : ((tokenClient.endpoint.send (replying 503 "sealed") .get "kv/data/doc" none
      none).perform ⟨(), []⟩).1 = .ok ⟨503, .whole (Utf8.encode "sealed")⟩ := rfl
  refine ⟨?_, ?_, ?_, ?_⟩
  · obtain ⟨-, -, hmissing⟩ := answers_exact tokenClient
      (replying 200 "\x7b\"data\":\x7b\"data\":null\x7d\x7d")
    have hwithout : Reply.Without ["data", "metadata"] "data"
        (.object [(Utf8.encode "data", .object [(Utf8.encode "data", .null)])]) :=
      .inner rfl rfl rfl fun _ ht ↦ (Option.some.inj ht).symm
    exact (hmissing _ _ _ _ _ _ _ .fields (hread _)).2
      (.inr ⟨_, _, by decide, hdocument, rfl, hwithout⟩)
  · obtain ⟨-, -, hmissing⟩ := answers_exact tokenClient
      (replying 200 "\x7b\"data\":\x7b\x7d\x7d")
    have hwithout : Reply.Without ["ciphertext", "plaintext"] "ciphertext"
        (.object [(Utf8.encode "data", .object [])]) :=
      .inner rfl rfl rfl fun _ ht ↦ nomatch ht
    exact (hmissing _ _ _ _ _ _ _ .ciphertext hencrypt).2
      (.inr ⟨_, _, by decide, hresult, rfl, hwithout⟩)
  · obtain ⟨-, hcalls, -⟩ := answers_exact tokenClient (replying 200 "sealed")
    obtain ⟨-, hfails, -⟩ := hcalls _ _ _ _ (hread _)
    exact (hfails _).2 (.inl (.undecodable (by decide) (by decide) rfl))
  · obtain ⟨hrequest, -⟩ := answers_exact tokenClient (replying 503 "sealed")
    obtain ⟨-, hrefuses, hagain⟩ := hrequest _ _ ((replying 503 "sealed").reader .acknowledgement)
      _ _ _ _ _ _ _ hsealed
    have hblames : Refuses "kv/data/doc" ((replying 503 "sealed").reader .acknowledgement) 503
        (Utf8.encode "sealed")
        (.unavailable (.status 503 (Utf8.decodeLossy (Utf8.encode "sealed")))) :=
      .unavailable (by decide)
    exact ⟨_, (hrefuses _).2 hblames, (hagain _ hblames).2 (.inr (by decide))⟩

end Client

end VaultAccess
