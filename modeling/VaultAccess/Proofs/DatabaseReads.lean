import VaultAccess.DatabaseSource
import VaultAccess.Failure
import VaultAccess.Proofs.Answers

/-!
# Reading database credentials

Credentials are read with one call, and what the call yields settles what comes of it (`Reading`).
A failure of the call is not passed on as it is: it is put below a failure that says what was
attempted, and it may have been put below others before. Two laws survive any number of such layers
(`Failure.StemsFrom`): each adds its message in front and nothing else, and the innermost failure
alone decides whether to try again.

For a client the call is a request, and `Client.Comes` lists what can come of that: there is no
token, no request or no response, the response breaks off, or it is sorted.
-/

namespace VaultAccess

open Http

/-! ### Failures below failures -/

namespace Failure

/-- A failure was put below others, whose messages these are, outermost first. -/
inductive StemsFrom : Failure → List String → Failure → Prop
  | refl {root : Failure} : StemsFrom root [] root
  | after {cause : CredentialsFault} {source root : Failure} {above : List String}
      (h : StemsFrom source above root) :
      StemsFrom (.credentialsAfter cause source) (cause.message :: above) root

variable {f root : Failure} {above : List String}

/-- Each layer adds its message in front. -/
theorem StemsFrom.messages_eq (h : f.StemsFrom above root) :
    f.chain.messages = above ++ root.chain.messages := by
  induction h with
  | refl => rfl
  | @after cause _ _ _ _ ih => exact congrArg (cause.message :: ·) ih

/-- No layer changes whether to try again. -/
theorem StemsFrom.isRetryable_eq (h : f.StemsFrom above root) :
    f.isRetryable = root.isRetryable := by
  induction h with
  | refl => rfl
  | after _ ih => exact ih

/-- A failure that shows an error of a library behind some text, and has the error below it. -/
inductive Carries : Failure → String → Chain → Prop
  | undecodable {error : Chain} : Carries (.undecodable error) "Serialization error: " error
  | interrupted {error : Http.Error} : Carries (.interrupted error) "HTTP error: " error.toChain
  | client {error : Http.Error} :
      Carries (.platform (.client error)) "HTTP request failed: " error.toChain
  | material {path : String} {error : Chain} :
      Carries (.platform (.material path error))
        ("Unable to read TLS material from " ++ path ++ ": ") error

/-- What an error of a library says is shown twice, and nothing that is below it is left out. -/
theorem Carries.messages_eq {text : String} {error : Chain} (h : f.Carries text error) :
    f.chain.messages = (text ++ error.message) :: error.messages := by
  cases h <;> rfl

/-- Any other failure that is not put above one has nothing below it. -/
theorem causes_eq_nil (hcarries : ∀ text error, ¬ f.Carries text error)
    (hroot : ∀ cause source, f ≠ .credentialsAfter cause source) : f.causes = [] := by
  cases f with
  | undecodable error => exact absurd .undecodable (hcarries _ _)
  | interrupted error => exact absurd .interrupted (hcarries _ _)
  | credentialsAfter cause source => exact absurd rfl (hroot _ _)
  | platform failure =>
    cases failure with
    | client error => exact absurd .client (hcarries _ _)
    | material path error => exact absurd .material (hcarries _ _)
    | _ => rfl
  | _ => rfl

/-- Below all layers there is a failure without one. -/
theorem exists_stemsFrom (f : Failure) : ∃ above root, f.StemsFrom above root ∧
    ∀ cause source, root ≠ .credentialsAfter cause source := by
  induction f with
  | credentialsAfter cause source ih =>
    obtain ⟨above, root, hstems, hroot⟩ := ih
    exact ⟨_, root, hstems.after, hroot⟩
  | _ => exact ⟨[], _, .refl, nofun⟩

end Failure

/-! ### Summaries -/

namespace Chain

/-- Messages on one line. -/
inductive Joins : List String → String → Prop
  | nil : Joins [] ""
  | single {message : String} : Joins [message] message
  | cons {message next line : String} {rest : List String} (h : Joins (next :: rest) line) :
      Joins (message :: next :: rest) (message ++ ". " ++ line)

/-- A line sums up messages: it has all of them, or the first five with dots after them. -/
inductive SumsUp : List String → String → Prop
  | all {messages : List String} {line : String} (hlength : messages.length ≤ 5)
      (hjoins : Joins messages line) : SumsUp messages line
  | first {shown rest : List String} {line : String} (hlength : shown.length = 5)
      (hrest : rest ≠ []) (hjoins : Joins shown line) : SumsUp (shown ++ rest) (line ++ "...")

theorem joins_intercalate : ∀ messages, Joins messages (". ".intercalate messages)
  | [] => by rw [String.intercalate_nil]; exact .nil
  | [_] => by rw [String.intercalate_singleton]; exact .single
  | _ :: next :: rest => by
    rw [String.intercalate_cons_cons]
    exact .cons (joins_intercalate (next :: rest))

/-- A summary sums up all messages of an error. -/
theorem sumsUp_summary (c : Chain) : SumsUp c.messages c.summary := by
  rw [summary]
  by_cases h : c.messages.length > summaryLimit
  · have hlength : (c.messages.take summaryLimit).length = 5 :=
      List.length_take_of_le (Nat.le_of_lt h)
    have hrest : c.messages.drop summaryLimit ≠ [] := by
      rw [Ne, List.drop_eq_nil_iff]
      exact Nat.not_le_of_lt h
    rw [if_pos h]
    have hfirst := SumsUp.first hlength hrest (joins_intercalate _)
    rwa [List.take_append_drop] at hfirst
  · have hle : c.messages.length ≤ summaryLimit := Nat.le_of_not_lt h
    rw [if_neg h, List.take_of_length_le hle, String.append_empty]
    exact .all hle (joins_intercalate _)

end Chain

/-- A failure reports what was attempted, and the failure that it was put above, if there is one,
with all that is below that. -/
structure Failure.Reports (f : Failure) (text : String) (source : Option Failure) : Prop where
  message_eq : f.message = text
  causes_eq : f.causes = source.elim [] fun e ↦ e.message :: e.causes
  isRetryable_iff : f.isRetryable = true ↔ ∃ e ∈ source, e.isRetryable = true
  summary : Chain.SumsUp (text :: source.elim [] fun e ↦ e.message :: e.causes) f.chain.summary

theorem Failure.reports_unreadable (e : Failure) :
    (credentialsAfter .unreadable e).Reports
      "Unexpected error reading db credentials from hashicorp vault" (some e) where
  message_eq := rfl
  causes_eq := rfl
  isRetryable_iff := by simp [isRetryable]
  summary := Chain.sumsUp_summary (credentialsAfter .unreadable e).chain

theorem Failure.reports_emptyResponse :
    (credentials .emptyResponse).Reports
      "Empty response from Hashicorp vault while trying to retrieve database credentials."
      none where
  message_eq := rfl
  causes_eq := rfl
  isRetryable_iff := by simp [isRetryable]
  summary := Chain.sumsUp_summary (credentials .emptyResponse).chain

/-! ### The path of a role -/

/-- Where the credentials of a role are read: under the engine, by the type of credentials. Only one
type is dynamic. -/
inductive DatabaseConfig.ReadsAt (c : DatabaseConfig) : String → Prop
  | dynamic (h : c.credentialType = some "dynamic") :
      c.ReadsAt (c.engine.getD "database" ++ "/" ++ "creds" ++ "/" ++ c.role.getD "")
  | static (h : c.credentialType ≠ some "dynamic") :
      c.ReadsAt (c.engine.getD "database" ++ "/" ++ "static-creds" ++ "/" ++ c.role.getD "")

theorem DatabaseConfig.effectiveCredentialType_eq_dynamic_iff {c : DatabaseConfig} :
    c.effectiveCredentialType = "dynamic" ↔ c.credentialType = some "dynamic" := by
  rw [effectiveCredentialType]
  cases c.credentialType with
  | none => decide
  | some type =>
    by_cases hempty : type = ""
    · obtain rfl := hempty
      decide
    · simp [Option.filter, hempty]

theorem DatabaseConfig.readsAt_credentialPath (c : DatabaseConfig) :
    c.ReadsAt c.credentialPath := by
  rw [credentialPath, credentialSegment]
  by_cases h : c.credentialType = some "dynamic"
  · rw [if_pos (beq_iff_eq.2 (effectiveCredentialType_eq_dynamic_iff.2 h))]
    exact .dynamic h
  · rw [if_neg (mt (effectiveCredentialType_eq_dynamic_iff.1 ∘ beq_iff_eq.1) h)]
    exact .static h

/-! ### Reading -/

namespace DatabaseSource

open Backend

variable {σ : Type} {b : Backend σ} {s : Scene σ} {path : String}

/-- How long the credentials in a reply hold. -/
inductive Holds (r : Reply.Database) (user : Reply.User) : UInt64 → Prop
  | told {lease : UInt64} (h : user.ttl = some lease) : Holds r user lease
  | leased (h : user.ttl = none) : Holds r user r.leaseDuration

/-- How credentials are read: the calls that are made, and what comes of it. -/
inductive Reading (path : String) : List Answered → Except Failure Credentials → Prop
  /-- The call fails. -/
  | refused {e : Failure} :
      Reading path [⟨.readCredentials path, .error e⟩] (.error (.credentialsAfter .unreadable e))
  /-- The call brings no reply. -/
  | nothing :
      Reading path [⟨.readCredentials path, .ok none⟩] (.error (.credentials .emptyResponse))
  /-- The reply has no user. -/
  | noUser {r : Reply.Database} (h : r.data = none) :
      Reading path [⟨.readCredentials path, .ok (some r)⟩] (.error (.credentials .emptyResponse))
  | found {r : Reply.Database} {user : Reply.User} {lease : UInt64} (h : r.data = some user)
      (hlease : Holds r user lease) :
      Reading path [⟨.readCredentials path, .ok (some r)⟩]
        (.ok ⟨user.username, user.password, lease⟩)

theorem holds_getD {r : Reply.Database} {user : Reply.User} :
    Holds r user (user.ttl.getD r.leaseDuration) := by
  cases h : user.ttl with
  | none => exact .leased h
  | some _ => exact .told h

/-! ### Credentials in a body -/

section

open Json

/-- How long credentials hold that are told of in a record `user` within a record `r`: as long as the
inner one says, unless it says nothing, and then as long as the outer one says. -/
inductive Lasts (r user : Record) : UInt64 → Prop
  | told {t : Tree} {lease : UInt64} (h : user.get? "ttl" = some t)
      (ht : t.unsigned64? = some lease) : Lasts r user lease
  | leased {t : Tree} {lease : UInt64} (hlacks : user.Lacks "ttl")
      (h : r.get? "lease_duration" = some t) (ht : t.unsigned64? = some lease) :
      Lasts r user lease
  | untold (hlacks : user.Lacks "ttl") (h : r.get? "lease_duration" = none) : Lasts r user 0

/-- What a body tells of credentials: nothing if its data are not written or null, and else what is
written for the name, the password and the lease. -/
inductive Tells (t : Tree) : Option Credentials → Prop
  | nothing {r : Record}
      (hr : Record.ofTree? ["data", "lease_id", "lease_duration", "renewable"] t = some r)
      (hdata : r.Lacks "data") : Tells t none
  | user {r user : Record} {data name secret : Tree} {username password : String} {lease : UInt64}
      (hr : Record.ofTree? ["data", "lease_id", "lease_duration", "renewable"] t = some r)
      (hdata : r.get? "data" = some data)
      (huser : Record.ofTree? ["username", "password", "ttl"] data = some user)
      (hname : user.get? "username" = some name) (husername : name.text? = some username)
      (hsecret : user.get? "password" = some secret) (hpassword : secret.text? = some password)
      (hlease : Lasts r user lease) : Tells t (some ⟨username, ⟨password⟩, lease⟩)

theorem Lasts.unique {r user : Record} {lease lease' : UInt64} (h : Lasts r user lease)
    (h' : Lasts r user lease') : lease = lease' := by
  -- a lease that is told is no null
  have hnull : ∀ {t : Tree} {n : UInt64}, user.Lacks "ttl" → user.get? "ttl" = some t →
      t.unsigned64? ≠ some n := fun hlacks ht hn ↦ by
    rw [hlacks _ ht] at hn
    cases hn
  cases h with
  | told h ht =>
    cases h' with
    | told h' ht' =>
      rw [Option.some.inj (h.symm.trans h')] at ht
      exact Option.some.inj (ht.symm.trans ht')
    | leased hlacks => exact absurd ht (hnull hlacks h)
    | untold hlacks => exact absurd ht (hnull hlacks h)
  | leased hlacks h ht =>
    cases h' with
    | told h' ht' => exact absurd ht' (hnull hlacks h')
    | leased _ h' ht' =>
      rw [Option.some.inj (h.symm.trans h')] at ht
      exact Option.some.inj (ht.symm.trans ht')
    | untold _ h' => cases h.symm.trans h'
  | untold hlacks h =>
    cases h' with
    | told h' ht' => exact absurd ht' (hnull hlacks h')
    | leased _ h' => cases h.symm.trans h'
    | untold => rfl

/-- A body tells one thing at most. -/
theorem Tells.unique {t : Tree} {told told' : Option Credentials} (h : Tells t told)
    (h' : Tells t told') : told = told' := by
  have hnull : ∀ {r user : Record} {data : Tree}, r.Lacks "data" → r.get? "data" = some data →
      Record.ofTree? ["username", "password", "ttl"] data ≠ some user := fun hlacks hdata huser ↦ by
    rw [hlacks _ hdata] at huser
    cases huser
  cases h with
  | nothing hr hdata =>
    cases h' with
    | nothing => rfl
    | user hr' hdata' huser' =>
      obtain rfl := Option.some.inj (hr.symm.trans hr')
      exact absurd huser' (hnull hdata hdata')
  | user hr hdata huser hname husername hsecret hpassword hlease =>
    cases h' with
    | nothing hr' hdata' =>
      obtain rfl := Option.some.inj (hr.symm.trans hr')
      exact absurd huser (hnull hdata' hdata)
    | user hr' hdata' huser' hname' husername' hsecret' hpassword' hlease' =>
      obtain rfl := Option.some.inj (hr.symm.trans hr')
      obtain rfl := Option.some.inj (hdata.symm.trans hdata')
      obtain rfl := Option.some.inj (huser.symm.trans huser')
      obtain rfl := Option.some.inj (hname.symm.trans hname')
      obtain rfl := Option.some.inj (hsecret.symm.trans hsecret')
      obtain rfl := Option.some.inj (husername.symm.trans husername')
      obtain rfl := Option.some.inj (hpassword.symm.trans hpassword')
      rw [hlease.unique hlease']

theorem lasts_of_read {r user : Record} {ttl : Option UInt64} {lease : UInt64}
    (httl : user.optional "ttl" Tree.unsigned64? = some ttl)
    (hlease : r.defaulted "lease_duration" 0 Tree.unsigned64? = some lease) :
    Lasts r user (ttl.getD lease) := by
  cases ttl with
  | some told =>
    obtain ⟨t, ht, -, htold⟩ := Record.optional_eq_some_some_iff.1 httl
    exact .told ht htold
  | none =>
    have hlacks := Record.optional_eq_some_none_iff.1 httl
    rw [Record.defaulted] at hlease
    cases h : r.get? "lease_duration" with
    | none =>
      rw [h] at hlease
      obtain rfl := Option.some.inj hlease
      exact .untold hlacks h
    | some t =>
      rw [h] at hlease
      exact .leased hlacks h hlease

/-- Credentials are what the body tells. -/
theorem exists_tells {t : Tree} {reply : Reply.Database}
    (h : Reply.Database.ofTree? t = some reply) : ∃ told, Tells t told ∧
      credentialsOf (some reply) = told.elim (.error (.credentials .emptyResponse)) .ok := by
  obtain ⟨r, hr, h⟩ := Option.bind_eq_some_iff.1 h
  obtain ⟨data, hdata, h⟩ := Option.bind_eq_some_iff.1 h
  obtain ⟨_, -, h⟩ := Option.bind_eq_some_iff.1 h
  obtain ⟨lease, hlease, h⟩ := Option.bind_eq_some_iff.1 h
  obtain ⟨_, -, h⟩ := Option.bind_eq_some_iff.1 h
  obtain rfl := Option.some.inj h
  cases data with
  | none => exact ⟨none, .nothing hr (Record.optional_eq_some_none_iff.1 hdata), rfl⟩
  | some person =>
    obtain ⟨u, hu, -, hperson⟩ := Record.optional_eq_some_some_iff.1 hdata
    obtain ⟨user, huser, h⟩ := Option.bind_eq_some_iff.1 hperson
    obtain ⟨username, hname, h⟩ := Option.bind_eq_some_iff.1 h
    obtain ⟨password, hsecret, h⟩ := Option.bind_eq_some_iff.1 h
    obtain ⟨ttl, httl, h⟩ := Option.bind_eq_some_iff.1 h
    obtain rfl := Option.some.inj h
    obtain ⟨name, hname, husername⟩ := Option.bind_eq_some_iff.1 hname
    obtain ⟨secret, hsecret, hpassword⟩ := Option.bind_eq_some_iff.1 hsecret
    exact ⟨_, .user hr hu huser hname husername hsecret hpassword (lasts_of_read httl hlease), rfl⟩

end

/-- What is made of the outcome of the call. -/
def finish (outcome : Except Failure (Option Reply.Database)) : Except Failure Credentials :=
  (outcome.mapError (.credentialsAfter .unreadable)).bind credentialsOf

theorem reading_finish : ∀ outcome,
    Reading path [⟨.readCredentials path, outcome⟩] (finish outcome)
  | .error _ => .refused
  | .ok none => .nothing
  | .ok (some ⟨none, _, _, _⟩) => .noUser rfl
  | .ok (some ⟨some _, _, _, _⟩) => .found rfl holds_getD

/-- The call settles what comes of it. -/
theorem reading_iff {outcome : Except Failure (Option Reply.Database)}
    {result : Except Failure Credentials} :
    Reading path [⟨.readCredentials path, outcome⟩] result ↔ result = finish outcome := by
  refine ⟨?_, fun h ↦ h ▸ reading_finish outcome⟩
  rintro (_ | _ | h | ⟨h, hlease | hnone⟩)
  · rfl
  · rfl
  · simp [finish, credentialsOf, Except.mapError, Except.bind, h]
  · simp [finish, credentialsOf, Except.mapError, Except.bind, h, hlease]
  · simp [finish, credentialsOf, Except.mapError, Except.bind, h, hnone]

theorem read_perform_fst (b : Backend σ) (path : String) (s : Scene σ) :
    ((read b path).perform s).1 = finish ((b.readCredentials path).perform s).1 := by
  rw [read, Action.perform_bind, Action.perform_mapFailure, finish]
  cases ((b.readCredentials path).perform s).1 <;> rfl

/-- Reading takes one call. -/
theorem makes_read (b : Backend σ) (path : String) (s : Scene σ) :
    b.Makes (read b.watched path) (read b path) s
      [⟨.readCredentials path, ((b.readCredentials path).perform s).1⟩] := by
  have hcall : b.Makes (Action.mapFailure (.credentialsAfter .unreadable)
        (b.watched.readCredentials path))
      (Action.mapFailure (.credentialsAfter .unreadable) (b.readCredentials path)) s
      [⟨.readCredentials path, ((b.readCredentials path).perform s).1⟩] :=
    (makes_call (.readCredentials path)).mapFailure
  rw [read, read]
  rcases hperform : (Action.mapFailure (.credentialsAfter .unreadable)
      (b.readCredentials path)).perform s with ⟨f | reply, t⟩
  · exact hcall.bind_error hperform
  · exact hcall.bind_ok hperform makes_ofExcept

end DatabaseSource

/-! ### What comes of the request of a call -/

/-- A response counts as one that came in full with some bytes: a body that breaks off counts as
empty, unless it had to be read. -/
inductive Http.Response.CountsAs (r : Http.Response) : List UInt8 → Prop
  | whole {bytes : List UInt8} (h : r.body = .whole bytes) : r.CountsAs bytes
  | broken {error : Http.Error} (h : r.body = .broken error) (hunread : ¬ r.status.MayBring) :
      r.CountsAs []

theorem classify_of_countsAs {α : Type} {path : String} {reader : Reply.Reader α}
    {r : Http.Response} {bytes : List UInt8} (h : r.CountsAs bytes) :
    classify path reader r = classify path reader ⟨r.status, .whole bytes⟩ := by
  obtain ⟨status, body⟩ := r
  rcases h with hwhole | ⟨hbroken, hunread⟩
  · obtain rfl : body = _ := hwhole
    rfl
  obtain rfl : body = _ := hbroken
  rw [Status.mayBring_iff, not_and, not_not] at hunread
  by_cases hsuccess : status.isSuccess = true
  · obtain rfl := hunread hsuccess
    rfl
  · simp only [classify, Bool.eq_false_iff.2 hsuccess, Bool.not_false, if_true]
    rfl

theorem classify_of_interrupted {α : Type} {path : String} {reader : Reply.Reader α}
    {status : Http.Status} {error : Http.Error} (h : status.MayBring) :
    classify path reader ⟨status, .broken error⟩ = .error (.interrupted error) :=
  have ⟨hsuccess, hbody⟩ := Status.mayBring_iff.1 h
  classify_of_isSuccess hsuccess hbody

namespace Client

variable {ν : Type} {c : Client} {net : Network ν} {call : Backend.Call}
  {s : Scene (Link (Recorded ν))}

/-- What comes of the request of a call. -/
inductive Comes (c : Client) (net : Network ν) (call : Backend.Call)
    (s : Scene (Link (Recorded ν))) : Except Failure (Option call.Reply) → Prop
  /-- There is no token to send it with. -/
  | tokenless {f : Failure} (h : ((c.token net.recorded).perform s).1 = .error f) :
      Comes c net call s (.error f)
  /-- It cannot be put together. -/
  | unsent {token : SessionToken} {fault : Fault}
      (htoken : ((c.token net.recorded).perform s).1 = .ok token)
      (h : c.prepare call token = .error fault) :
      Comes c net call s (.error (.unavailable (.unsent fault)))
  | unanswered {x : Exchanged} (hasks : c.Asks net call s x) (h : x.response = none) :
      Comes c net call s (.error (.unavailable (.unsent (.unanswered x.request.target.render))))
  /-- The body breaks off. -/
  | interrupted {x : Exchanged} {status : Http.Status} {error : Http.Error}
      (hasks : c.Asks net call s x) (h : x.response = some ⟨status, .broken error⟩)
      (hstatus : status.MayBring) : Comes c net call s (.error (.interrupted error))
  | brings {x : Exchanged} {r : Http.Response} {bytes : List UInt8} {reply : Option call.Reply}
      (hasks : c.Asks net call s x) (h : x.response = some r) (hbytes : r.CountsAs bytes)
      (hbrings : Brings (net.reader call.kind).read? r.status bytes reply) :
      Comes c net call s (.ok reply)
  | refuses {x : Exchanged} {r : Http.Response} {bytes : List UInt8} {f : Failure}
      (hasks : c.Asks net call s x) (h : x.response = some r) (hbytes : r.CountsAs bytes)
      (hrefuses : Refuses (pathOf call) (net.reader call.kind) r.status bytes f) :
      Comes c net call s (.error f)

/-- The outcome of a request that was made. -/
theorem Asks.request_perform_fst {x : Exchanged} (h : c.Asks net call s x) :
    ((c.request net.recorded (net.recorded.reader call.kind) (methodOf call) (pathOf call)
      (bodyOf call)).perform s).1 = (Endpoint.received x.request x.response).bind
        (classify (pathOf call) (net.reader call.kind)) := by
  obtain ⟨token, t, htoken, hprepare, hx⟩ := asks_iff.1 h
  have hprepare : c.endpoint.prepare (methodOf call) (pathOf call) (some token.value)
      (bodyOf call) = .ok x.request := hprepare
  rw [Client.request_perform_fst htoken, hprepare, hx]
  rfl

/-- A response that counts as some bytes brings something or refuses. -/
theorem comes_of_countsAs {x : Exchanged} {r : Http.Response} {bytes : List UInt8}
    (hasks : c.Asks net call s x) (h : x.response = some r) (hbytes : r.CountsAs bytes) :
    c.Comes net call s (classify (pathOf call) (net.reader call.kind) r) := by
  rw [classify_of_countsAs hbytes]
  cases hclassify : classify (pathOf call) (net.reader call.kind) ⟨r.status, .whole bytes⟩
    with
  | error f => exact .refuses hasks h hbytes (classify_eq_error_iff.1 hclassify)
  | ok reply => exact .brings hasks h hbytes ((classify_eq_ok_iff _).1 hclassify)

/-- Something comes of every request that is made. -/
theorem comes_of_asks {x : Exchanged} (hasks : c.Asks net call s x) :
    c.Comes net call s ((Endpoint.received x.request x.response).bind
      (classify (pathOf call) (net.reader call.kind))) := by
  cases hresponse : x.response with
  | none => exact .unanswered hasks hresponse
  | some r =>
    obtain ⟨status, body⟩ := r
    cases body with
    | whole bytes => exact comes_of_countsAs hasks hresponse (.whole rfl)
    | broken error =>
      by_cases hstatus : status.MayBring
      · show c.Comes net call s (classify _ _ _)
        rw [classify_of_interrupted hstatus]
        exact .interrupted hasks hresponse hstatus
      · exact comes_of_countsAs hasks hresponse (.broken rfl hstatus)

/-- Something comes of every request. -/
theorem comes_request : c.Comes net call s
    ((c.request net.recorded (net.recorded.reader call.kind) (methodOf call) (pathOf call)
      (bodyOf call)).perform s).1 := by
  rcases htoken : (c.token net.recorded).perform s with ⟨f | token, t⟩
  · rw [request, Action.perform_bind_of_error htoken]
    exact .tokenless (congrArg Prod.fst htoken)
  cases hprepare : c.prepare call token with
  | error fault =>
    have hunsent : c.endpoint.prepare (methodOf call) (pathOf call) (some token.value)
        (bodyOf call) = .error fault := hprepare
    rw [request_perform_fst htoken, hunsent]
    exact .unsent (congrArg Prod.fst htoken) hprepare
  | ok q =>
    have hasks : c.Asks net call s ⟨q, (net.exchange q t.state.outside.outside).1⟩ :=
      asks_iff.2 ⟨token, t, htoken, hprepare, rfl⟩
    rw [hasks.request_perform_fst]
    exact comes_of_asks hasks

/-- What comes of a request is its outcome, and nothing else does. -/
theorem comes_iff {outcome : Except Failure (Option call.Reply)} :
    c.Comes net call s outcome ↔ ((c.request net.recorded (net.recorded.reader call.kind)
      (methodOf call) (pathOf call) (bodyOf call)).perform s).1 = outcome := by
  refine ⟨?_, fun h ↦ h ▸ comes_request⟩
  rintro (htoken | ⟨htoken, hprepare⟩ | ⟨hasks, h⟩ | ⟨hasks, h, hstatus⟩ |
    ⟨hasks, h, hbytes, hbrings⟩ | ⟨hasks, h, hbytes, hrefuses⟩)
  · rw [request, Action.perform_bind_of_error (Prod.ext htoken rfl)]
  · have hunsent : c.endpoint.prepare (methodOf call) (pathOf call) (some _) (bodyOf call) =
        .error _ := hprepare
    rw [request_perform_fst (Prod.ext htoken rfl), hunsent]
  · rw [hasks.request_perform_fst, h]
    rfl
  · rw [hasks.request_perform_fst, h]
    exact classify_of_interrupted hstatus
  · rw [hasks.request_perform_fst, h]
    exact (classify_of_countsAs hbytes).trans ((classify_eq_ok_iff _).2 hbrings)
  · rw [hasks.request_perform_fst, h]
    exact (classify_of_countsAs hbytes).trans (classify_eq_error_iff.2 hrefuses)

end Client

namespace DatabaseSource

theorem read_of_hears {ν : Type} {c : Client} {net : Network ν} {path : String}
    {s : Scene (Link (Recorded ν))} {status : Http.Status} {bytes : List UInt8} {t : Json.Tree}
    {reply : Reply.Database} {told : Option Credentials}
    (h : c.Hears net (.readCredentials path) s status bytes) (hstatus : status.MayBring)
    (ht : Json.Tree.read? bytes = some t) (hreply : Reply.Database.ofTree? t = some reply) :
    ((read (c.backend net.recorded) path).perform s).1 =
        told.elim (.error (.credentials .emptyResponse)) .ok ↔ Tells t told := by
  have hbrings : Brings (net.reader .database).read? status bytes (some reply) :=
    .of_tree hstatus ht hreply
  have hcall : ((c.readCredentials net.recorded path).perform s).1 = .ok (some reply) :=
    h.eq_ok_iff.2 ⟨_, hbrings, .credentials⟩
  obtain ⟨told', htold', hread⟩ := exists_tells hreply
  have hread : ((read (c.backend net.recorded) path).perform s).1 =
      told'.elim (.error (.credentials .emptyResponse)) .ok := by
    rw [read_perform_fst]
    show finish ((c.readCredentials net.recorded path).perform s).1 = _
    rw [hcall]
    exact hread
  rw [hread]
  constructor
  · intro heq
    cases told <;> cases told' <;> cases heq <;> exact htold'
  · intro htold
    rw [htold'.unique htold]

/-- Credentials are read with one call, at the path of their role. They are those of the user in
the reply and hold as long as is told of the user, or else as long as the reply says. Without a user
that is what is reported, with nothing below it. Any failure of the call, and for a client any that
can come of its request, is put below a report of its own, with all that it has below itself: so the
failure at the bottom decides whether to try again, and the summary begins with the report. An error
of a library at the bottom is shown in the failure that carries it, and once more below that, with
all that it has below itself. Whatever words the failures at the bottom are put in, summaries are
made alike. -/
theorem read_law :
    (∀ config : DatabaseConfig, config.ReadsAt config.credentialPath) ∧
    (∀ (σ : Type) (b : Backend σ) (path : String) (s : Scene σ), ∃ calls,
      b.Makes (read b.watched path) (read b path) s calls ∧
        Reading path calls ((read b path).perform s).1) ∧
    (∀ (ν : Type) (c : Client) (net : Network ν) (path : String) (s : Scene (Link (Recorded ν)))
        (result : Except Failure Credentials),
      ((read (c.backend net.recorded) path).perform s).1 = result ↔
        ∃ outcome, c.Comes net (.readCredentials path) s outcome ∧
          Reading path [⟨.readCredentials path, outcome⟩] result) ∧
    (∀ (ν : Type) (c : Client) (net : Network ν) (path : String) (s : Scene (Link (Recorded ν)))
        (status : Http.Status) (bytes : List UInt8) (t : Json.Tree) (reply : Reply.Database)
        (told : Option Credentials), c.Hears net (.readCredentials path) s status bytes →
      status.MayBring → Json.Tree.read? bytes = some t → Reply.Database.ofTree? t = some reply →
        (((read (c.backend net.recorded) path).perform s).1 =
          told.elim (.error (.credentials .emptyResponse)) .ok ↔ Tells t told)) ∧
    (Failure.credentials .emptyResponse).Reports
      "Empty response from Hashicorp vault while trying to retrieve database credentials." none ∧
    (∀ e : Failure,
      (Failure.credentialsAfter .unreadable e).Reports
        "Unexpected error reading db credentials from hashicorp vault" (some e) ∧
      ∃ above root, e.StemsFrom above root ∧
        (∀ cause source, root ≠ .credentialsAfter cause source) ∧
        (Failure.credentialsAfter .unreadable e).causes = above ++ root.message :: root.causes ∧
        (∀ text error, root.Carries text error →
          root.message = text ++ error.message ∧ root.causes = error.message :: error.causes) ∧
        ((∀ text error, ¬ root.Carries text error) → root.causes = []) ∧
        (Failure.credentialsAfter .unreadable e).isRetryable = root.isRetryable) ∧
    ∀ (below : Chain) (text : String),
      Chain.SumsUp (text :: below.message :: below.causes) (below.withContext text).summary := by
  refine ⟨DatabaseConfig.readsAt_credentialPath, fun σ b path s ↦ ?_,
    fun ν c net path s result ↦ ?_, fun ν c net path s status bytes t reply told ↦ read_of_hears,
    Failure.reports_emptyResponse, fun e ↦ ⟨Failure.reports_unreadable e, ?_⟩,
    fun below text ↦ ?_⟩
  · exact ⟨_, makes_read b path s, reading_iff.2 (read_perform_fst b path s)⟩
  · rw [read_perform_fst]
    constructor
    · rintro rfl
      exact ⟨_, Client.comes_iff.2 rfl, reading_iff.2 rfl⟩
    · rintro ⟨outcome, hcomes, hreading⟩
      rw [reading_iff.1 hreading, ← Client.comes_iff.1 hcomes]
      rfl
  · obtain ⟨above, root, hstems, hroot⟩ := e.exists_stemsFrom
    refine ⟨above, root, hstems, hroot, hstems.messages_eq, fun text error hcarries ↦ ?_,
      fun hcarries ↦ Failure.causes_eq_nil hcarries hroot, hstems.isRetryable_eq⟩
    exact List.cons.inj hcarries.messages_eq
  · exact Chain.sumsUp_summary (below.withContext text)

/-- A body with credentials that hold no longer. -/
def expiring : String :=
  "\x7b\"data\":\x7b\"username\":\"u\",\"password\":\"p\",\"ttl\":0\x7d,\"lease_duration\":9\x7d"

/-- The user in it. -/
def expiringUser : Json.Tree := .object [
  (Utf8.encode "username", .string (Utf8.encode "u")),
  (Utf8.encode "password", .string (Utf8.encode "p")),
  (Utf8.encode "ttl", .number ⟨false, ['0'], none, none⟩)]

/-- What it spells. -/
def expiringTree : Json.Tree := .object [
  (Utf8.encode "data", expiringUser),
  (Utf8.encode "lease_duration", .number ⟨false, ['9'], none, none⟩)]

theorem tells_expiringTree : Tells expiringTree (some ⟨"u", ⟨"p"⟩, 0⟩) := by
  have hdata : Json.unescape? (Utf8.encode "data") = some "data" := by decide +kernel
  have hlease : Json.unescape? (Utf8.encode "lease_duration") = some "lease_duration" := by
    decide +kernel
  have husername : Json.unescape? (Utf8.encode "username") = some "username" := by decide +kernel
  have hpassword : Json.unescape? (Utf8.encode "password") = some "password" := by decide +kernel
  have httl : Json.unescape? (Utf8.encode "ttl") = some "ttl" := by decide +kernel
  have hr : Json.Record.ofTree? ["data", "lease_id", "lease_duration", "renewable"] expiringTree =
      some ⟨[("data", some expiringUser), ("lease_id", none),
        ("lease_duration", some (.number ⟨false, ['9'], none, none⟩)), ("renewable", none)]⟩ := by
    simp [expiringTree, Json.Record.ofTree?, Json.Record.named?, hdata, hlease,
      Json.Record.ofMembers?, Json.Record.slotOf?]
  have huser : Json.Record.ofTree? ["username", "password", "ttl"] expiringUser =
      some ⟨[("username", some (.string (Utf8.encode "u"))),
        ("password", some (.string (Utf8.encode "p"))),
        ("ttl", some (.number ⟨false, ['0'], none, none⟩))]⟩ := by
    simp [expiringUser, Json.Record.ofTree?, Json.Record.named?, husername, hpassword, httl,
      Json.Record.ofMembers?, Json.Record.slotOf?]
  exact .user hr rfl huser rfl (by decide +kernel) rfl (by decide +kernel)
    (.told rfl (by decide +kernel))

set_option maxRecDepth 8000 in
/-- Credentials that are told to hold no longer do not, whatever the reply says. A body that is no
reply is reported in the words of the reader. -/
theorem read_law_of_replies :
    ((read (Client.tokenClient.backend (Client.replying 200 expiring).recorded)
      "database/static-creds/app").perform Client.untouched).1 = .ok ⟨"u", ⟨"p"⟩, 0⟩ ∧
    ∃ f, ((read (Client.tokenClient.backend (Client.replying 200 "sealed").recorded)
        "database/static-creds/app").perform Client.untouched).1 = .error f ∧
      f.chain.summary = "Unexpected error reading db credentials from hashicorp vault. " ++
        "Serialization error: expected value at line 1 column 1. " ++
        "expected value at line 1 column 1" ∧ f.isRetryable = false := by
  have hhears : ∀ text, Client.tokenClient.Hears (Client.replying 200 text)
      (.readCredentials "database/static-creds/app") Client.untouched 200 (Utf8.encode text) :=
    fun _ ↦ Client.hears_replying ⟨_, rfl⟩
  obtain ⟨-, -, hcomes, hbody, -⟩ := read_law
  constructor
  · have htree : Json.Tree.read? (Utf8.encode expiring) = some expiringTree := rfl
    have hreply : Reply.Database.ofTree? expiringTree =
        some ⟨some ⟨"u", ⟨"p"⟩, some 0⟩, "", 9, false⟩ := by decide +kernel
    exact (hbody _ _ _ _ _ _ _ _ _ (some ⟨"u", ⟨"p"⟩, 0⟩) (hhears expiring) (by decide) htree
      hreply).2 tells_expiringTree
  · obtain ⟨x, hasks, hresponse⟩ := hhears "sealed"
    have hrefuses : Refuses "database/static-creds/app"
        ((Client.replying 200 "sealed").reader .database) 200 (Utf8.encode "sealed")
        (.undecodable ⟨"expected value at line 1 column 1", []⟩) :=
      .undecodable (by decide) (by decide) rfl
    exact ⟨_, (hcomes _ _ _ _ _ _).2 ⟨_, .refuses hasks hresponse (.whole rfl) hrefuses, .refused⟩,
      by decide +kernel, rfl⟩

end DatabaseSource

end VaultAccess
