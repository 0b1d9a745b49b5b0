import VaultAccess.DatabaseSource
import VaultAccess.Factory
import VaultAccess.KeyVault
import VaultAccess.Proofs.Calls
import VaultAccess.Proofs.Requests
import VaultAccess.Proofs.Session.Turns

/-!
# Transcripts of a client

Every call of a client is made of at most two exchanges: a login, if the session has no token that
is still valid, and then, with the token, the request that the call is about. So what a service
exchanges with a server can be said call by call, and what all its requests have in common can be
said of one exchange given those before it.

What ties the two together is which token a request carries. `Client.tokenAfter` reads it off the
exchanges before: it is the one that was issued last, or the one that was given. A session that has
made these exchanges keeps no other (`Minds.knows`), so the token that a call obtains is the right
one, whether the session had it or has just been issued it.
-/

namespace VaultAccess

open Http

/-! ### Tokens in a transcript -/

/-- The token that a response to a login issues. -/
def Http.Response.issued? (r : Response) : Option Secret := (r.reply? .login).map (·.clientToken)

/-- The token that an exchange yielded, if it was a login that succeeded. Requests that carry a
token are no logins. -/
def Http.Exchanged.issued? (x : Exchanged) : Option Secret :=
  if (x.request.header? Endpoint.tokenHeader).isSome then none
  else x.response.bind Response.issued?

/-- The token of the last login that succeeded. -/
def lastIssued? (xs : List Exchanged) : Option Secret :=
  xs.foldl (fun last x ↦ x.issued?.or last) none

theorem lastIssued?_concat {xs : List Exchanged} {x : Exchanged} :
    lastIssued? (xs ++ [x]) = x.issued?.or (lastIssued? xs) := by
  rw [lastIssued?, List.foldl_append]
  rfl

/-! ### Obtaining a token -/

theorem Link.outsideAction_perform {ν α : Type} {a : Action ν α} {s : Scene (Link ν)} :
    (Link.outsideAction a).perform s =
      let r := a.perform ⟨s.state.outside, s.log⟩
      (r.1, ⟨⟨s.state.session, r.2.state⟩, r.2.log⟩) :=
  rfl

/-- A caller that comes alone has the token that the session keeps, is refused, or logs in. -/
theorem Link.obtain_cases {ν : Type} (auth : Authenticator ν) (scene : Scene (Link ν)) :
    (∃ token, scene.state.session.token = some token ∧
      (Link.obtain auth).perform scene = (.ok token, scene)) ∨
    (∃ f, (Link.obtain auth).perform scene = (.error f, scene)) ∨
      (Link.obtain auth).perform scene = (Link.logIn auth).perform scene := by
  rw [obtain_perform]
  cases hvalid : scene.state.session.valid? (auth.now scene.state.outside) with
  | some token => exact .inl ⟨token, (Session.valid?_eq_some_iff.1 hvalid).1, rfl⟩
  | none =>
    dsimp only
    rw [takeTurn_perform]
    cases hdecision : scene.state.session.decision (auth.now scene.state.outside)
        scene.state.session.attempts with
    | use token =>
      rw [Session.decision_eq_use_iff.1 hdecision] at hvalid
      cases hvalid
    | share fault => exact .inr (.inl ⟨_, rfl⟩)
    | logIn => exact .inr (.inr rfl)

/-! ### Services -/

namespace Backend

variable {σ : Type} {b : Backend σ}

theorem straight_encryptLogged (engine key plaintext : String) :
    b.Straight (b.encryptLogged engine key plaintext) :=
  (straight_make (.encrypt engine key plaintext)).bind fun _ ↦
    straight_emit.bind fun _ ↦ straight_pure

theorem straight_decryptLogged (engine key ciphertext : String) :
    b.Straight (b.decryptLogged engine key ciphertext) :=
  (straight_make (.decrypt engine key ciphertext)).bind fun _ ↦
    straight_emit.bind fun _ ↦ straight_pure

theorem straight_get (r : SecretReference) : b.Straight (KeyVault.get b r) := by
  refine (straight_make (.read r.engine r.name r.version)).bind fun document ↦
    straight_ofExcept.bind fun reading ↦ ?_
  cases reading with
  | plain => exact straight_pure
  | encrypted => exact straight_decryptLogged _ _ _

theorem straight_storedValue (r : SecretReference) (value : String) :
    b.Straight (KeyVault.storedValue b r value) := by
  rw [KeyVault.storedValue]
  split
  · split
    · exact straight_pure
    · exact straight_encryptLogged _ _ _
  · exact straight_pure

theorem straight_storedFields (r : SecretReference) (fields : List (String × String)) :
    b.Straight (KeyVault.storedFields b r fields) := by
  induction fields with
  | nil => exact straight_pure
  | cons field fields ih =>
    exact (straight_storedValue r field.2).bind fun _ ↦ ih.bind fun _ ↦ straight_pure

theorem straight_set (r : SecretReference) (d : SecretDocument) :
    b.Straight (KeyVault.set b r d) :=
  (straight_storedFields r _).bind fun _ ↦
    (straight_make (.write r.engine r.name _)).bind fun _ ↦
      straight_orFail.bind fun _ ↦ straight_emit.bind fun _ ↦ straight_pure

theorem straight_read (path : String) : b.Straight (DatabaseSource.read b path) :=
  (straight_make (.readCredentials path)).mapFailure.bind fun _ ↦ straight_ofExcept

end Backend

namespace Client

variable {ν : Type} {c : Client} {net : Network ν} {xs : List Exchanged} {x : Exchanged}

/-- A request is for a login: it is what the method asks for, if it asks for any. -/
def IsLogin (c : Client) (q : Request) : Prop :=
  match c.method with
  | .token _ => False
  | .approle path roleId secretId =>
    c.endpoint.prepare .post ("auth/" ++ path ++ "/login") none
      (some (Authentication.loginBody roleId secretId)) = .ok q

/-- The token that a request carries after some exchanges. -/
def tokenAfter (c : Client) (xs : List Exchanged) : Option Secret :=
  match c.method with
  | .token value => some value
  | .approle _ _ _ => lastIssued? xs

theorem tokenAfter_concat_of_none (hx : x.issued? = none) :
    c.tokenAfter (xs ++ [x]) = c.tokenAfter xs := by
  rw [tokenAfter, tokenAfter, lastIssued?_concat, hx]
  rfl

/-- What a login issues is what requests carry from then on. -/
theorem tokenAfter_concat_of_login {token : Secret} (hlogin : c.IsLogin x.request)
    (hx : x.issued? = some token) : c.tokenAfter (xs ++ [x]) = some token := by
  rw [IsLogin] at hlogin
  rw [tokenAfter, lastIssued?_concat, hx]
  split at hlogin
  next => exact hlogin.elim
  next => exact Option.some_or

/-- A request for a login carries no token. -/
theorem IsLogin.header?_eq {q : Request} (h : c.IsLogin q) :
    q.header? Endpoint.tokenHeader = none := by
  rw [IsLogin] at h
  split at h
  · exact h.elim
  · exact Endpoint.header?_token h

/-! ### Logging in -/

theorem login_approle_perform {e : Endpoint} {net : Network ν} {path : String}
    {roleId secretId : Secret} {s : Scene ν} :
    ((Authentication.approle path roleId secretId).login e net).perform s =
      match (e.request net (net.reader .login) .post ("auth/" ++ path ++ "/login") none
        (some (Authentication.loginBody roleId secretId))).perform s with
      | (.error f, t) => (.error (Authentication.asRefusal f), t)
      | (.ok none, t) => (.error (.authentication (.mountMissing path)), t)
      | (.ok (some login), t) =>
        (.ok ⟨login.clientToken, some (Instant.ofSeconds login.leaseDuration)⟩,
          { t with log := .authenticated login.leaseDuration login.renewable :: t.log }) := by
  show (Action.mapFailure _ _ >>= _ : Action ν Grant).perform s = _
  rw [Action.perform_bind, Action.perform_mapFailure]
  rcases (e.request net _ _ _ _ _).perform s with ⟨f | _ | login, t⟩ <;> rfl

/-- A client that logs in sends one request for a login at most, and then its requests carry the
token that it got, or the one that they carried before. -/
theorem login_perform (net : Network ν) (s : Scene (Recorded ν)) :
    ∃ logins, ((c.method.login c.endpoint net.recorded).perform s).2.state.exchanges =
        s.state.exchanges ++ logins ∧ logins.length ≤ 1 ∧ (∀ x ∈ logins, c.IsLogin x.request) ∧
      match ((c.method.login c.endpoint net.recorded).perform s).1 with
      | .ok grant => c.tokenAfter (s.state.exchanges ++ logins) = some grant.token
      | .error _ =>
        c.tokenAfter (s.state.exchanges ++ logins) = c.tokenAfter s.state.exchanges := by
  cases hmethod : c.method with
  | token value =>
    refine ⟨[], (List.append_nil _).symm, Nat.zero_le _, List.forall_mem_nil _, ?_⟩
    show c.tokenAfter _ = some value
    rw [tokenAfter, hmethod]
  | approle path roleId secretId =>
    let location := "auth/" ++ path ++ "/login"
    rw [login_approle_perform]
    cases hprepare : c.endpoint.prepare .post location none
        (some (Authentication.loginBody roleId secretId)) with
    | error fault =>
      rw [Endpoint.perform_request_eq, Endpoint.perform_send_of_error hprepare]
      exact ⟨[], (List.append_nil _).symm, Nat.zero_le _, List.forall_mem_nil _,
        by rw [List.append_nil]; rfl⟩
    | ok q =>
      have hlogin : c.IsLogin q := by
        rw [IsLogin, hmethod]
        exact hprepare
      let x : Exchanged := ⟨q, (net.exchange q s.state.outside).1⟩
      let result := (Endpoint.received q x.response).bind
        (classify location (net.reader .login))
      have hrequest : (c.endpoint.request net.recorded (net.recorded.reader .login) .post location
          none (some (Authentication.loginBody roleId secretId))).perform s =
            (result, ⟨⟨(net.exchange q s.state.outside).2, s.state.exchanges ++ [x]⟩, s.log⟩) := by
        rw [Endpoint.perform_request_eq, Endpoint.perform_send_of_ok hprepare]
        rfl
      have hissued : x.issued? = result.toOption.join.map (·.clientToken) := by
        rw [Exchanged.issued?, hlogin.header?_eq]
        show x.response.bind Response.issued? = ((Endpoint.received q x.response).bind
          (classify location (net.reader .login))).toOption.join.map (·.clientToken)
        cases x.response with
        | none => rfl
        | some r => exact congrArg (Option.map _) (r.reply?_eq net _ _)
      rw [hrequest]
      refine ⟨[x], ?_⟩
      rcases hresult : result with f | _ | login <;> rw [hresult] at hissued
      · exact ⟨rfl, Nat.le_refl _, by simpa using hlogin, tokenAfter_concat_of_none hissued⟩
      · exact ⟨rfl, Nat.le_refl _, by simpa using hlogin, tokenAfter_concat_of_none hissued⟩
      · exact ⟨rfl, Nat.le_refl _, by simpa using hlogin,
          tokenAfter_concat_of_login hlogin hissued⟩

/-- A session keeps no token but the one that requests carry after some exchanges. -/
def Knows (c : Client) (l : Link (Recorded ν)) : Prop :=
  ∀ token, l.session.token = some token → c.tokenAfter l.outside.exchanges = some token.value

/-- Obtaining a token takes one request for a login at most. The token that is obtained is the one
that requests carry from then on. -/
theorem token_perform (c : Client) (net : Network ν) (s : Scene (Link (Recorded ν))) :
    ∃ logins, ((c.token net.recorded).perform s).2.state.outside.exchanges =
        s.state.outside.exchanges ++ logins ∧ logins.length ≤ 1 ∧
      (∀ x ∈ logins, c.IsLogin x.request) ∧
      (c.Knows s.state → c.Knows ((c.token net.recorded).perform s).2.state ∧
        ∀ token, ((c.token net.recorded).perform s).1 = .ok token →
          c.tokenAfter (s.state.outside.exchanges ++ logins) = some token.value) := by
  have hnothing : s.state.outside.exchanges = s.state.outside.exchanges ++ [] :=
    (List.append_nil _).symm
  obtain ⟨token, htoken, h⟩ | ⟨f, h⟩ | h :=
    Link.obtain_cases (c.method.authenticator c.endpoint net.recorded) s
  · rw [Client.token, h]
    refine ⟨[], hnothing, Nat.zero_le _, List.forall_mem_nil _, fun hs ↦ ⟨hs, fun t ht ↦ ?_⟩⟩
    obtain rfl := Except.ok.inj ht
    rw [← hnothing]
    exact hs _ htoken
  · rw [Client.token, h]
    exact ⟨[], hnothing, Nat.zero_le _, List.forall_mem_nil _,
      fun hs ↦ ⟨hs, fun _ htoken ↦ by cases htoken⟩⟩
  · rw [Client.token, h, Link.logIn_perform]
    show ∃ logins, _
    obtain ⟨logins, hexchanges, hlength, hlogins, houtcome⟩ :=
      login_perform (c := c) net ⟨s.state.outside, s.log⟩
    refine ⟨logins, hexchanges, hlength, hlogins, fun hs ↦ ?_⟩
    rw [Authentication.authenticator]
    rcases hperform : (c.method.login c.endpoint net.recorded).perform ⟨s.state.outside, s.log⟩ with
      ⟨f | grant, after⟩ <;> rw [hperform] at hexchanges houtcome
    · refine ⟨fun token htoken ↦ ?_, fun _ htoken ↦ by cases htoken⟩
      show c.tokenAfter after.state.exchanges = _
      rw [hexchanges, houtcome]
      exact hs token htoken
    · refine ⟨fun token htoken ↦ ?_, fun token htoken ↦ ?_⟩
      · obtain rfl := Option.some.inj htoken
        show c.tokenAfter after.state.exchanges = _
        rw [hexchanges, houtcome]
        rfl
      · obtain rfl := Except.ok.inj htoken
        exact houtcome

/-! ### Calls -/

/-- The method of the request that a call makes. -/
def methodOf : Backend.Call → Method
  | .read _ _ _ => .get
  | .readCredentials _ => .get
  | .write _ _ _ => .post
  | .encrypt _ _ _ => .post
  | .decrypt _ _ _ => .post

/-- The path of the request that a call makes. -/
def pathOf : Backend.Call → String
  | .read engine name version => versionPath engine name version
  | .readCredentials path => path
  | .write engine name _ => documentPath engine name
  | .encrypt engine key _ => engine ++ "/encrypt/" ++ key
  | .decrypt engine key _ => engine ++ "/decrypt/" ++ key

/-- The body of the request that a call makes. -/
def bodyOf : Backend.Call → Option Json
  | .read _ _ _ => none
  | .readCredentials _ => none
  | .write _ _ fields => some (.object [("data", .ofTexts fields.entries)])
  | .encrypt _ _ plaintext => some (.object [("plaintext", .text (encoded plaintext))])
  | .decrypt _ _ ciphertext => some (.object [("ciphertext", .text ciphertext)])

/-- The request that a call makes with a token, or why there is none. -/
def prepare (c : Client) (call : Backend.Call) (token : SessionToken) : Except Fault Request :=
  c.endpoint.prepare (methodOf call) (pathOf call) (some token.value) (bodyOf call)

/-- Where a request leaves a client that has obtained a token for it. -/
def afterRequest (c : Client) (net : Network ν) (call : Backend.Call) (token : SessionToken)
    (s : Scene (Link ν)) : Scene (Link ν) :=
  let t := ((c.endpoint.send net (methodOf call) (pathOf call) (some token.value)
    (bodyOf call)).perform ⟨s.state.outside, s.log⟩).2
  ⟨⟨s.state.session, t.state⟩, t.log⟩

theorem request_perform_snd {α : Type} {reader : Reply.Reader α} {method : Method}
    {path : String} {body : Option Json} {s : Scene (Link ν)} :
    ((c.request net reader method path body).perform s).2 =
      match (c.token net).perform s with
      | (.error _, t) => t
      | (.ok token, t) =>
        let u := ((c.endpoint.send net method path (some token.value) body).perform
          ⟨t.state.outside, t.log⟩).2
        ⟨⟨t.state.session, u.state⟩, u.log⟩ := by
  rw [request, Action.perform_bind]
  rcases (c.token net).perform s with ⟨f | token, t⟩
  · rfl
  · show ((Link.outsideAction _).perform t).2 = _
    rw [Link.outsideAction_perform, Endpoint.perform_request_eq]

/-- A call obtains a token and then sends its request. What it makes of the reply changes nothing.
-/
theorem make_perform_snd (call : Backend.Call) (s : Scene (Link ν)) :
    (((c.backend net).make call).perform s).2 =
      match (c.token net).perform s with
      | (.error _, t) => t
      | (.ok token, t) => c.afterRequest net call token t := by
  cases call with
  | read engine name version =>
    exact (Action.perform_bind_snd fun _ _ ↦ rfl).trans request_perform_snd
  | write engine name fields =>
    exact (Action.perform_bind_snd fun _ _ ↦ rfl).trans request_perform_snd
  | encrypt engine key plaintext =>
    refine (Action.perform_bind_snd fun reply _ ↦ ?_).trans request_perform_snd
    exact Action.perform_orFail_snd
  | decrypt engine key ciphertext =>
    refine (Action.perform_bind_snd fun reply _ ↦ ?_).trans request_perform_snd
    exact (Action.perform_bind_snd fun _ _ ↦ rfl).trans Action.perform_orFail_snd
  | readCredentials path => exact request_perform_snd

theorem afterRequest_of_error {call : Backend.Call} {token : SessionToken} {fault : Fault}
    {s : Scene (Link (Recorded ν))} (h : c.prepare call token = .error fault) :
    c.afterRequest net.recorded call token s = s := by
  rw [afterRequest, Endpoint.perform_send_of_error h]

theorem afterRequest_of_ok {call : Backend.Call} {token : SessionToken} {q : Request}
    {s : Scene (Link (Recorded ν))} (h : c.prepare call token = .ok q) :
    (c.afterRequest net.recorded call token s).state.session = s.state.session ∧
      (c.afterRequest net.recorded call token s).state.outside.exchanges =
        s.state.outside.exchanges ++ [⟨q, (net.exchange q s.state.outside.outside).1⟩] := by
  rw [afterRequest, Endpoint.perform_send_of_ok h]
  exact ⟨rfl, rfl⟩

/-- What has been exchanged after a call. -/
def exchangesAfter (c : Client) (net : Network ν) (call : Backend.Call)
    (s : Scene (Link (Recorded ν))) : List Exchanged :=
  (((c.backend net.recorded).make call).perform s).2.state.outside.exchanges

/-- A call makes one request for a login at most. If it obtains a token, its own request follows,
once if there is one. -/
theorem call_exchanges (c : Client) (net : Network ν) (call : Backend.Call)
    (s : Scene (Link (Recorded ν))) :
    ∃ logins : List Exchanged, logins.length ≤ 1 ∧ (∀ x ∈ logins, c.IsLogin x.request) ∧
      match ((c.token net.recorded).perform s).1 with
      | .error _ => c.exchangesAfter net call s = s.state.outside.exchanges ++ logins
      | .ok token =>
        (∀ q, c.prepare call token = .ok q → ∃ response,
          c.exchangesAfter net call s = s.state.outside.exchanges ++ logins ++ [⟨q, response⟩]) ∧
        ∀ fault, c.prepare call token = .error fault →
          c.exchangesAfter net call s = s.state.outside.exchanges ++ logins := by
  obtain ⟨logins, hexchanges, hlength, hlogins, -⟩ := token_perform c net s
  refine ⟨logins, hlength, hlogins, ?_⟩
  rw [exchangesAfter, make_perform_snd]
  rcases hobtain : (c.token net.recorded).perform s with ⟨f | token, t⟩ <;>
    rw [hobtain] at hexchanges
  · exact hexchanges
  · constructor
    · intro q hq
      show ∃ response, (c.afterRequest net.recorded call token t).state.outside.exchanges = _
      rw [(afterRequest_of_ok hq).2, hexchanges]
      exact ⟨_, rfl⟩
    · intro fault hfault
      show (c.afterRequest net.recorded call token t).state.outside.exchanges = _
      rw [afterRequest_of_error hfault]
      exact hexchanges

/-- If tokens and the namespace may stand in headers, whether there is a request for a call is up to
the target alone. -/
theorem call_exchanges_of_legal (c : Client) (net : Network ν)
    (hnamespace : ∀ n ∈ c.endpoint.namespaceName, isHeaderValue n = true) (call : Backend.Call)
    (s : Scene (Link (Recorded ν))) :
    ∃ logins : List Exchanged, logins.length ≤ 1 ∧ (∀ x ∈ logins, c.IsLogin x.request) ∧
      match ((c.token net.recorded).perform s).1 with
      | .error _ => c.exchangesAfter net call s = s.state.outside.exchanges ++ logins
      | .ok token => isHeaderValue token.value.expose = true →
        (Reachable (c.endpoint.url (pathOf call)) →
          ∃ q response, c.prepare call token = .ok q ∧ c.exchangesAfter net call s =
            s.state.outside.exchanges ++ logins ++ [⟨q, response⟩]) ∧
        (¬ Reachable (c.endpoint.url (pathOf call)) →
          c.exchangesAfter net call s = s.state.outside.exchanges ++ logins) := by
  obtain ⟨logins, hlength, hlogins, hcall⟩ := call_exchanges c net call s
  refine ⟨logins, hlength, hlogins, ?_⟩
  cases hobtain : ((c.token net.recorded).perform s).1 with
  | error f => rwa [hobtain] at hcall
  | ok token =>
    rw [hobtain] at hcall
    obtain ⟨hsent, hunsent⟩ := hcall
    intro hlegal
    have hheaders : ((c.endpoint.headers (some token.value)).all fun h ↦ isHeaderValue h.2) =
        true := Endpoint.headers_legal (by simpa using hlegal) hnamespace
    have hreach : (∃ q, c.prepare call token = .ok q) ↔
        Reachable (c.endpoint.url (pathOf call)) :=
      Http.Client.exists_prepare_iff hheaders
    constructor
    · intro h
      obtain ⟨q, hq⟩ := hreach.2 h
      obtain ⟨response, hexchanges⟩ := hsent q hq
      exact ⟨q, response, hq, hexchanges⟩
    · intro h
      cases hprepare : c.prepare call token with
      | error fault => exact hunsent fault hprepare
      | ok q => exact absurd (hreach.1 ⟨q, hprepare⟩) h

/-! ### What all requests have in common -/

/-- A request has what it should have after some exchanges: the namespace, and the token unless it
is for a login. -/
def Follows (c : Client) (before : List Exchanged) (x : Exchanged) : Prop :=
  x.request.header? Endpoint.namespaceHeader = c.endpoint.namespaceName ∧
    (c.IsLogin x.request ∨ ∃ token, c.tokenAfter before = some token ∧
      x.request.header? Endpoint.tokenHeader = some token.expose)

/-- Every request has what it should have after the exchanges before it. -/
inductive Lawful (c : Client) : List Exchanged → Prop
  | nil : c.Lawful []
  | concat {xs : List Exchanged} {x : Exchanged} (h : c.Lawful xs) (hx : c.Follows xs x) :
      c.Lawful (xs ++ [x])

theorem Lawful.follows {before after : List Exchanged} (h : c.Lawful xs)
    (hxs : xs = before ++ x :: after) : c.Follows before x := by
  induction h generalizing after with
  | nil => simp at hxs
  | @concat xs y h hy ih =>
    rcases List.eq_nil_or_concat after with rfl | ⟨between, z, rfl⟩
    · obtain ⟨rfl, hsame⟩ := List.append_inj' hxs rfl
      obtain rfl := List.singleton_inj.1 hsame
      exact hy
    · have hsplit : xs ++ [y] = (before ++ x :: between) ++ [z] := by simpa using hxs
      exact ih (List.append_inj' hsplit rfl).1

theorem IsLogin.follows (h : c.IsLogin x.request) : c.Follows xs x := by
  refine ⟨?_, .inl h⟩
  rw [IsLogin] at h
  split at h
  · exact h.elim
  · exact Endpoint.header?_namespace h

theorem Lawful.append_logins {logins : List Exchanged} (h : c.Lawful xs)
    (hlength : logins.length ≤ 1) (hlogins : ∀ x ∈ logins, c.IsLogin x.request) :
    c.Lawful (xs ++ logins) := by
  cases logins with
  | nil => rwa [List.append_nil]
  | cons x rest =>
    obtain rfl : rest = [] :=
      List.length_eq_zero_iff.1 (Nat.le_zero.1 (Nat.le_of_succ_le_succ hlength))
    exact h.concat (hlogins x List.mem_cons_self).follows

/-- A session has made lawful exchanges and keeps no token but the one that requests carry after
them. -/
structure Minds (c : Client) (l : Link (Recorded ν)) : Prop where
  knows : c.Knows l
  lawful : c.Lawful l.outside.exchanges

/-- Every call minds. -/
theorem Minds.make {s : Scene (Link (Recorded ν))} (h : c.Minds s.state) (call : Backend.Call) :
    c.Minds (((c.backend net.recorded).make call).perform s).2.state := by
  obtain ⟨logins, hexchanges, hlength, hlogins, hknows⟩ := token_perform c net s
  obtain ⟨hknown, hobtained⟩ := hknows h.knows
  have hlawful := h.lawful.append_logins hlength hlogins
  rw [make_perform_snd]
  rcases hobtain : (c.token net.recorded).perform s with ⟨f | token, t⟩ <;>
    rw [hobtain] at hexchanges hknown hobtained <;> rw [← hexchanges] at hlawful hobtained
  · exact ⟨hknown, hlawful⟩
  show c.Minds (c.afterRequest net.recorded call token t).state
  cases hprepare : c.prepare call token with
  | error fault =>
    rw [afterRequest_of_error hprepare]
    exact ⟨hknown, hlawful⟩
  | ok q =>
    obtain ⟨hsession, hsent⟩ := afterRequest_of_ok hprepare
    have hcarried : q.header? Endpoint.tokenHeader = some token.value.expose :=
      Endpoint.header?_token hprepare
    constructor
    · intro known hknown'
      rw [hsession] at hknown'
      rw [hsent, tokenAfter_concat_of_none (by rw [Exchanged.issued?, hcarried]; rfl)]
      exact hknown known hknown'
    · rw [hsent]
      exact hlawful.concat ⟨Endpoint.header?_namespace hprepare,
        .inr ⟨token.value, hobtained token rfl, hcarried⟩⟩

/-! ### Visits -/

/-- Something that is done with a client, or happens elsewhere. -/
inductive Visit (ν : Type) where
  | get (r : SecretReference)
  | set (r : SecretReference) (d : SecretDocument)
  | credentials (path : String)
  /-- The server and the clock change. -/
  | meanwhile (change : ν → ν)

/-- Where a visit leads. -/
def Visit.perform (c : Client) (net : Network ν) (s : Scene (Link (Recorded ν))) :
    Visit ν → Scene (Link (Recorded ν))
  | .get r => ((KeyVault.get (c.backend net.recorded) r).perform s).2
  | .set r d => ((KeyVault.set (c.backend net.recorded) r d).perform s).2
  | .credentials path => ((DatabaseSource.read (c.backend net.recorded) path).perform s).2
  | .meanwhile change =>
    ⟨⟨s.state.session, change s.state.outside.outside, s.state.outside.exchanges⟩, s.log⟩

/-- What has been exchanged after some visits of a client that has just been built. -/
def transcript (c : Client) (net : Network ν) (start : ν) (visits : List (Visit ν)) :
    List Exchanged :=
  (visits.foldl (Visit.perform c net) ⟨⟨{}, ⟨start, []⟩⟩, []⟩).state.outside.exchanges

/-- A service that goes straight minds. -/
theorem Minds.straight {α : Type} {a : Action (Link (Recorded ν)) α} {s : Scene (Link (Recorded ν))}
    (ha : (c.backend net.recorded).Straight a) (hs : c.Minds s.state) :
    c.Minds (a.perform s).2.state := by
  obtain ⟨done, failed, hleads, -⟩ := ha s
  exact hleads.preserves (fun call _ ht ↦ ht.make call) hs

theorem Minds.visit {s : Scene (Link (Recorded ν))} (hs : c.Minds s.state) (v : Visit ν) :
    c.Minds (v.perform c net s).state := by
  cases v with
  | get r => exact hs.straight (Backend.straight_get r)
  | set r d => exact hs.straight (Backend.straight_set r d)
  | credentials path => exact hs.straight (Backend.straight_read path)
  | meanwhile change => exact ⟨hs.knows, hs.lawful⟩

/-- The transcript of every client is lawful. -/
theorem lawful_transcript (c : Client) (net : Network ν) (start : ν) (visits : List (Visit ν)) :
    c.Lawful (c.transcript net start visits) := by
  have hvisits : ∀ s : Scene (Link (Recorded ν)), c.Minds s.state →
      c.Minds (visits.foldl (Visit.perform c net) s).state := by
    induction visits with
    | nil => exact fun _ hs ↦ hs
    | cons v visits ih => exact fun s hs ↦ ih _ (hs.visit v)
  have hfresh : c.Minds (⟨{}, ⟨start, []⟩⟩ : Link (Recorded ν)) :=
    ⟨fun _ htoken ↦ (by cases htoken), .nil⟩
  exact (hvisits ⟨_, []⟩ hfresh).lawful

end Client

/-! ### Clients of a factory -/

namespace Factory

variable {σ : Type} {f : Factory} {config : ServerConfig} {env : Environment} {s t : Scene σ}

/-- An endpoint has the namespace of its configuration, unless that is empty. -/
theorem ofAddress_namespaceName {client : Http.Client} {address : String} :
    (Endpoint.ofAddress client address config.effectiveNamespace).namespaceName =
      config.effectiveNamespace := by
  simp [Endpoint.ofAddress, ServerConfig.effectiveNamespace, Option.filter_filter]

/-- An endpoint that was built is at the address that its configuration spells. -/
theorem exists_url_of_endpoint {e : Endpoint}
    (h : (f.endpoint config).perform s = (.ok e, t)) :
    ∃ u client, parseUrl config.url = .ok u ∧
      e = .ofAddress client u.render config.effectiveNamespace := by
  rw [endpoint] at h
  obtain ⟨url, _, hurl, h⟩ := Action.perform_bind_eq_ok_iff.1 h
  obtain ⟨_, _, -, h⟩ := Action.perform_bind_eq_ok_iff.1 h
  -- a namespace is logged, and then the client is built as without one
  have hclient : ∃ u, ((do
      let client ← Action.ofExcept (f.httpClient config)
      return .ofAddress client url.render config.effectiveNamespace :
        Action σ Endpoint)).perform u = (.ok e, t) := by
    split at h
    · obtain ⟨_, u, -, h⟩ := Action.perform_bind_eq_ok_iff.1 h
      exact ⟨u, h⟩
    · exact ⟨_, h⟩
  obtain ⟨u, h⟩ := hclient
  obtain ⟨client, _, -, h⟩ := Action.perform_bind_eq_ok_iff.1 h
  cases h
  exact ⟨url, client, congrArg Prod.fst hurl, rfl⟩

theorem endpoint_eq_ok {e : Endpoint} (h : (f.endpoint config).perform s = (.ok e, t)) :
    e.namespaceName = config.effectiveNamespace := by
  obtain ⟨u, client, -, rfl⟩ := exists_url_of_endpoint h
  exact ofAddress_namespaceName

/-- A client that was built sends its requests to an endpoint that was built. -/
theorem exists_endpoint_of_client {c : Client} (h : (f.client config env).perform s = (.ok c, t)) :
    ∃ s t : Scene σ, (f.endpoint config).perform s = (.ok c.endpoint, t) := by
  rw [client] at h
  obtain ⟨_, _, -, h⟩ := Action.perform_bind_eq_ok_iff.1 h
  obtain ⟨endpoint, _, hendpoint, h⟩ := Action.perform_bind_eq_ok_iff.1 h
  obtain ⟨method, _, -, h⟩ := Action.perform_bind_eq_ok_iff.1 h
  obtain ⟨_, _, -, h⟩ := Action.perform_bind_eq_ok_iff.1 h
  cases h
  exact ⟨_, _, hendpoint⟩

/-- What a client that was built goes by. -/
theorem client_eq_ok {c : Client} (h : (f.client config env).perform s = (.ok c, t)) :
    c.endpoint.namespaceName = config.effectiveNamespace ∧
      Authentication.ofEnvironment env config.approlePath = .ok c.method := by
  rw [client] at h
  obtain ⟨_, _, -, h⟩ := Action.perform_bind_eq_ok_iff.1 h
  obtain ⟨endpoint, _, hendpoint, h⟩ := Action.perform_bind_eq_ok_iff.1 h
  obtain ⟨method, _, hmethod, h⟩ := Action.perform_bind_eq_ok_iff.1 h
  obtain ⟨_, _, -, h⟩ := Action.perform_bind_eq_ok_iff.1 h
  cases h
  exact ⟨endpoint_eq_ok hendpoint, congrArg Prod.fst hmethod⟩

end Factory

/-- What the variables say of the method that they select. -/
theorem Authentication.ofEnvironment_eq_ok {env : Environment} {approlePath : String}
    {method : Authentication} (h : ofEnvironment env approlePath = .ok method) :
    (∀ value, method = .token value → env.get? Variable.token = some value.expose) ∧
      ∀ path roleId secretId, method = .approle path roleId secretId →
        path = approlePath ∧ env.get? Variable.roleId = some roleId.expose ∧
          env.get? Variable.secretId = some secretId.expose := by
  rw [ofEnvironment] at h
  split at h
  next hrole hsecret =>
    cases h
    refine ⟨nofun, fun path roleId secretId heq ↦ ?_⟩
    cases heq
    exact ⟨rfl, hrole, hsecret⟩
  next htoken =>
    cases h
    refine ⟨fun value heq ↦ ?_, nofun⟩
    cases heq
    exact htoken
  next => cases h
  next => cases h

namespace Client

/-- However a client that was built is used, whatever the server answers and wherever the clock
goes: every request carries the namespace; with a token that was given every request carries it, and
none is for a login; with an application role a request is for a login, and carries no token, or it
carries the token of the last login that succeeded. A call makes one request for a login at most,
and its own request follows once, if it has obtained a token and its target can be reached, and not
at all otherwise. The services consist of calls, and make none after one that has failed. -/
theorem transcript_law {σ ν : Type} (f : Factory) (config : ServerConfig) (env : Environment)
    (s t : Scene σ) (c : Client) (hclient : (f.client config env).perform s = (.ok c, t))
    (hnamespace : ∀ n ∈ config.effectiveNamespace, isHeaderValue n = true) (net : Network ν) :
    (∀ (start : ν) (visits : List (Visit ν)),
      (∀ x ∈ c.transcript net start visits,
        x.request.header? Endpoint.namespaceHeader = config.effectiveNamespace) ∧
      (∀ value, c.method = .token value → env.get? Variable.token = some value.expose ∧
        ∀ x ∈ c.transcript net start visits, ¬ c.IsLogin x.request ∧
          x.request.header? Endpoint.tokenHeader = some value.expose) ∧
      ∀ path roleId secretId, c.method = .approle path roleId secretId →
        path = config.approlePath ∧ ∀ before x after,
          c.transcript net start visits = before ++ x :: after →
            (c.endpoint.prepare .post ("auth/" ++ path ++ "/login") none
                (some (Authentication.loginBody roleId secretId)) = .ok x.request ∧
              x.request.header? Endpoint.tokenHeader = none) ∨
            ∃ token, lastIssued? before = some token ∧
              x.request.header? Endpoint.tokenHeader = some token.expose) ∧
    (∀ (call : Backend.Call) (s : Scene (Link (Recorded ν))),
      ∃ logins : List Exchanged, logins.length ≤ 1 ∧ (∀ x ∈ logins, c.IsLogin x.request) ∧
        match ((c.token net.recorded).perform s).1 with
        | .error _ => c.exchangesAfter net call s = s.state.outside.exchanges ++ logins
        | .ok token => isHeaderValue token.value.expose = true →
          (Reachable (c.endpoint.url (pathOf call)) →
            ∃ q response, c.prepare call token = .ok q ∧ c.exchangesAfter net call s =
              s.state.outside.exchanges ++ logins ++ [⟨q, response⟩]) ∧
          (¬ Reachable (c.endpoint.url (pathOf call)) →
            c.exchangesAfter net call s = s.state.outside.exchanges ++ logins)) ∧
    (∀ r, (c.backend net.recorded).Straight (KeyVault.get (c.backend net.recorded) r)) ∧
    (∀ r d, (c.backend net.recorded).Straight (KeyVault.set (c.backend net.recorded) r d)) ∧
    ∀ path, (c.backend net.recorded).Straight
      (DatabaseSource.read (c.backend net.recorded) path) := by
  obtain ⟨hname, hmethod⟩ := Factory.client_eq_ok hclient
  obtain ⟨htoken, hrole⟩ := Authentication.ofEnvironment_eq_ok hmethod
  refine ⟨fun start visits ↦ ?_, fun call s ↦ ?_, Backend.straight_get, Backend.straight_set,
    Backend.straight_read⟩
  · have hlawful := lawful_transcript c net start visits
    have hfollows : ∀ x ∈ c.transcript net start visits, ∃ before, c.Follows before x := by
      intro x hx
      obtain ⟨before, after, hsplit⟩ := List.append_of_mem hx
      exact ⟨before, hlawful.follows hsplit⟩
    refine ⟨fun x hx ↦ ?_, fun value hvalue ↦ ⟨htoken value hvalue, fun x hx ↦ ?_⟩,
      fun path roleId secretId hids ↦ ⟨(hrole _ _ _ hids).1, fun before x after hsplit ↦ ?_⟩⟩
    · obtain ⟨_, hx, -⟩ := hfollows x hx
      exact hx.trans hname
    · have hnone : ¬ c.IsLogin x.request := by
        rw [IsLogin, hvalue]
        exact id
      obtain ⟨_, -, hlogin | ⟨token, hafter, hcarried⟩⟩ := hfollows x hx
      · exact absurd hlogin hnone
      · rw [tokenAfter, hvalue] at hafter
        obtain rfl := Option.some.inj hafter
        exact ⟨hnone, hcarried⟩
    · obtain ⟨-, hlogin | ⟨token, hafter, hcarried⟩⟩ := hlawful.follows hsplit
      · refine .inl ⟨?_, hlogin.header?_eq⟩
        rwa [IsLogin, hids] at hlogin
      · rw [tokenAfter, hids] at hafter
        exact .inr ⟨token, hafter, hcarried⟩
  · exact call_exchanges_of_legal c net (hname ▸ hnamespace) call s

/-- The variables of an environment with a token that was given. -/
def givenToken : Environment := NameMap.empty.insert Variable.token "s.static"

/-- A network that answers every request with the status for what is not there. -/
def absent : Network Unit where
  exchange _ s := (some ⟨404, .whole []⟩, s)
  now _ := ⟨0⟩
  explain _ _ := "expected value at line 1 column 1"

/-- The variables of an environment with the ids of an application role. -/
def givenRole : Environment :=
  (NameMap.empty.insert Variable.roleId "role").insert Variable.secretId "secret"

/-- A network that issues a token to whoever comes without one and has nothing else. -/
def issuing : Network Unit where
  exchange q s :=
    if (q.header? Endpoint.tokenHeader).isNone then
      (some ⟨200, .whole (Utf8.encode
        "\x7b\"auth\":\x7b\"client_token\":\"s.issued\",\"lease_duration\":3600\x7d\x7d")⟩, s)
    else (some ⟨404, .whole []⟩, s)
  now _ := ⟨0⟩
  explain _ _ := "expected value at line 1 column 1"

/-- Two visits to the same secret. -/
def twice : List (Visit Unit) :=
  [.get ⟨"kv", "doc", "id", none, none, none⟩, .get ⟨"kv", "doc", "id", none, none, none⟩]

/-- A server in a namespace. -/
def inNamespace : ServerConfig := { url := "http://vault.test", namespaceName := some "team" }

set_option maxRecDepth 8000 in
/-- Clients of a server in a namespace. With a token that was given every request carries it. With an
application role the first request is for a login, and those that follow carry what it issued. -/
theorem transcript_law_of_both_methods :
    (∃ c t, ((⟨{}, .bare⟩ : Factory).client inNamespace givenToken).perform
        (⟨(), []⟩ : Scene Unit) = (.ok c, t) ∧
      (∀ x ∈ c.transcript absent () twice,
        x.request.header? Endpoint.namespaceHeader = some "team" ∧
          x.request.header? Endpoint.tokenHeader = some "s.static")) ∧
    ∃ c t, ((⟨{}, .bare⟩ : Factory).client inNamespace givenRole).perform
        (⟨(), []⟩ : Scene Unit) = (.ok c, t) ∧
      (∀ x ∈ c.transcript issuing () twice,
        x.request.header? Endpoint.namespaceHeader = some "team") ∧
      (∀ before x after, c.transcript issuing () twice = before ++ x :: after →
        (c.IsLogin x.request ∧ x.request.header? Endpoint.tokenHeader = none) ∨
          ∃ token, lastIssued? before = some token ∧
            x.request.header? Endpoint.tokenHeader = some token.expose) ∧
      (c.transcript issuing () twice).map (·.request.header? Endpoint.tokenHeader) =
        [none, some "s.issued", some "s.issued"] := by
  have hlegal : ∀ n ∈ inNamespace.effectiveNamespace, isHeaderValue n = true := fun n hn ↦ by
    obtain rfl := Option.some.inj hn
    decide
  constructor
  · have hclient : ((⟨{}, .bare⟩ : Factory).client inNamespace givenToken).perform
        (⟨(), []⟩ : Scene Unit) = (.ok ⟨⟨⟨"vault-credentials-rust/1.0"⟩, "http://vault.test",
          some "team"⟩, .token ⟨"s.static"⟩⟩, _) := rfl
    obtain ⟨htranscript, -⟩ := transcript_law _ _ _ _ _ _ hclient hlegal absent
    obtain ⟨hnamespace, htoken, -⟩ := htranscript () twice
    exact ⟨_, _, hclient, fun x hx ↦ ⟨hnamespace x hx, ((htoken _ rfl).2 x hx).2⟩⟩
  · have hclient : ((⟨{}, .bare⟩ : Factory).client inNamespace givenRole).perform
        (⟨(), []⟩ : Scene Unit) = (.ok ⟨⟨⟨"vault-credentials-rust/1.0"⟩, "http://vault.test",
          some "team"⟩, .approle "approle" ⟨"role"⟩ ⟨"secret"⟩⟩, _) := rfl
    obtain ⟨htranscript, -⟩ := transcript_law _ _ _ _ _ _ hclient hlegal issuing
    obtain ⟨hnamespace, -, hrole⟩ := htranscript () twice
    exact ⟨_, _, hclient, hnamespace, (hrole _ _ _ rfl).2, by decide +kernel⟩

/-- A client of a server whose host may stand in a URL and not in a request. -/
def unroutable : Client :=
  ⟨⟨⟨"vault-credentials-rust/1.0"⟩, "http://a\x60b", none⟩, .token ⟨"s.static"⟩⟩

set_option maxRecDepth 8000 in
/-- Where the host is one that no request can be sent to, a call that has obtained a token sends
nothing. -/
theorem unsent_of_unroutable_host :
    ¬ ∀ (f : Factory) (config : ServerConfig) (env : Environment) (c : Client) (s t : Scene Unit),
      (f.client config env).perform s = (.ok c, t) →
      (∀ n ∈ config.effectiveNamespace, isHeaderValue n = true) →
      ∀ (net : Network Unit) (call : Backend.Call) (s t : Scene (Link (Recorded Unit)))
        (token : SessionToken), (c.token net.recorded).perform s = (.ok token, t) →
        isHeaderValue token.value.expose = true →
          ∃ x, c.exchangesAfter net call s = t.state.outside.exchanges ++ [x] := by
  intro h
  have hclient : ∃ t, ((⟨{}, .bare⟩ : Factory).client { url := "http://a\x60b/" } givenToken).perform
      (⟨(), []⟩ : Scene Unit) = (.ok unroutable, t) := ⟨_, rfl⟩
  have htoken : ∃ t, (unroutable.token absent.recorded).perform ⟨⟨{}, ⟨(), []⟩⟩, []⟩ =
      (.ok ⟨⟨"s.static"⟩, ⟨0⟩, none⟩, t) := ⟨_, rfl⟩
  have hnothing : unroutable.exchangesAfter absent (.read "kv" "doc" none)
      ⟨⟨{}, ⟨(), []⟩⟩, []⟩ = [] := rfl
  obtain ⟨_, hclient⟩ := hclient
  obtain ⟨_, htoken⟩ := htoken
  obtain ⟨x, hx⟩ := h _ _ _ _ _ _ hclient (by simp [ServerConfig.effectiveNamespace]) absent
    (.read "kv" "doc" none) _ _ _ htoken (by decide)
  rw [hnothing] at hx
  exact List.cons_ne_nil _ _ (List.append_eq_nil_iff.1 hx.symm).2

end Client

end VaultAccess
