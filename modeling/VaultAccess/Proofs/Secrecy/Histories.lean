import VaultAccess.Proofs.Secrecy.Programs

/-!
# Histories that look alike

The secrets that go into operations are the ids of application roles and the tokens that are found
in the environment, the tokens and the keys that an administrator brings, the tokens that servers
issue and the passwords that they give out. Two histories that differ in nothing but these look
alike (`secrets_unobservable`): only the requests differ, and only in their token headers, in the
ids of logins and in unseal keys.

It is proved of one operation after the other (`Desk.perform_alike`), for which the parts that
programs are made of have been prepared, and then of a whole history by induction. Between two
operations nothing of the server is left but its clock.
-/

namespace VaultAccess

open VaultAccess.Action Http Rotation

/-! ### Histories that are alike -/

variable {π : Type} {R : π → π → Prop} {pool : Pool π} {words : Reply.Kind → List UInt8 → String}

/-- Two operations are alike: they differ at most in secrets. -/
inductive Operation.Alike (R : π → π → Prop) : Operation π → Operation π → Prop
  | keyVault (i : Nat) (f : Factory) (c : ServerConfig) {env env' : Environment}
      (h : env.Alike env') : Alike R (.keyVault i f c env) (.keyVault i f c env')
  | databaseSource (i : Nat) (f : Factory) (c : DatabaseConfig) {env env' : Environment}
      (h : env.Alike env') : Alike R (.databaseSource i f c env) (.databaseSource i f c env')
  | admin (i : Nat) (f : Factory) (c : ServerConfig) : Alike R (.admin i f c) (.admin i f c)
  | get (i : Nat) (r : SecretReference) : Alike R (.get i r) (.get i r)
  | set (i : Nat) (r : SecretReference) (d : SecretDocument) : Alike R (.set i r d) (.set i r d)
  | fetch (i : Nat) : Alike R (.fetch i) (.fetch i)
  | administer (i : Nat) {task task' : Admin.Task} (h : task.Alike task') :
      Alike R (.administer i task) (.administer i task')
  | createPool (i service : Nat) (settings : Rotation.Settings)
      {build : Credentials → Except Chain π} (h : DiscreetBuild R build) :
      Alike R (.createPool i service settings build) (.createPool i service settings build)
  | manage (i : Nat) (settings : Rotation.Settings) {p p' : π} (h : R p p') :
      Alike R (.manage i settings p) (.manage i settings p')
  | move (i : Nat) {m m' : Move} (h : m.Alike m') : Alike R (.move i m) (.move i m')
  | rotate (i : Nat) (loop : Option Nat) (service : Nat) :
      Alike R (.rotate i loop service) (.rotate i loop service)
  | pass (millis : Nat) : Alike R (.pass millis) (.pass millis)

/-- What responses to requests other than logins may differ in: in passwords, where database
credentials are fetched. -/
def Operation.AlikeResponses : Operation π → Response → Response → Prop
  | .fetch _ => AlikeCredentials
  | .createPool _ _ _ _ => AlikeCredentials
  | .rotate _ _ _ => AlikeCredentials
  | _ => Eq

/-- Two steps are alike. -/
structure Step.Alike (R : π → π → Prop) (x x' : Step π) : Prop where
  operation : x.operation.Alike R x'.operation
  logins : List.Forall₂ (Answer.Alike AlikeLogins) x.logins x'.logins
  others : List.Forall₂ (Answer.Alike x.operation.AlikeResponses) x.others x'.others

/-- Two observations are alike: but for what requests may differ in, they are the same. -/
structure Observation.Alike (o o' : Observation) : Prop where
  outcome : o.outcome = o'.outcome
  events : o.events = o'.events
  requests : List.Forall₂ Request.Alike o.requests o'.requests

/-- Two services are alike. -/
structure Service.Alike (s s' : Service) : Prop where
  client : s.client.Alike s'.client
  path : s.path = s'.path
  session : s.session.Alike s'.session

/-- Two programs have things in hand that are alike, and talk to servers that are alike. -/
structure Desk.Alike (R : π → π → Prop) (V : Response → Response → Prop) (d d' : Desk π) :
    Prop where
  services : ∀ i, Option.Rel Service.Alike (d.services i) (d'.services i)
  admins : d.admins = d'.admins
  systems : ∀ i, Option.Rel (System.Alike R) (d.systems i) (d'.systems i)
  server : Recorded.Alike (Server.Alike V) d.server d'.server

theorem rel_update {α : Type} {P : α → α → Prop} {f g : Nat → Option α}
    (h : ∀ i, Option.Rel P (f i) (g i)) (i : Nat) {x y : α} (hxy : P x y) (j : Nat) :
    Option.Rel P (Function.update f i (some x) j) (Function.update g i (some y) j) := by
  rw [Function.update_apply, Function.update_apply]
  split
  · exact .some hxy
  · exact h j

theorem Action.alike_appendLog {σ τ : Type} {S : σ → τ → Prop} (log : List Event) :
    Action.Alike S Eq (appendLog log) (appendLog log) :=
  fun _ _ hs ↦ ⟨.ok rfl, hs.state, congrArg (log ++ ·) hs.log⟩

namespace Desk

variable {V : Response → Response → Prop} {d d' : Desk π}

/-- The network that every operation uses. -/
theorem network_alike : (Server.network words).recorded.Alike (Recorded.Alike (Server.Alike V))
    (AlikeAnswers V) (Server.network words).recorded :=
  (Server.network_alike words).recorded

/-- Services that are alike may be kept in the place of each other. -/
theorem keepService_alike (i : Nat) {s s' : Service} (h : s.Alike s') :
    Action.Alike (Desk.Alike R V) Eq (keepService i s) (keepService i s') := by
  refine Alike.then (alike_modifyState fun d d' hd ↦ ?_) (alike_pure ?_)
  · exact ⟨rel_update hd.services i h, hd.admins, hd.systems, hd.server⟩
  · rw [h.client.method.shown_eq, h.path]

theorem withService_alike {α β : Type} {W : α → β → Prop} (i : Nat)
    {use : Service → Action (Link (Recorded Server)) α}
    {use' : Service → Action (Link (Recorded Server)) β}
    (h : ∀ s s', s.Alike s' →
      Action.Alike (Link.Alike (Recorded.Alike (Server.Alike V))) W (use s) (use' s')) :
    Action.Alike (Desk.Alike R V) (Option.Rel W) (withService i use) (withService i use') := by
  refine alike_state.bind fun d d' hd ↦ ?_
  have hservice := hd.services i
  generalize d.services i = o, d'.services i = o' at hservice ⊢
  cases hservice with
  | none => exact alike_pure .none
  | @some s s' hs =>
    refine Alike.bind (V := W) ?_ fun _ _ hx ↦ alike_pure (.some hx)
    refine (h s s' hs).within (fun d d' hd ↦ ⟨hs.session, hd.server⟩) fun d d' l l' hd hl ↦ ?_
    exact ⟨rel_update hd.services i ⟨hs.client, hs.path, hl.session⟩, hd.admins, hd.systems,
      hl.outside⟩

/-- What a service fetches for a rotation is alike, as credentials are. -/
theorem fetched_alike (i : Nat) :
    Action.Alike (Desk.Alike R AlikeCredentials) (Option.Rel (AlikeOutcomes Credentials.Alike))
      (fetched words i) (fetched words i) := by
  refine withService_alike i fun s s' hs ↦ Alike.attempt ?_
  rw [hs.path]
  exact DatabaseSource.read_alike (hs.client.readCredentials network_alike)

/-- A task of administration yields the same, whatever its secrets are. -/
theorem administer_alike (i : Nat) {task task' : Admin.Task} (h : task.Alike task') :
    Action.Alike (Desk.Alike R Eq) Eq (administer words i task) (administer words i task') := by
  refine alike_state.bind fun d d' hd ↦ ?_
  rw [hd.admins]
  cases d'.admins i with
  | none => exact alike_pure rfl
  | some e =>
    refine Alike.bind_eq ?_ fun _ ↦ alike_pure rfl
    exact (h.run e network_alike).within (fun _ _ hd ↦ hd.server) fun _ _ _ _ hd hs ↦
      ⟨hd.services, hd.admins, hd.systems, hs⟩

theorem keepSystem_alike (i : Nat) {s s' : System π} (h : s.Alike R s') :
    Action.Alike (Desk.Alike R V) Eq (keepSystem i s) (keepSystem i s') := by
  unfold keepSystem
  rw [h.log]
  refine (alike_appendLog _).then 
    (Alike.then (alike_modifyState fun d d' hd ↦ ?_) (alike_pure (congrArg _ h.manager)))
  have hsystem : System.Alike R { s with log := [] } { s' with log := [] } :=
    ⟨h.manager, h.pool, h.now, h.calls, rfl⟩
  exact ⟨hd.services, hd.admins, rel_update hd.systems i hsystem, hd.server⟩

/-- A pool is created in both histories or in neither, with the same report. -/
theorem createPool_alike (i : Nat) (settings : Rotation.Settings)
    {build : Credentials → Except Chain π} (hbuild : DiscreetBuild R build)
    {fetched fetched' : Except Failure Credentials}
    (h : AlikeOutcomes Credentials.Alike fetched fetched') :
    Action.Alike (Desk.Alike R V) Eq (createPool i settings build fetched)
      (createPool i settings build fetched') := by
  refine alike_state.bind fun d d' hd ↦ ?_
  rw [hd.server.outside.now]
  have hcreated := System.create_alike settings d'.server.outside.now hbuild h
  generalize System.create settings _ fetched build = r at hcreated ⊢
  generalize System.create settings _ fetched' build = r' at hcreated ⊢
  cases hcreated with
  | error c => exact alike_pure rfl
  | ok h => exact keepSystem_alike i h

/-- What happens to a manager is seen alike. -/
theorem move_alike (hpool : pool.Discreet R) (i : Nat) {m m' : Move} (h : m.Alike m') :
    Action.Alike (Desk.Alike R V) Eq (move pool i m) (move pool i m') := by
  refine alike_state.bind fun d d' hd ↦ ?_
  have hstep : Option.Rel (System.Alike R) ((d.systems i).bind (·.step pool m))
      ((d'.systems i).bind (·.step pool m')) := by
    have hsystem := hd.systems i
    generalize d.systems i = o, d'.systems i = o' at hsystem ⊢
    cases hsystem with
    | none => exact .none
    | some hs => exact hs.step hpool h
  generalize (d.systems i).bind _ = o, (d'.systems i).bind _ = o' at hstep ⊢
  cases hstep with
  | none => exact alike_pure rfl
  | some h => exact keepSystem_alike i h

/-- Operations that are alike are performed alike. -/
theorem perform_alike (hpool : pool.Discreet R) {o o' : Operation π} (h : o.Alike R o') :
    Action.Alike (Desk.Alike R o.AlikeResponses) Eq (perform words pool o)
      (perform words pool o') := by
  -- the session of a service that was just built
  have hfresh : Session.Alike {} {} := ⟨.none, rfl, rfl⟩
  cases h with
  | keyVault i f c h =>
    exact (Factory.client_alike h c).bind fun _ _ hc ↦ keepService_alike i ⟨hc, rfl, hfresh⟩
  | databaseSource i f c h =>
    exact (Factory.databaseSource_alike h c).bind fun _ _ ⟨hc, hpath⟩ ↦
      keepService_alike i ⟨hc, hpath, hfresh⟩
  | admin i f c =>
    refine (Factory.endpoint_alike c).bind_eq fun e ↦ ?_
    refine Alike.then (alike_modifyState fun d d' hd ↦ ?_) (alike_pure rfl)
    exact ⟨hd.services, congrArg (Function.update · i (some e)) hd.admins, hd.systems, hd.server⟩
  | get i r =>
    refine Alike.bind (withService_alike i fun s s' hs ↦
      KeyVault.get_alike (hs.client.backend network_alike) r) fun _ _ htext ↦ alike_pure ?_
    cases htext with
    | none => rfl
    | some h => rw [h]
  | set i r d =>
    refine Alike.bind (withService_alike i fun s s' hs ↦
      KeyVault.set_alike (hs.client.backend network_alike) r d) fun _ _ hstored ↦ alike_pure ?_
    cases hstored with
    | none => rfl
    | some h => rw [h]
  | fetch i =>
    refine (fetched_alike i).bind fun r r' hr ↦ ?_
    cases hr with
    | none => exact alike_pure rfl
    | some hr =>
      refine (alike_ofExcept hr).bind fun c c' hc ↦ alike_pure ?_
      rw [hc.username, hc.lease, hc.shown_eq]
  | administer i h => exact administer_alike i h
  | createPool i service settings hbuild =>
    refine (fetched_alike service).bind fun r r' hr ↦ ?_
    cases hr with
    | none => exact alike_pure rfl
    | some hr => exact createPool_alike i settings hbuild hr
  | manage i settings hp =>
    refine alike_state.bind fun d d' hd ↦ keepSystem_alike i ?_
    exact ⟨rfl, hp, hd.server.outside.now, rfl, rfl⟩
  | move i h => exact move_alike hpool i h
  | rotate i loop service =>
    refine (fetched_alike service).bind fun r r' hr ↦ ?_
    cases hr with
    | none => exact alike_pure rfl
    | some hr =>
      cases loop with
      | none => exact move_alike hpool i (.finishCall hr)
      | some loop => exact move_alike hpool i (.finish loop hr)
  | pass millis =>
    refine Alike.then (alike_modifyState fun d d' hd ↦ ?_) (alike_pure rfl)
    obtain ⟨⟨hlogins, hothers, hnow⟩, hrequests⟩ := hd.server
    exact ⟨hd.services, hd.admins, hd.systems,
      ⟨⟨hlogins, hothers, congrArg (·.after millis) hnow⟩, hrequests⟩⟩

/-- Answers that are alike leave programs alike with them. -/
theorem Alike.load (hd : d.Alike R V d') {W : Response → Response → Prop}
    {logins logins' others others' : List Answer}
    (hlogins : List.Forall₂ (Answer.Alike AlikeLogins) logins logins')
    (hothers : List.Forall₂ (Answer.Alike W) others others') :
    (d.load logins others).Alike R W (d'.load logins' others') :=
  ⟨hd.services, hd.admins, hd.systems, ⟨hlogins, hothers, hd.server.outside.now⟩, .nil⟩

/-- What can be seen of steps that are alike is alike, whatever was there before them. -/
theorem observe_alike (hpool : pool.Discreet R) {xs xs' : List (Step π)}
    (h : List.Forall₂ (Step.Alike R) xs xs') (hd : d.Alike R V d') :
    List.Forall₂ Observation.Alike (d.observe words pool xs) (d'.observe words pool xs') := by
  -- what responses may differ in changes from step to step, so it is not fixed in the induction
  induction h generalizing d d' V with
  | nil => exact .nil
  | @cons x x' xs xs' hx _ ih =>
    obtain ⟨houtcome, hscene⟩ := perform_alike hpool hx.operation
      ⟨d.load x.logins x.others, []⟩ ⟨d'.load x'.logins x'.others, []⟩
      ⟨hd.load hx.logins hx.others, rfl⟩
    refine .cons ⟨houtcome.eq, congrArg List.reverse hscene.log, ?_⟩ (ih hscene.state)
    exact List.forall₂_map_left_iff.2 (List.forall₂_map_right_iff.2 hscene.state.server.requests)

end Desk

/-- Secrets do not influence what can be seen. Two histories from the beginning of a program that
differ at most in the ids of application roles and the tokens in the environment, in the tokens and
the keys of an administrator, in the tokens that logins yield and in the passwords that are fetched,
end in the same, log the same and send the same requests, but for the token headers, the ids in
logins and the unseal keys. -/
theorem secrets_unobservable (R : π → π → Prop) (pool : Pool π) (hpool : pool.Discreet R)
    (words : Reply.Kind → List UInt8 → String) (xs xs' : List (Step π))
    (h : List.Forall₂ (Step.Alike R) xs xs') :
    List.Forall₂ Observation.Alike (({} : Desk π).observe words pool xs)
      (({} : Desk π).observe words pool xs') :=
  Desk.observe_alike hpool h (V := Eq)
    ⟨fun _ ↦ .none, rfl, fun _ ↦ .none, ⟨⟨.nil, .nil, rfl⟩, .nil⟩⟩

/-- Values of secrets. -/
structure Secrets where
  roleId : String
  secretId : String
  token : String
  key : String
  issued : String
  password : String

namespace Secrets

/-- An answer that comes at once. -/
def answer (body : String) : Answer := ⟨some ⟨200, .whole (Utf8.encode body)⟩, 0⟩

/-- The answer to a login. -/
def login (x : Secrets) : Answer :=
  answer ("\x7b\"auth\":\x7b\"client_token\":\"" ++ x.issued ++
    "\",\"lease_duration\":3600\x7d\x7d")

/-- The answer that database credentials are read from. -/
def user (x : Secrets) : Answer :=
  answer ("\x7b\"data\":\x7b\"username\":\"u\",\"password\":\"" ++ x.password ++
    "\"\x7d,\"lease_duration\":60\x7d")

/-- A program reads a secret, has a pool whose credentials rotate, and unseals a server. -/
def history (x : Secrets) : List (Step RecordedPool) := [
  ⟨.keyVault 0 ⟨{}, .bare⟩ { url := "http://vault.test" }
    ((NameMap.empty.insert Variable.roleId x.roleId).insert Variable.secretId x.secretId), [], []⟩,
  ⟨.get 0 ⟨"kv", "doc", "id", none, none, none⟩, [x.login],
    [answer "\x7b\"data\":\x7b\"data\":\x7b\"id\":\"v\"\x7d\x7d\x7d"]⟩,
  ⟨.databaseSource 1 ⟨{}, .bare⟩ { url := some "http://vault.test", role := some "r" }
    (NameMap.empty.insert Variable.token x.token), [], []⟩,
  ⟨.createPool 0 1 {} fun _ ↦ .ok {}, [], [x.user]⟩,
  ⟨.move 0 .call, [], []⟩,
  ⟨.rotate 0 none 1, [], [x.user]⟩,
  ⟨.admin 0 ⟨{}, .bare⟩ { url := "http://vault.test" }, [], []⟩,
  ⟨.administer 0 (.submitKey ⟨x.key⟩), [], [answer "\x7b\"sealed\":false\x7d"]⟩]

/-- Some secrets. -/
def some₁ : Secrets := ⟨"role", "secret", "s.static", "key", "s.issued", "password"⟩

/-- Other secrets, some of which are longer or shorter. -/
def some₂ : Secrets := ⟨"other", "another", "s.given", "a key", "s.new", "pass"⟩

theorem login_alike : Answer.Alike AlikeLogins some₁.login some₂.login := by
  have htokens : Reply.Login.Alike ⟨⟨"s.issued"⟩, 3600, false, []⟩ ⟨⟨"s.new"⟩, 3600, false, []⟩ :=
    ⟨by decide, rfl, rfl⟩
  exact ⟨.some (.of_read (by decide +kernel) (by decide +kernel) (by decide +kernel)
    (by decide +kernel) htokens), rfl⟩

theorem user_alike : Answer.Alike AlikeCredentials some₁.user some₂.user := by
  have hpasswords : Reply.Database.Alike ⟨some ⟨"u", ⟨"password"⟩, none⟩, "", 60, false⟩
      ⟨some ⟨"u", ⟨"pass"⟩, none⟩, "", 60, false⟩ := ⟨.some ⟨rfl, rfl⟩, rfl⟩
  exact ⟨.some (.of_read (by decide +kernel) (by decide +kernel) (by decide +kernel)
    (by decide +kernel) hpasswords), rfl⟩

end Secrets

/-- A program with some secrets looks like the same program with others. -/
theorem secrets_unobservable_of_other_secrets :
    RecordedPool.hooks.Discreet RecordedPool.Alike ∧
      List.Forall₂ (Step.Alike RecordedPool.Alike) Secrets.some₁.history Secrets.some₂.history ∧
      List.Forall₂ Observation.Alike
        (({} : Desk RecordedPool).observe (fun _ _ ↦ "expected value at line 1 column 1")
          RecordedPool.hooks Secrets.some₁.history)
        (({} : Desk RecordedPool).observe (fun _ _ ↦ "expected value at line 1 column 1")
          RecordedPool.hooks Secrets.some₂.history) := by
  have hsame : ∀ body, Answer.Alike Eq (Secrets.answer body) (Secrets.answer body) :=
    fun _ ↦ ⟨.some rfl, rfl⟩
  have hsteps : List.Forall₂ (Step.Alike RecordedPool.Alike) Secrets.some₁.history
      Secrets.some₂.history :=
    .cons ⟨.keyVault _ _ _ ⟨.some trivial, .some trivial, .none⟩, .nil, .nil⟩
    (.cons ⟨.get _ _, .cons Secrets.login_alike .nil, .cons (hsame _) .nil⟩
    (.cons ⟨.databaseSource _ _ _ ⟨.none, .none,
      .some (by decide : Secret.Alike ⟨"s.static"⟩ ⟨"s.given"⟩)⟩, .nil, .nil⟩
    (.cons ⟨.createPool _ _ _ fun _ _ _ ↦ .ok ⟨.nil, rfl⟩, .nil, .cons Secrets.user_alike .nil⟩
    (.cons ⟨.move _ (.same rfl), .nil, .nil⟩
    (.cons ⟨.rotate _ _ _, .nil, .cons Secrets.user_alike .nil⟩
    (.cons ⟨.admin _ _ _, .nil, .nil⟩
    (.cons ⟨.administer _ (.submitKey _ _), .nil, .cons (hsame _) .nil⟩ .nil)))))))
  exact ⟨RecordedPool.hooks_discreet, hsteps,
    secrets_unobservable _ _ RecordedPool.hooks_discreet _ _ _ hsteps⟩

end VaultAccess
