import VaultAccess.Factory
import VaultAccess.Proofs.Actions
import VaultAccess.Proofs.Config.Agreement

/-!
# What is wrong first

A service is built from an environment and a configuration, and several things may be wrong with
them at once. Each check is described on its own, by the failures that it has, whatever the others
say. Building then fails with what the first check in a fixed order has, and there is a client
exactly if no check has anything (`Factory.FirstOf`, `Factory.Builds`).

The variables of the environment are looked at twice, by functions with messages of their own. Both
accept the same environments (`Authentication.checkEnvironment_eq_ok_iff`), so the second never has
the last word and is no check in that order.
-/

namespace VaultAccess

/-! ### The variables of the environment -/

namespace Environment

variable {env : Environment} {name : String}

/-- A variable is set, be it to the empty text. -/
def Sets (env : Environment) (name : String) : Prop := ∃ value, env.get? name = some value

/-- What is wrong with the variables of an environment. -/
inductive Faulty (env : Environment) : Failure → Prop
  /-- None is set. -/
  | none (hrole : ¬ env.Sets Variable.roleId) (hsecret : ¬ env.Sets Variable.secretId)
      (htoken : ¬ env.Sets Variable.token) : Faulty env (.authentication .noMethod)
  /-- Of the two that belong together one is set. -/
  | half (h : env.Sets Variable.roleId ↔ ¬ env.Sets Variable.secretId) :
      Faulty env (.authentication .halfPair)

theorem not_sets_iff : ¬ env.Sets name ↔ env.get? name = .none := by
  rw [Sets, ← Option.isSome_iff_exists, Option.not_isSome_iff_eq_none]

end Environment

namespace Authentication

variable {env : Environment} {path : String} {method : Authentication} {e : Failure}

/-- The method that an environment selects: the role if both of its variables are set, and the token
if it is set and neither of the two is. -/
inductive Selects (env : Environment) (path : String) : Authentication → Prop
  | approle {roleId secretId : String} (hrole : env.get? Variable.roleId = some roleId)
      (hsecret : env.get? Variable.secretId = some secretId) :
      Selects env path (.approle path ⟨roleId⟩ ⟨secretId⟩)
  | token {value : String} (hrole : ¬ env.Sets Variable.roleId)
      (hsecret : ¬ env.Sets Variable.secretId) (htoken : env.get? Variable.token = some value) :
      Selects env path (.token ⟨value⟩)

/-- The method is the one that the variables select. -/
theorem ofEnvironment_eq_ok_iff :
    ofEnvironment env path = .ok method ↔ Selects env path method := by
  constructor
  · intro h
    rw [ofEnvironment] at h
    split at h
    next hrole hsecret =>
      cases h
      exact .approle hrole hsecret
    next hrole hsecret htoken =>
      cases h
      exact .token (Environment.not_sets_iff.2 hrole) (Environment.not_sets_iff.2 hsecret) htoken
    next => cases h
    next => cases h
  · rintro (⟨hrole, hsecret⟩ | ⟨hrole, hsecret, htoken⟩)
    · simp [ofEnvironment, hrole, hsecret]
    · rw [Environment.not_sets_iff] at hrole hsecret
      simp [ofEnvironment, hrole, hsecret, htoken]

/-- The role is selected exactly if both of its variables are set. -/
theorem exists_approle_iff :
    (∃ roleId secretId, ofEnvironment env path = .ok (.approle path roleId secretId)) ↔
      env.Sets Variable.roleId ∧ env.Sets Variable.secretId := by
  simp only [ofEnvironment_eq_ok_iff]
  constructor
  · rintro ⟨_, _, hrole, hsecret⟩
    exact ⟨⟨_, hrole⟩, ⟨_, hsecret⟩⟩
  · rintro ⟨⟨_, hrole⟩, ⟨_, hsecret⟩⟩
    exact ⟨_, _, .approle hrole hsecret⟩

/-- The check has exactly the faults of the environment. -/
theorem checkEnvironment_eq_error_iff : checkEnvironment env = .error e ↔ env.Faulty e := by
  constructor
  · intro h
    rw [checkEnvironment] at h
    split at h
    next hrole hsecret htoken =>
      cases h
      exact .none (Environment.not_sets_iff.2 hrole) (Environment.not_sets_iff.2 hsecret)
        (Environment.not_sets_iff.2 htoken)
    next hrole hsecret =>
      cases h
      exact .half ⟨fun _ ↦ Environment.not_sets_iff.2 hsecret, fun _ ↦ ⟨_, hrole⟩⟩
    next hrole hsecret =>
      cases h
      exact .half ⟨fun h ↦ absurd h (Environment.not_sets_iff.2 hrole),
        fun h ↦ absurd ⟨_, hsecret⟩ h⟩
    next => cases h
  · rintro (⟨hrole, hsecret, htoken⟩ | h)
    · rw [Environment.not_sets_iff] at hrole hsecret htoken
      simp [checkEnvironment, hrole, hsecret, htoken]
    · by_cases hsecret : env.Sets Variable.secretId
      · have hrole := Environment.not_sets_iff.1 fun hrole ↦ h.1 hrole hsecret
        obtain ⟨_, hsecret⟩ := hsecret
        simp [checkEnvironment, hrole, hsecret]
      · obtain ⟨_, hrole⟩ := h.2 hsecret
        rw [Environment.not_sets_iff] at hsecret
        simp [checkEnvironment, hrole, hsecret]

/-- Both checks of the variables accept the same environments. -/
theorem checkEnvironment_eq_ok_iff :
    checkEnvironment env = .ok () ↔ ∃ method, ofEnvironment env path = .ok method := by
  rw [checkEnvironment, ofEnvironment]
  cases env.get? Variable.roleId <;> cases env.get? Variable.secretId <;>
    cases env.get? Variable.token <;> simp

end Authentication

/-! ### Several checks -/

namespace Factory

/-- Of several checks, each given by the failures that it has, the first that fails has this one. -/
inductive FirstOf : List (Failure → Prop) → Failure → Prop
  | here {check : Failure → Prop} {rest : List (Failure → Prop)} {e : Failure} (h : check e) :
      FirstOf (check :: rest) e
  | later {check : Failure → Prop} {rest : List (Failure → Prop)} {e : Failure}
      (hpasses : ∀ e, ¬ check e) (h : FirstOf rest e) : FirstOf (check :: rest) e

variable {α β : Type} {check : Failure → Prop} {rest : List (Failure → Prop)} {e : Failure}

theorem not_firstOf_nil : ¬ FirstOf [] e := nofun

/-- A check has the first failure, or it has none and those behind it have. -/
theorem firstOf_cons_iff :
    FirstOf (check :: rest) e ↔ check e ∨ (∀ e, ¬ check e) ∧ FirstOf rest e := by
  constructor
  · rintro (h | ⟨hpasses, h⟩)
    · exact .inl h
    · exact .inr ⟨hpasses, h⟩
  · rintro (h | ⟨hpasses, h⟩)
    · exact .here h
    · exact .later hpasses h

/-- Nothing fails first exactly if nothing fails. -/
theorem forall_not_firstOf_iff {checks : List (Failure → Prop)} :
    (∀ e, ¬ FirstOf checks e) ↔ ∀ check ∈ checks, ∀ e, ¬ check e := by
  induction checks with
  | nil => simp [not_firstOf_nil]
  | cons check rest ih =>
    rw [List.forall_mem_cons, ← ih]
    constructor
    · intro h
      have hpasses : ∀ e, ¬ check e := fun e he ↦ h e (.here he)
      exact ⟨hpasses, fun e he ↦ h e (.later hpasses he)⟩
    · rintro ⟨hpasses, hrest⟩ e (h | ⟨-, h⟩)
      · exact hpasses e h
      · exact hrest e h

/-- A computation that begins with a check. -/
theorem bind_eq_error_iff_firstOf {x : Except Failure α} {f : α → Except Failure β}
    (hx : ∀ e, x = .error e ↔ check e)
    (hf : ∀ a, x = .ok a → ∀ e, f a = .error e ↔ FirstOf rest e) :
    x.bind f = .error e ↔ FirstOf (check :: rest) e := by
  rw [firstOf_cons_iff, ← hx]
  cases x with
  | error e' =>
    have hfails : ¬ ∀ e, ¬ check e := fun h ↦ h e' ((hx e').1 rfl)
    simp [Except.bind, hfails]
  | ok a =>
    have hpasses : ∀ e, ¬ check e := fun e he ↦ nomatch (hx e).2 he
    simp [Except.bind, hf a rfl, hpasses]

/-! ### The checks -/

variable {σ : Type} {f : Factory} {env : Environment} {v : ServerConfig} {c : DatabaseConfig}
  {s : Scene σ} {u : Url} {text : String}

/-- A text spells a URL for requests over the web. -/
structure Spells (text : String) (u : Url) : Prop where
  read_eq : Url.read? text = some u
  scheme_eq : u.scheme = "http" ∨ u.scheme = "https"
  host_ne : u.host ≠ none

/-- What is wrong with the address of a server. -/
inductive Misspelt (text : String) : Failure → Prop
  | mk (h : ∀ u, ¬ Spells text u) : Misspelt text (.configuration .malformedAddress)

/-- What is wrong with the properties of a source of credentials: all that are wanting. -/
inductive Incomplete (c : DatabaseConfig) : Failure → Prop
  | mk {name : String} (h : c.Lacks name) :
      Incomplete c (.configuration (.propertiesMissing c.missingProperties))

/-- What is wrong with the settings of the client of a server, the files among them that the server
is configured with. -/
inductive Unusable (f : Factory) (v : ServerConfig) : Failure → Prop
  | mk {fault : PlatformFailure}
      (h : Http.Client.build f.machine { f.http with tls := v.tls } = .error fault) :
      Unusable f v (.platform fault)

/-- An address is accepted exactly if it spells a URL of a server. -/
theorem parseUrl_eq_ok_iff : parseUrl text = .ok u ↔ Spells text u := by
  rw [parseUrl]
  constructor
  · intro h
    split at h
    next => cases h
    next hread =>
      split at h
      next hweb =>
        cases h
        simp only [Bool.and_eq_true, Bool.or_eq_true, beq_iff_eq, Option.isSome_iff_ne_none] at hweb
        exact ⟨hread, hweb.1, hweb.2⟩
      next => cases h
  · rintro ⟨hread, hscheme, hhost⟩
    have hweb : ((u.scheme == "http" || u.scheme == "https") && u.host.isSome) = true := by
      simpa [Option.isSome_iff_ne_none] using ⟨hscheme, hhost⟩
    simp [hread, hweb]

/-- An address is refused exactly if it does not. -/
theorem parseUrl_eq_error_iff : parseUrl text = .error e ↔ Misspelt text e := by
  have hmisspelt : Misspelt text e ↔
      (∀ u, parseUrl text ≠ .ok u) ∧ e = .configuration .malformedAddress := by
    simp only [Ne, parseUrl_eq_ok_iff]
    exact ⟨fun ⟨h⟩ ↦ ⟨h, rfl⟩, fun ⟨h, he⟩ ↦ he ▸ .mk h⟩
  rw [hmisspelt, parseUrl]
  split
  next => simp [eq_comm]
  next => split <;> simp [eq_comm]

/-- A configuration is refused with the properties that it lacks. -/
theorem server_eq_error_iff_incomplete : c.server = .error e ↔ Incomplete c e := by
  rw [DatabaseConfig.server_eq_error_iff]
  exact ⟨fun ⟨⟨_, h⟩, he⟩ ↦ he ▸ .mk h, fun ⟨h⟩ ↦ ⟨⟨_, h⟩, rfl⟩⟩

/-- What is wrong with keys and certificates is what their building fails with. -/
theorem httpClient_eq_error_iff : f.httpClient v = .error e ↔ Unusable f v e := by
  rw [httpClient]
  constructor
  · intro h
    cases hbuild : Http.Client.build f.machine { f.http with tls := v.tls } with
    | error fault =>
      rw [hbuild] at h
      cases h
      exact .mk hbuild
    | ok client =>
      rw [hbuild] at h
      cases h
  · rintro ⟨h⟩
    rw [h]
    rfl

/-- Keys and certificates are those of the configuration, and never those that the factory has. -/
theorem httpClient_eq_ok_iff {client : Http.Client} : f.httpClient v = .ok client ↔
    Http.Client.build f.machine { f.http with tls := v.tls } = .ok client := by
  rw [httpClient]
  cases Http.Client.build f.machine { f.http with tls := v.tls } <;> simp [Except.mapError]

/-! ### Building -/

/-- An action comes to one outcome wherever it is performed, and does nothing but log. -/
def Settles (a : Action σ α) (r : Except Failure α) : Prop :=
  ∀ s, ∃ log, a.perform s = (r, { s with log })

theorem settles_ofExcept {r : Except Failure α} : Settles (Action.ofExcept r : Action σ α) r :=
  fun s ↦ ⟨s.log, rfl⟩

theorem settles_emit {event : Event} : Settles (Action.emit event : Action σ Unit) (.ok ()) :=
  fun s ↦ ⟨event :: s.log, rfl⟩

theorem settles_pure {x : α} : Settles (pure x : Action σ α) (.ok x) := fun s ↦ ⟨s.log, rfl⟩

/-- Actions that settle to outcomes settle to them one after the other. -/
theorem Settles.bind {a : Action σ α} {g : α → Action σ β} {r : Except Failure α}
    {k : α → Except Failure β} (ha : Settles a r) (hg : ∀ x, Settles (g x) (k x)) :
    Settles (a >>= g) (r.bind k) := by
  intro s
  obtain ⟨log, hperform⟩ := ha s
  cases r with
  | error e => exact ⟨log, Action.perform_bind_of_error hperform⟩
  | ok x =>
    obtain ⟨log', hlater⟩ := hg x { s with log }
    exact ⟨log', (Action.perform_bind_of_ok hperform).trans hlater⟩

/-- What building an endpoint comes to. -/
def endpointOf (f : Factory) (v : ServerConfig) : Except Failure Endpoint :=
  (parseUrl v.url).bind fun u ↦ (f.httpClient v).bind fun client ↦
    .ok (.ofAddress client u.render v.effectiveNamespace)

/-- What building a client comes to. -/
def clientOf (f : Factory) (v : ServerConfig) (env : Environment) : Except Failure Client :=
  (Authentication.checkEnvironment env).bind fun _ ↦ (f.endpointOf v).bind fun e ↦
    (Authentication.ofEnvironment env v.approlePath).bind fun method ↦ .ok ⟨e, method⟩

/-- Building an endpoint does nothing but log. -/
theorem settles_endpoint : Settles (f.endpoint v : Action σ Endpoint) (f.endpointOf v) := by
  refine settles_ofExcept.bind fun u ↦ ?_
  have hclient : Settles (do
      let client ← Action.ofExcept (f.httpClient v)
      return .ofAddress client u.render v.effectiveNamespace : Action σ Endpoint)
      ((f.httpClient v).bind fun client ↦ .ok (.ofAddress client u.render v.effectiveNamespace)) :=
    settles_ofExcept.bind fun _ ↦ settles_pure
  refine settles_emit.bind (k := fun _ ↦ _) fun _ ↦ ?_
  split
  · exact settles_emit.bind (k := fun _ ↦ _) fun _ ↦ hclient
  · exact hclient

/-- Nor does building a client. -/
theorem settles_client : Settles (f.client v env : Action σ Client) (f.clientOf v env) :=
  settles_ofExcept.bind fun _ ↦ settles_endpoint.bind fun _ ↦ settles_ofExcept.bind fun _ ↦
    settles_emit.bind (k := fun _ ↦ _) fun _ ↦ settles_pure

/-! ### What is built -/

theorem bind_eq_ok_iff {x : Except Failure α} {k : α → Except Failure β} {b : β} :
    x.bind k = .ok b ↔ ∃ a, x = .ok a ∧ k a = .ok b := by
  cases x <;> simp [Except.bind]

/-- A computation whose later part succeeds fails as its first part does. -/
theorem bind_eq_error_iff {x : Except Failure α} {k : α → Except Failure β}
    (hk : ∀ a, ∃ b, k a = .ok b) : x.bind k = .error e ↔ x = .error e := by
  cases x with
  | error e' => simp [Except.bind]
  | ok a =>
    obtain ⟨b, hb⟩ := hk a
    simp [Except.bind, hb]

/-- An endpoint as it is built: at the address of the server, with its namespace, and with the
settings of the factory but for the files, which are those of the server. -/
inductive Reaches (f : Factory) (v : ServerConfig) : Endpoint → Prop
  | mk {u : Url} {http : Http.Client} (hurl : Spells v.url u)
      (hhttp : Http.Client.build f.machine { f.http with tls := v.tls } = .ok http) :
      Reaches f v (.ofAddress http u.render v.effectiveNamespace)

/-- A client as it is built: for an endpoint, and with the method that the environment selects. -/
structure Builds (f : Factory) (v : ServerConfig) (env : Environment) (client : Client) : Prop where
  endpoint : Reaches f v client.endpoint
  method : Authentication.Selects env v.approlePath client.method

/-- An endpoint takes an address and then a client. -/
theorem endpointOf_eq_error_iff :
    f.endpointOf v = .error e ↔ FirstOf [Misspelt v.url, Unusable f v] e :=
  bind_eq_error_iff_firstOf (fun _ ↦ parseUrl_eq_error_iff) fun _ _ _ ↦
    bind_eq_error_iff_firstOf (fun _ ↦ httpClient_eq_error_iff) fun _ _ _ ↦
      ⟨nofun, fun h ↦ absurd h not_firstOf_nil⟩

theorem endpointOf_eq_ok_iff {endpoint : Endpoint} :
    f.endpointOf v = .ok endpoint ↔ Reaches f v endpoint := by
  simp only [endpointOf, bind_eq_ok_iff, parseUrl_eq_ok_iff, httpClient_eq_ok_iff,
    Except.ok.injEq]
  constructor
  · rintro ⟨u, hurl, http, hhttp, rfl⟩
    exact .mk hurl hhttp
  · rintro ⟨hurl, hhttp⟩
    exact ⟨_, hurl, _, hhttp, rfl⟩

/-- Once the variables have been checked, selecting a method cannot fail. -/
theorem clientOf_eq_error_iff :
    f.clientOf v env = .error e ↔ FirstOf [env.Faulty, Misspelt v.url, Unusable f v] e := by
  refine bind_eq_error_iff_firstOf (fun _ ↦ Authentication.checkEnvironment_eq_error_iff)
    fun _ hchecked e ↦ (bind_eq_error_iff fun endpoint ↦ ?_).trans endpointOf_eq_error_iff
  obtain ⟨method, hmethod⟩ := Authentication.checkEnvironment_eq_ok_iff.1 hchecked
  exact ⟨⟨endpoint, method⟩, by rw [hmethod]; rfl⟩

/-- There is a client exactly if nothing is wrong. -/
theorem clientOf_eq_ok_iff {client : Client} :
    f.clientOf v env = .ok client ↔ f.Builds v env client := by
  simp only [clientOf, bind_eq_ok_iff, endpointOf_eq_ok_iff, Authentication.ofEnvironment_eq_ok_iff,
    Except.ok.injEq]
  constructor
  · rintro ⟨_, -, endpoint, hendpoint, method, hmethod, rfl⟩
    exact ⟨hendpoint, hmethod⟩
  · rintro ⟨hendpoint, hmethod⟩
    exact ⟨(), Authentication.checkEnvironment_eq_ok_iff.2
      ⟨_, Authentication.ofEnvironment_eq_ok_iff.2 hmethod⟩, _, hendpoint, _, hmethod, rfl⟩

/-- What building a source of credentials comes to. -/
def sourceOf (f : Factory) (c : DatabaseConfig) (env : Environment) :
    Except Failure (Client × String) :=
  (Authentication.checkEnvironment env).bind fun _ ↦ c.server.bind fun v ↦
    (f.clientOf v env).bind fun client ↦ .ok (client, c.credentialPath)

/-- The variables are checked twice on the way to a source; the second check finds nothing new. -/
theorem sourceOf_eq_error_iff : f.sourceOf c env = .error e ↔
    FirstOf [env.Faulty, Incomplete c, Misspelt c.described.url, Unusable f c.described] e := by
  refine bind_eq_error_iff_firstOf (fun _ ↦ Authentication.checkEnvironment_eq_error_iff)
    fun _ hchecked _ ↦ bind_eq_error_iff_firstOf (fun _ ↦ server_eq_error_iff_incomplete)
      fun v hserver _ ↦ ?_
  obtain ⟨-, rfl⟩ := DatabaseConfig.server_eq_ok_iff.1 hserver
  have hpasses : ∀ e, ¬ env.Faulty e := by
    intro e he
    rw [← Authentication.checkEnvironment_eq_error_iff, hchecked] at he
    cases he
  rw [bind_eq_error_iff fun client ↦ ⟨_, rfl⟩, clientOf_eq_error_iff, firstOf_cons_iff]
  exact ⟨fun h ↦ h.elim (fun he ↦ absurd he (hpasses _)) And.right, fun h ↦ .inr ⟨hpasses, h⟩⟩

/-- There is a source exactly if nothing is wrong, and it reads at the path of its configuration. -/
theorem sourceOf_eq_ok_iff {source : Client × String} : f.sourceOf c env = .ok source ↔
    (∀ name, ¬ c.Lacks name) ∧ f.Builds c.described env source.1 ∧
      source.2 = c.credentialPath := by
  simp only [sourceOf, bind_eq_ok_iff, DatabaseConfig.server_eq_ok_iff, clientOf_eq_ok_iff,
    Except.ok.injEq]
  constructor
  · rintro ⟨_, -, _, ⟨hcomplete, rfl⟩, client, hclient, rfl⟩
    exact ⟨hcomplete, hclient, rfl⟩
  · obtain ⟨client, path⟩ := source
    rintro ⟨hcomplete, hclient, rfl⟩
    obtain ⟨_, hchecked, -⟩ := bind_eq_ok_iff.1 (clientOf_eq_ok_iff.2 hclient)
    exact ⟨_, hchecked, _, ⟨hcomplete, rfl⟩, client, hclient, rfl⟩

/-- Building a source of credentials sends nothing and leaves the state as it is. -/
theorem settles_databaseSource :
    Settles (f.databaseSource c env : Action σ (Client × String)) (f.sourceOf c env) :=
  settles_ofExcept.bind fun _ ↦ settles_ofExcept.bind fun _ ↦ settles_client.bind fun _ ↦
    settles_pure

/-- An action runs checks: it fails with what the first of them has, comes to what is described if
none of them has anything, and leaves the world as it is. -/
structure Checks (a : Action σ α) (checks : List (Failure → Prop)) (yields : α → Prop) : Prop where
  error_iff : ∀ s e, (a.perform s).1 = .error e ↔ FirstOf checks e
  ok_iff : ∀ s x, (a.perform s).1 = .ok x ↔ yields x
  exists_ok_iff : ∀ s, (∃ x, (a.perform s).1 = .ok x) ↔ ∀ check ∈ checks, ∀ e, ¬ check e
  state_eq : ∀ s, (a.perform s).2.state = s.state

/-- An action is told by the failures and by the values of what it settles to. -/
theorem Settles.checks {a : Action σ α} {r : Except Failure α} {checks : List (Failure → Prop)}
    {yields : α → Prop} (h : Settles a r) (herror : ∀ {e}, r = .error e ↔ FirstOf checks e)
    (hok : ∀ {x}, r = .ok x ↔ yields x) : Checks a checks yields := by
  have hfst : ∀ s, (a.perform s).1 = r := fun s ↦ by
    obtain ⟨log, hperform⟩ := h s
    rw [hperform]
  refine ⟨fun s e ↦ ?_, fun s x ↦ ?_, fun s ↦ ?_, fun s ↦ ?_⟩
  · rw [hfst, herror]
  · rw [hfst, hok]
  · rw [hfst, ← forall_not_firstOf_iff]
    simp only [← herror]
    cases r <;> simp
  · obtain ⟨log, hperform⟩ := h s
    rw [hperform]

/-- The factory whose own settings name other files. -/
def naming (f : Factory) (tls : Http.Tls) : Factory := { f with http := { f.http with tls } }

/-- Whatever is wrong with an environment, a configuration and the files at once: building fails
with what the first check has, in the order of the variables, the properties, the address and the
settings of the client, and otherwise there is what was asked for. The second look at the variables
finds nothing that the first has not; the role is selected exactly if both of its variables are set.
Nothing is done to the world, so nothing is sent, and the files that the factory's own settings name
make no difference. -/
theorem building_law (f : Factory) (env : Environment) :
    (∀ path,
      (Authentication.checkEnvironment env = .ok () ↔
        ∃ method, Authentication.ofEnvironment env path = .ok method) ∧
      (∀ method, Authentication.ofEnvironment env path = .ok method ↔
        Authentication.Selects env path method) ∧
      ((∃ roleId secretId,
          Authentication.ofEnvironment env path = .ok (.approle path roleId secretId)) ↔
        env.Sets Variable.roleId ∧ env.Sets Variable.secretId)) ∧
    (∀ (σ : Type) (c : DatabaseConfig),
      Checks (f.databaseSource c env : Action σ (Client × String))
        [env.Faulty, Incomplete c, Misspelt c.described.url, Unusable f c.described]
        fun source ↦ (∀ name, ¬ c.Lacks name) ∧ f.Builds c.described env source.1 ∧
          source.2 = c.credentialPath) ∧
    (∀ (σ : Type) (v : ServerConfig),
      Checks (f.keyVault v env : Action σ Client) [env.Faulty, Misspelt v.url, Unusable f v]
          (f.Builds v env) ∧
        Checks (f.admin v : Action σ Endpoint) [Misspelt v.url, Unusable f v] (f.Reaches v)) ∧
    ∀ (σ : Type) (tls : Http.Tls),
      (∀ c, ((f.naming tls).databaseSource c env : Action σ (Client × String)) =
        f.databaseSource c env) ∧
      (∀ v, ((f.naming tls).keyVault v env : Action σ Client) = f.keyVault v env) ∧
      ∀ v, ((f.naming tls).admin v : Action σ Endpoint) = f.admin v := by
  refine ⟨fun path ↦ ⟨Authentication.checkEnvironment_eq_ok_iff,
      fun _ ↦ Authentication.ofEnvironment_eq_ok_iff, Authentication.exists_approle_iff⟩,
    fun σ c ↦ settles_databaseSource.checks sourceOf_eq_error_iff sourceOf_eq_ok_iff,
    fun σ v ↦ ⟨settles_client.checks clientOf_eq_error_iff clientOf_eq_ok_iff,
      settles_endpoint.checks endpointOf_eq_error_iff endpointOf_eq_ok_iff⟩,
    fun σ tls ↦ ⟨fun _ ↦ rfl, fun _ ↦ rfl, fun _ ↦ rfl⟩⟩

/-- With everything wrong at once it is the variables that are reported. -/
example : (((⟨{}, .bare⟩ : Factory).databaseSource {} NameMap.empty).perform (⟨(), []⟩ : Scene Unit)).1 =
    .error (.authentication .noMethod) := rfl

end Factory

end VaultAccess
