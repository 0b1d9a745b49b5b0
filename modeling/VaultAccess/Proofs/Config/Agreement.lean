import VaultAccess.Config.Database
import VaultAccess.Proofs.Config.RoundTrip

/-!
# Both configurations lead to the same server

The server of a source of database credentials is configured twice over: on its own, and as a part of
the source. The first has the default of the path of the application roles put in when it is read; the
second keeps what is written and has the default put in when the server is asked for. This module shows
that the two agree wherever both can be had, and says when the second cannot: exactly if a property
that has to be there is wanting, and then all that are wanting are named at once.
-/

namespace VaultAccess

open Json

/-! ### What is wanting -/

namespace DatabaseConfig

variable {c : DatabaseConfig} {v : ServerConfig} {e : Failure} {name : String}

/-- A property that has to be there is not. Those with a default are there unless they are empty. -/
inductive Lacks (c : DatabaseConfig) : String → Prop
  | url : c.url = none ∨ c.url = some "" → Lacks c "url"
  | engine : c.engine = some "" → Lacks c "dbSecretEngineName"
  | role : c.role = none ∨ c.role = some "" → Lacks c "vaultDbRole"
  | approlePath : c.approlePath = some "" → Lacks c "approlePath"

/-- A value is missing if there is none, or if it is empty. -/
theorem isMissing_iff {value : Option String} :
    isMissing value = true ↔ value = none ∨ value = some "" := by
  cases value <;> simp [isMissing]

/-- A value with a default that is not empty is missing only if it was set to be empty. -/
theorem isMissing_getD_iff {value : Option String} {default : String} (h : default ≠ "") :
    isMissing (some (value.getD default)) = true ↔ value = some "" := by
  cases value <;> simp [isMissing, h]

/-- What is reported as missing is what is lacking. -/
theorem mem_missingProperties_iff : name ∈ c.missingProperties ↔ c.Lacks name := by
  have hengine : isMissing (some c.effectiveEngine) = true ↔ c.engine = some "" :=
    isMissing_getD_iff (by decide)
  have hpath : isMissing (some c.effectiveApprolePath) = true ↔ c.approlePath = some "" :=
    isMissing_getD_iff (by decide)
  constructor
  · intro hname
    obtain ⟨p, hp, rfl⟩ := List.mem_map.1 hname
    obtain ⟨hrequired, hmissing⟩ := List.mem_filter.1 hp
    simp only [requiredProperties, List.mem_cons, List.not_mem_nil, or_false] at hrequired
    obtain rfl | rfl | rfl | rfl := hrequired
    · exact .url (isMissing_iff.1 hmissing)
    · exact .engine (hengine.1 hmissing)
    · exact .role (isMissing_iff.1 hmissing)
    · exact .approlePath (hpath.1 hmissing)
  · have hmem : ∀ {name value}, (name, value) ∈ c.requiredProperties → isMissing value = true →
        name ∈ c.missingProperties := fun hrequired hmissing ↦
      List.mem_map.2 ⟨_, List.mem_filter.2 ⟨hrequired, hmissing⟩, rfl⟩
    rintro (hurl | hengine' | hrole | hpath')
    · exact hmem (.head _) (isMissing_iff.2 hurl)
    · exact hmem (.tail _ (.head _)) (hengine.2 hengine')
    · exact hmem (.tail _ (.tail _ (.head _))) (isMissing_iff.2 hrole)
    · exact hmem (.tail _ (.tail _ (.tail _ (.head _)))) (hpath.2 hpath')

/-- Missing properties are reported in one order. -/
theorem missingProperties_sublist :
    c.missingProperties.Sublist ["url", "dbSecretEngineName", "vaultDbRole", "approlePath"] :=
  (List.filter_sublist (l := c.requiredProperties)).map _

/-! ### The server of a source -/

/-- The server as a source of database credentials describes it, checked or not. -/
def described (c : DatabaseConfig) : ServerConfig where
  url := c.url.getD ""
  namespaceName := c.namespaceName
  approlePath := c.effectiveApprolePath
  keyStore := c.keyStore
  trustStore := c.trustStore

/-- A configuration that lacks nothing describes a server. -/
theorem server_of_complete (h : c.missingProperties = []) : c.server = .ok c.described := by
  rw [server, check, h]
  rfl

theorem server_of_incomplete (h : c.missingProperties ≠ []) :
    c.server = .error (.configuration (.propertiesMissing c.missingProperties)) := by
  obtain ⟨name, names, hnames⟩ := List.exists_cons_of_ne_nil h
  rw [server, check, hnames]
  rfl

/-- There is a server exactly if nothing is wanting. -/
theorem server_eq_ok_iff : c.server = .ok v ↔ (∀ name, ¬ c.Lacks name) ∧ v = c.described := by
  simp only [← mem_missingProperties_iff, ← List.eq_nil_iff_forall_not_mem]
  by_cases h : c.missingProperties = []
  · simp [server_of_complete, h, eq_comm]
  · simp [server_of_incomplete, h]

/-- There is no server exactly if something is lacking, and all of it is reported. -/
theorem server_eq_error_iff :
    c.server = .error e ↔
      (∃ name, c.Lacks name) ∧ e = .configuration (.propertiesMissing c.missingProperties) := by
  have hlacks : (∃ name, c.Lacks name) ↔ c.missingProperties ≠ [] := by
    simp only [← mem_missingProperties_iff]
    exact ⟨fun ⟨_, hmem⟩ ↦ List.ne_nil_of_mem hmem, List.exists_mem_of_ne_nil _⟩
  rw [hlacks]
  by_cases h : c.missingProperties = []
  · simp [server_of_complete, h]
  · simp [server_of_incomplete, h, eq_comm]

/-- A source with a server has an address, which is the server's. -/
theorem url_of_server (h : c.server = .ok v) : c.url = some v.url := by
  obtain ⟨hcomplete, rfl⟩ := server_eq_ok_iff.1 h
  cases hurl : c.url with
  | none => exact absurd (.url (.inl hurl)) (hcomplete "url")
  | some url => simp [described, hurl]

end DatabaseConfig

/-! ### Environments -/

/-- The variables from which a source gets its server make that server on their own. -/
theorem ofEnvironment_of_server {env : Environment} {v : ServerConfig}
    (h : (DatabaseConfig.ofEnvironment env).server = .ok v) :
    ServerConfig.ofEnvironment env = .ok v := by
  have hurl : env.get? Variable.url = some v.url := DatabaseConfig.url_of_server h
  obtain ⟨-, hv⟩ := DatabaseConfig.server_eq_ok_iff.1 h
  rw [ServerConfig.ofEnvironment, hurl, hv]
  simp [DatabaseConfig.described, DatabaseConfig.ofEnvironment,
    DatabaseConfig.effectiveApprolePath, hurl]

/-! ### Documents -/

section Documents

variable {t : Tree} {s : ServerConfig} {d : DatabaseConfig}

theorem ServerConfig.fields_of_ofTree? (h : ServerConfig.ofTree? t = some s) :
    ∃ r, Record.ofTree? ServerConfig.fields t = some r ∧
      r.required "url" Tree.text? = some s.url ∧
      r.optional "namespace" Tree.text? = some s.namespaceName ∧
      r.defaulted "approlePath" defaultApprolePath Tree.text? = some s.approlePath ∧
      r.optional "tlsKeyStorePath" Tree.text? = some s.keyStore ∧
      r.optional "tlsTrustStorePath" Tree.text? = some s.trustStore := by
  simp only [ServerConfig.ofTree?, Option.bind_eq_bind, Option.bind_eq_some_iff,
    Option.pure_def, Option.some.injEq] at h
  obtain ⟨r, hr, _, hurl, _, hnamespace, _, hpath, _, hkeys, _, htrusted, rfl⟩ := h
  exact ⟨r, hr, hurl, hnamespace, hpath, hkeys, htrusted⟩

theorem DatabaseConfig.fields_of_ofTree? (h : DatabaseConfig.ofTree? t = some d) :
    ∃ ms members r, t = .object ms ∧ Record.named? ms = some members ∧
      Record.ofMembers? (DatabaseConfig.fields ++ Rotation.Tunables.fields) members = some r ∧
      r.optional "url" Tree.text? = some d.url ∧
      r.optional "namespace" Tree.text? = some d.namespaceName ∧
      r.optional "approlePath" Tree.text? = some d.approlePath ∧
      r.optional "tlsKeyStorePath" Tree.text? = some d.keyStore ∧
      r.optional "tlsTrustStorePath" Tree.text? = some d.trustStore := by
  cases t with
  | object ms =>
    obtain ⟨members, hmembers, h⟩ := Option.bind_eq_some_iff.1 h
    split at h
    next => cases h
    next =>
      obtain ⟨r, hr, h⟩ := Option.bind_eq_some_iff.1 h
      obtain ⟨_, hurl, h⟩ := Option.bind_eq_some_iff.1 h
      obtain ⟨_, hnamespace, h⟩ := Option.bind_eq_some_iff.1 h
      obtain ⟨_, hpath, h⟩ := Option.bind_eq_some_iff.1 h
      -- the engine, the role and the type of credentials are no part of the server
      obtain ⟨_, -, h⟩ := Option.bind_eq_some_iff.1 h
      obtain ⟨_, -, h⟩ := Option.bind_eq_some_iff.1 h
      obtain ⟨_, -, h⟩ := Option.bind_eq_some_iff.1 h
      obtain ⟨_, hkeys, h⟩ := Option.bind_eq_some_iff.1 h
      obtain ⟨_, htrusted, h⟩ := Option.bind_eq_some_iff.1 h
      obtain ⟨_, -, h⟩ := Option.bind_eq_some_iff.1 h
      obtain rfl := Option.some.inj h
      exact ⟨ms, members, r, rfl, hmembers, hr, hurl, hnamespace, hpath, hkeys, htrusted⟩
  | _ => cases h

/-- A document that can be read as both describes one server. -/
theorem described_of_ofTree? (hs : ServerConfig.ofTree? t = some s)
    (hd : DatabaseConfig.ofTree? t = some d) : d.described = s := by
  obtain ⟨ms, members, r, rfl, hmembers, hr, hurl, hnamespace, hpath, hkeys, htrusted⟩ :=
    DatabaseConfig.fields_of_ofTree? hd
  obtain ⟨r', hr', hurl', hnamespace', hpath', hkeys', htrusted'⟩ :=
    ServerConfig.fields_of_ofTree? hs
  rw [Record.ofTree?, hmembers, Option.bind_some] at hr'
  have hshared : ∀ {field}, field ∈ ServerConfig.fields → field ∈ DatabaseConfig.fields →
      r'.optional field Tree.text? = r.optional field Tree.text? := fun hfield' hfield ↦
    Record.optional_congr
      (Record.get?_eq_get? hr' hr hfield' (List.mem_append_left _ hfield)) _
  rw [← hshared (by decide) (by decide)] at hurl hnamespace hpath hkeys htrusted
  obtain ⟨path, hpath', hdefault⟩ := Record.optional_of_defaulted hpath'
  rw [Record.optional_of_required hurl', Option.some.injEq] at hurl
  rw [hnamespace', Option.some.injEq] at hnamespace
  rw [hpath', Option.some.injEq] at hpath
  rw [hkeys', Option.some.injEq] at hkeys
  rw [htrusted', Option.some.injEq] at htrusted
  rw [DatabaseConfig.described, DatabaseConfig.effectiveApprolePath, ← hurl, ← hnamespace, ← hpath,
    hdefault, ← hkeys, ← htrusted]
  rfl

/-- What a document describes that is read as both is the server that it is read as. -/
theorem described_of_read? {bytes : List UInt8} (hs : ServerConfig.read? bytes = some s)
    (hd : DatabaseConfig.read? bytes = some d) : d.described = s := by
  obtain ⟨t, ht, hs⟩ := Option.bind_eq_some_iff.1 hs
  obtain ⟨t', ht', hd⟩ := Option.bind_eq_some_iff.1 hd
  obtain rfl : t = t' := Option.some.inj (ht.symm.trans ht')
  exact described_of_ofTree? hs hd

end Documents

/-! ### Both ways to a server -/

/-- A server that a source of database credentials is configured with is the one that is configured
without the source, whether both are read from variables or from a document. A source has no server
exactly if some property is wanting, and the failure names all that are, in a fixed order. -/
theorem configurations_agree :
    (∀ (env : Environment) (v : ServerConfig),
        (DatabaseConfig.ofEnvironment env).server = .ok v →
          ServerConfig.ofEnvironment env = .ok v) ∧
      (∀ (bytes : List UInt8) (s : ServerConfig) (d : DatabaseConfig) (v : ServerConfig),
        ServerConfig.read? bytes = some s → DatabaseConfig.read? bytes = some d →
          d.server = .ok v → v = s) ∧
      ∀ d : DatabaseConfig,
        ((∃ e, d.server = .error e) ↔ ∃ name, d.Lacks name) ∧
          ∀ e, d.server = .error e →
            ∃ names, e = .configuration (.propertiesMissing names) ∧
              names.Sublist ["url", "dbSecretEngineName", "vaultDbRole", "approlePath"] ∧
              (∀ name, name ∈ names ↔ d.Lacks name) ∧
              e.message = "Invalid configuration: " ++ ("[" ++ ", ".intercalate names ++
                "] missing in the configuration. This/these properties " ++
                "should be defined in configuration section: jdbc.hashicorpVaultDbCredentialsConfig"
                ) := by
  refine ⟨fun env v ↦ ofEnvironment_of_server, fun bytes s d v hs hd hv ↦ ?_, fun d ↦ ⟨?_, ?_⟩⟩
  · obtain ⟨-, rfl⟩ := DatabaseConfig.server_eq_ok_iff.1 hv
    exact described_of_read? hs hd
  · exact ⟨fun ⟨_, he⟩ ↦ (DatabaseConfig.server_eq_error_iff.1 he).1,
      fun hlacks ↦ ⟨_, DatabaseConfig.server_eq_error_iff.2 ⟨hlacks, rfl⟩⟩⟩
  · intro e he
    obtain ⟨-, rfl⟩ := DatabaseConfig.server_eq_error_iff.1 he
    exact ⟨_, rfl, DatabaseConfig.missingProperties_sublist,
      fun _ ↦ DatabaseConfig.mem_missingProperties_iff, rfl⟩

/-- Variables and a document that leave every default to the reader, and a source that an empty name
leaves without a server. -/
theorem configurations_agree_on_defaults :
    (DatabaseConfig.ofEnvironment
        (.ofList [(Variable.url, "https://vault"), (Variable.role, "app")])).server =
          .ok { url := "https://vault" } ∧
      ServerConfig.ofEnvironment
        (.ofList [(Variable.url, "https://vault"), (Variable.role, "app")]) =
          .ok { url := "https://vault" } ∧
      (∃ s d v, ServerConfig.read?
          (Utf8.encode "\x7b\"url\":\"https://vault\",\"vaultDbRole\":\"app\"\x7d") = some s ∧
        DatabaseConfig.read?
          (Utf8.encode "\x7b\"url\":\"https://vault\",\"vaultDbRole\":\"app\"\x7d") = some d ∧
        d.server = .ok v ∧ v = s) ∧
      ∃ e, DatabaseConfig.server { url := some "https://vault", role := some "" } = .error e := by
  have henv : (DatabaseConfig.ofEnvironment
      (.ofList [(Variable.url, "https://vault"), (Variable.role, "app")])).server =
        .ok { url := "https://vault" } := by decide +kernel
  have hs : ServerConfig.read?
      (Utf8.encode "\x7b\"url\":\"https://vault\",\"vaultDbRole\":\"app\"\x7d") =
        some { url := "https://vault" } := by decide +kernel
  have hd : DatabaseConfig.read?
      (Utf8.encode "\x7b\"url\":\"https://vault\",\"vaultDbRole\":\"app\"\x7d") =
        some { url := some "https://vault", role := some "app" } := by decide +kernel
  have hv : DatabaseConfig.server { url := some "https://vault", role := some "app" } =
      .ok { url := "https://vault" } := by decide +kernel
  exact ⟨henv, configurations_agree.1 _ _ henv,
    ⟨_, _, _, hs, hd, hv, configurations_agree.2.1 _ _ _ _ hs hd hv⟩,
    (configurations_agree.2.2 _).1.2 ⟨_, .role (.inr rfl)⟩⟩

end VaultAccess
