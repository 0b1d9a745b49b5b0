import VaultAccess.DatabaseSource
import VaultAccess.Factory
import VaultAccess.KeyVault
import VaultAccess.Proofs.Secrecy.Clients

/-!
# Services that are alike

Services for secrets and sources of database credentials add to the calls of a backend what they
make of the replies, none of which is secret but a password. A factory looks at the ids and at the
token in the environment only to see whether they are there, so from environments that differ in
nothing but their values it builds clients that are alike, and it logs the same.
-/

namespace VaultAccess

open VaultAccess.Action

variable {σ τ : Type} {R : σ → τ → Prop} {b : Backend σ} {b' : Backend τ}

/-! ### Secrets in documents -/

namespace Backend.Alike

/-- Encrypting emits the same and sends requests that are alike. -/
theorem encryptLogged (hb : b.Alike R b') (engine key plaintext : String) :
    Action.Alike R Eq (b.encryptLogged engine key plaintext)
      (b'.encryptLogged engine key plaintext) :=
  (hb.encrypt _ _ _).bind_eq fun _ ↦ (alike_emit _).then (alike_pure rfl)

/-- Decrypting emits the same and sends requests that are alike. -/
theorem decryptLogged (hb : b.Alike R b') (engine key ciphertext : String) :
    Action.Alike R Eq (b.decryptLogged engine key ciphertext)
      (b'.decryptLogged engine key ciphertext) :=
  (hb.decrypt _ _ _).bind_eq fun _ ↦ (alike_emit _).then (alike_pure rfl)

end Backend.Alike

namespace KeyVault

/-- Getting a secret gives the same, whatever token it is read with. -/
theorem get_alike (hb : b.Alike R b') (r : SecretReference) :
    Action.Alike R Eq (get b r) (get b' r) := by
  refine (hb.read _ _ _).bind_eq fun document ↦ ?_
  refine (alike_ofExcept_self _).bind_eq fun reading ↦ ?_
  cases reading with
  | plain value => exact alike_pure rfl
  | encrypted engine key ciphertext => exact hb.decryptLogged _ _ _

/-- What is stored for a field does not depend on the token. -/
theorem storedValue_alike (hb : b.Alike R b') (r : SecretReference) (value : String) :
    Action.Alike R Eq (storedValue b r value) (storedValue b' r value) := by
  rw [storedValue, storedValue]
  split
  · split
    · exact alike_pure rfl
    · exact hb.encryptLogged _ _ _
  · exact alike_pure rfl

/-- What is stored for fields, one after the other, does not depend on the token. -/
theorem storedFields_alike (hb : b.Alike R b') (r : SecretReference)
    (fields : List (String × String)) :
    Action.Alike R Eq (storedFields b r fields) (storedFields b' r fields) := by
  induction fields with
  | nil => exact alike_pure rfl
  | cons field rest ih =>
    exact (storedValue_alike hb r _).bind_eq fun _ ↦ ih.bind_eq fun _ ↦ alike_pure rfl

/-- Setting a document gives the same version and emits the same. -/
theorem set_alike (hb : b.Alike R b') (r : SecretReference) (d : SecretDocument) :
    Action.Alike R Eq (set b r d) (set b' r d) := by
  refine (storedFields_alike hb r _).bind_eq fun fields ↦ ?_
  refine (hb.write _ _ _).bind_eq fun reply ↦ ?_
  refine (alike_orFail_self _ _).bind_eq fun version ↦ ?_
  exact (alike_emit _).then (alike_pure rfl)

end KeyVault

/-! ### Database credentials -/

/-- Two credentials are alike: they differ at most in the password. -/
structure Credentials.Alike (c c' : Credentials) : Prop where
  username : c.username = c'.username
  lease : c.lease = c'.lease

/-- Diagnostics show the same of credentials that are alike. -/
theorem Credentials.Alike.shown_eq {c c' : Credentials} (h : c.Alike c') : c.shown = c'.shown := by
  rcases c with ⟨username, password, lease⟩
  rcases c' with ⟨username', password', lease'⟩
  obtain ⟨rfl, rfl⟩ := h
  rfl

namespace DatabaseSource

/-- From replies that are alike come credentials that are alike, or the same failure. -/
theorem credentialsOf_alike {reply reply' : Option Reply.Database}
    (h : Option.Rel Reply.Database.Alike reply reply') :
    AlikeOutcomes Credentials.Alike (credentialsOf reply) (credentialsOf reply') := by
  cases h with
  | none => exact .error _
  | @some r r' h =>
    rcases r with ⟨data, _, lease, _⟩
    rcases r' with ⟨data', _, lease', _⟩
    obtain ⟨hdata, rfl⟩ := h
    cases hdata with
    | none => exact .error _
    | some hu => exact .ok ⟨hu.username, congrArg (·.getD lease) hu.ttl⟩

/-- Sources that read replies that are alike give credentials that are alike. -/
theorem read_alike {path : String}
    (hread : Action.Alike R (Option.Rel Reply.Database.Alike) (b.readCredentials path)
      (b'.readCredentials path)) :
    Action.Alike R Credentials.Alike (read b path) (read b' path) :=
  (hread.mapFailure _).bind fun _ _ h ↦ alike_ofExcept (credentialsOf_alike h)

end DatabaseSource

/-! ### Building services -/

/-- Two environments are alike: the ids of an application role and the token are set in both or in
neither, and the tokens may stand in a header in both or in neither. -/
structure Environment.Alike (env env' : Environment) : Prop where
  roleId : Option.Rel (fun _ _ ↦ True) (env.get? Variable.roleId) (env'.get? Variable.roleId)
  secretId : Option.Rel (fun _ _ ↦ True) (env.get? Variable.secretId)
    (env'.get? Variable.secretId)
  token : Option.Rel (fun t t' ↦ Secret.Alike ⟨t⟩ ⟨t'⟩) (env.get? Variable.token)
    (env'.get? Variable.token)

namespace Authentication

variable {env env' : Environment}

/-- The check of the environment looks at what is set and not at the values. -/
theorem checkEnvironment_eq (h : env.Alike env') :
    checkEnvironment env = checkEnvironment env' := by
  obtain ⟨hrole, hsecret, htoken⟩ := h
  unfold checkEnvironment
  generalize env.get? Variable.roleId = r, env'.get? Variable.roleId = r',
    env.get? Variable.secretId = s, env'.get? Variable.secretId = s',
    env.get? Variable.token = t, env'.get? Variable.token = t' at *
  cases hrole <;> cases hsecret <;> cases htoken <;> rfl

/-- Environments that are alike give methods that are alike, or the same failure. -/
theorem ofEnvironment_alike (h : env.Alike env') (path : String) :
    AlikeOutcomes Authentication.Alike (ofEnvironment env path) (ofEnvironment env' path) := by
  obtain ⟨hrole, hsecret, htoken⟩ := h
  -- the three variables decide by being there; their values only get into the method
  unfold ofEnvironment
  generalize env.get? Variable.roleId = r, env'.get? Variable.roleId = r',
    env.get? Variable.secretId = s, env'.get? Variable.secretId = s',
    env.get? Variable.token = t, env'.get? Variable.token = t' at *
  cases hrole with
  | some hr =>
    cases hsecret with
    | some hs => exact .ok (.approle _ _ _ _ _)
    | none => exact .error _
  | none =>
    cases hsecret with
    | some hs => cases htoken <;> exact .error _
    | none =>
      cases htoken with
      | some ht => exact .ok (.token ht)
      | none => exact .error _

end Authentication

namespace Factory

variable {f : Factory} {env env' : Environment}

/-- The factory builds the same endpoint, as it is built from the configuration alone. -/
theorem endpoint_alike (c : ServerConfig) :
    Action.Alike R Eq (f.endpoint c : Action σ Endpoint) (f.endpoint c : Action τ Endpoint) := by
  refine (alike_ofExcept_self _).bind_eq fun url ↦ ?_
  refine (alike_emit _).then ?_
  cases c.effectiveNamespace with
  | none => exact (alike_ofExcept_self _).bind_eq fun _ ↦ alike_pure rfl
  | some name =>
    exact (alike_emit _).then ((alike_ofExcept_self _).bind_eq fun _ ↦ alike_pure rfl)

/-- From environments that are alike the factory builds clients that are alike, and logs the same.
-/
theorem client_alike (h : env.Alike env') (c : ServerConfig) :
    Action.Alike R Client.Alike (f.client c env : Action σ Client)
      (f.client c env' : Action τ Client) := by
  rw [client, client, Authentication.checkEnvironment_eq h]
  refine (alike_ofExcept_self _).then ?_
  refine (endpoint_alike c).bind_eq fun endpoint ↦ ?_
  refine (alike_ofExcept (Authentication.ofEnvironment_alike h _)).bind fun m m' hm ↦ ?_
  rw [hm.name_eq]
  exact (alike_emit _).then (alike_pure ⟨rfl, hm⟩)

/-- The same goes for sources of database credentials, which read the same path. -/
theorem databaseSource_alike (h : env.Alike env') (c : DatabaseConfig) :
    Action.Alike R (fun s s' ↦ s.1.Alike s'.1 ∧ s.2 = s'.2)
      (f.databaseSource c env : Action σ (Client × String))
      (f.databaseSource c env' : Action τ (Client × String)) := by
  rw [databaseSource, databaseSource, Authentication.checkEnvironment_eq h]
  refine (alike_ofExcept_self _).then ?_
  refine (alike_ofExcept_self _).bind_eq fun server ↦ ?_
  exact (client_alike h server).bind fun _ _ hc ↦ alike_pure ⟨hc, rfl⟩

end Factory

end VaultAccess
