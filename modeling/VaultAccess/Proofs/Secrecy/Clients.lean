import VaultAccess.Client
import VaultAccess.Proofs.Secrecy.Servers
import VaultAccess.Proofs.Secrecy.Sessions

/-!
# Clients that are alike

Two clients are alike if they prove who they are by the same method, with ids and tokens that may
differ, and send their requests to the same place. Logging in, they get tokens that may differ;
with these they ask for the same, so the calls that they make of servers that are alike act alike.
-/

namespace VaultAccess

open VaultAccess.Action Http

/-- Two methods are alike: they differ at most in what is secret. -/
inductive Authentication.Alike : Authentication → Authentication → Prop
  | token {value value' : Secret} (h : value.Alike value') : Alike (.token value) (.token value')
  | approle (path : String) (roleId secretId roleId' secretId' : Secret) :
      Alike (.approle path roleId secretId) (.approle path roleId' secretId')

/-- Two clients are alike: their methods are, and their requests go to the same place. -/
structure Client.Alike (c c' : Client) : Prop where
  endpoint : c.endpoint = c'.endpoint
  method : c.method.Alike c'.method

/-- Two backends serve secrets alike. -/
structure Backend.Alike {σ τ : Type} (R : σ → τ → Prop) (b : Backend σ) (b' : Backend τ) :
    Prop where
  read : ∀ engine name version,
    Action.Alike R Eq (b.read engine name version) (b'.read engine name version)
  write : ∀ engine name fields,
    Action.Alike R Eq (b.write engine name fields) (b'.write engine name fields)
  encrypt : ∀ engine key plaintext,
    Action.Alike R Eq (b.encrypt engine key plaintext) (b'.encrypt engine key plaintext)
  decrypt : ∀ engine key ciphertext,
    Action.Alike R Eq (b.decrypt engine key ciphertext) (b'.decrypt engine key ciphertext)

variable {ν μ : Type} {R : ν → μ → Prop} {V : Response → Response → Prop} {net : Network ν}
  {net' : Network μ}

/-! ### Logging in -/

namespace Authentication

variable {m m' : Authentication}

theorem Alike.name_eq (h : m.Alike m') : m.name = m'.name := by
  cases h <;> rfl

/-- Diagnostics show the same of methods that are alike. -/
theorem Alike.shown_eq (h : m.Alike m') : m.shown = m'.shown := by
  cases h <;> rfl

/-- Methods that are alike log in alike. -/
theorem Alike.login (h : m.Alike m') (e : Endpoint) (hnet : net.Alike R (AlikeAnswers V) net') :
    Action.Alike R Grant.Alike (m.login e net) (m'.login e net') := by
  cases h with
  | token h => exact alike_pure ⟨h, rfl⟩
  | approle path roleId secretId roleId' secretId' =>
    have hrequest : Action.Alike R (Option.Rel Reply.Login.Alike)
        (e.request net (net.reader .login) .post ("auth/" ++ path ++ "/login") none
          (some (loginBody roleId secretId)))
        (e.request net' (net'.reader .login) .post ("auth/" ++ path ++ "/login") none
          (some (loginBody roleId' secretId'))) := by
      rw [hnet.reader_eq]
      -- a request without a token that brings something: its answer may issue another token
      refine Endpoint.request_alike hnet .none (.login _ _ _ _) fun q r r' hq hr ↦ ?_
      rw [AlikeAnswers, Endpoint.isLogin_of_prepare hq] at hr
      exact classify_alike Reply.Login.Alike.refl hr
    refine (hrequest.mapFailure asRefusal).bind fun reply reply' hreply ↦ ?_
    refine (alike_orFail hreply _).bind fun issued issued' hissued ↦ ?_
    rw [hissued.leaseDuration, hissued.renewable]
    exact (alike_emit _).then (alike_pure ⟨hissued.clientToken, rfl⟩)

end Authentication

/-! ### Calls -/

namespace Client

variable {c c' : Client} {method : Method} {path : String} {body : Option Json}
  {kind : Reply.Kind}

/-- Clients that are alike obtain tokens that are alike. -/
theorem Alike.token (hc : c.Alike c') (hnet : net.Alike R (AlikeAnswers V) net') :
    Action.Alike (Link.Alike R) SessionToken.Alike (c.token net) (c'.token net') := by
  rw [Client.token, Client.token, hc.endpoint]
  exact Link.obtain_alike (hc.method.login _ hnet) hnet.now

/-- A call acts alike if what is made of the responses to it is alike. -/
theorem Alike.request (kind : Reply.Kind) {W : kind.Content → kind.Content → Prop}
    (hc : c.Alike c') (hnet : net.Alike R (AlikeAnswers V) net')
    (hread : ∀ r r', V r r' → AlikeOutcomes (Option.Rel W) (classify path (net.reader kind) r)
      (classify path (net.reader kind) r')) :
    Action.Alike (Link.Alike R) (Option.Rel W) (c.request net (net.reader kind) method path body)
      (c'.request net' (net'.reader kind) method path body) := by
  refine (hc.token hnet).bind fun t t' ht ↦ Link.outsideAction_alike ?_
  rw [hc.endpoint]
  exact Endpoint.request_alike_of_not_login hnet (Bool.and_false _) (.some ht.value) (.same _) hread

/-- Calls to which the responses are the same yield the same. -/
theorem Alike.request_eq (hc : c.Alike c') (hnet : net.Alike R (AlikeAnswers Eq) net') :
    Action.Alike (Link.Alike R) Eq (c.request net (net.reader kind) method path body)
      (c'.request net' (net'.reader kind) method path body) := by
  refine (hc.token hnet).bind fun t t' ht ↦ Link.outsideAction_alike ?_
  rw [hc.endpoint]
  exact Endpoint.request_alike_eq hnet (Bool.and_false _) (.some ht.value) (.same _)

theorem Alike.backend (hc : c.Alike c') (hnet : net.Alike R (AlikeAnswers Eq) net') :
    (c.backend net).Alike (Link.Alike R) (c'.backend net') where
  read _ _ _ := (hc.request_eq hnet).bind_eq fun _ ↦ alike_pure rfl
  write _ _ _ := (hc.request_eq hnet).bind_eq fun _ ↦ alike_pure rfl
  encrypt _ _ _ := (hc.request_eq hnet).bind_eq fun _ ↦ alike_orFail_self _ _
  decrypt _ _ _ := (hc.request_eq hnet).bind_eq fun _ ↦
    (alike_orFail_self _ _).bind_eq fun _ ↦ alike_ofExcept_self _

/-- Only here do clients yield a secret, and only the password may differ. -/
theorem Alike.readCredentials (hc : c.Alike c')
    (hnet : net.Alike R (AlikeAnswers AlikeCredentials) net') :
    Action.Alike (Link.Alike R) (Option.Rel Reply.Database.Alike)
      ((c.backend net).readCredentials path) ((c'.backend net').readCredentials path) :=
  hc.request .database hnet fun _ _ h ↦ classify_alike Reply.Database.Alike.refl h

end Client

end VaultAccess
