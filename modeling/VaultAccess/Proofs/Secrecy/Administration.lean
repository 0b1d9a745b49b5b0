import VaultAccess.Proofs.Administration
import VaultAccess.Proofs.Secrecy.Servers

/-!
# Administration that is alike

Whoever administers a server brings the token of each request, and the keys that unseal the server.
Neither shows: what is done with other tokens and other keys is logged alike and ends alike.
-/

namespace VaultAccess.Admin

open VaultAccess.Action Http

/-- Something to do as an administrator. -/
inductive Task where
  | setUp (shares threshold : UInt32)
  | submitKey (key : Secret)
  | health
  | command (token : Secret) (c : Command)
  | roleId (token : Secret) (path role : String)
  | secretId (token : Secret) (path role : String)

/-- What comes of it. -/
inductive Report where
  | keys (keys : Reply.Keys)
  | seal (state : Reply.Seal)
  | health (report : HealthReport)
  | done
  | id (id : Secret)

/-- Two tasks are alike: they differ at most in the token or in the key that is brought. -/
inductive Task.Alike : Task → Task → Prop
  | setUp (shares threshold : UInt32) : Alike (.setUp shares threshold) (.setUp shares threshold)
  | submitKey (key key' : Secret) : Alike (.submitKey key) (.submitKey key')
  | health : Alike .health .health
  | command {token token' : Secret} (h : token.Alike token') (c : Command) :
      Alike (.command token c) (.command token' c)
  | roleId {token token' : Secret} (h : token.Alike token') (path role : String) :
      Alike (.roleId token path role) (.roleId token' path role)
  | secretId {token token' : Secret} (h : token.Alike token') (path role : String) :
      Alike (.secretId token path role) (.secretId token' path role)

variable {ν μ : Type} {R : ν → μ → Prop} {e : Endpoint} {net : Network ν} {net' : Network μ}

/-- Do something as an administrator. -/
def Task.run (e : Endpoint) (net : Network ν) : Task → Action ν Report
  | .setUp shares threshold => return .keys (← Admin.setUp e net shares threshold)
  | .submitKey key => return .seal (← Admin.submitKey e net key)
  | .health => return .health (← Admin.health e net)
  | .command token c => do
    c.run e net token
    return .done
  | .roleId token path role => return .id (← Admin.roleId e net token path role)
  | .secretId token path role => return .id (← Admin.secretId e net token path role)

/-- Setting a server up takes no token. -/
theorem setUp_alike (hnet : net.Alike R (AlikeAnswers Eq) net') (shares threshold : UInt32) :
    Action.Alike R Eq (setUp e net shares threshold) (setUp e net' shares threshold) := by
  refine (Endpoint.request_alike_eq hnet rfl .none (.same _)).bind_eq fun reply ↦ ?_
  exact (alike_orFail_self _ _).bind_eq fun _ ↦ (alike_emit _).then (alike_pure rfl)

/-- A key is sent and not shown. -/
theorem submitKey_alike (hnet : net.Alike R (AlikeAnswers Eq) net') (key key' : Secret) :
    Action.Alike R Eq (submitKey e net key) (submitKey e net' key') := by
  refine (Endpoint.request_alike_eq hnet rfl .none (.key key key')).bind_eq fun reply ↦ ?_
  exact (alike_orFail_self _ _).bind_eq fun _ ↦ (alike_emit _).then (alike_pure rfl)

theorem health_alike (hnet : net.Alike R (AlikeAnswers Eq) net') :
    Action.Alike R Eq (health e net) (health e net') := by
  refine (Endpoint.send_alike hnet .none (.same none)).bind fun r r' ⟨q, hq, hr⟩ ↦ ?_
  rw [AlikeAnswers, Endpoint.isLogin_of_prepare hq] at hr
  exact alike_pure (congrArg HealthReport.ofResponse hr)

variable {token token' : Secret}

/-- A command succeeds or fails alike, whatever token is brought. -/
theorem command_alike (hnet : net.Alike R (AlikeAnswers Eq) net') (h : token.Alike token')
    (path : String) (body : Option Json) :
    Action.Alike R Eq (command e net token path body) (command e net' token' path body) :=
  (Endpoint.request_alike_eq hnet rfl (.some h) (.same _)).bind_eq fun _ ↦ alike_pure rfl

/-- So does each of the commands that there are. -/
theorem Command.run_alike (hnet : net.Alike R (AlikeAnswers Eq) net') (h : token.Alike token')
    (c : Command) : Action.Alike R Eq (c.run e net token) (c.run e net' token') := by
  cases c with
  | mount path type options => exact (command_alike hnet h _ _).then (alike_emit _)
  | enableAuth path method => exact command_alike hnet h _ _
  | createTransitKey engine key => exact command_alike hnet h _ _

theorem roleId_alike (hnet : net.Alike R (AlikeAnswers Eq) net') (h : token.Alike token')
    (path role : String) :
    Action.Alike R Eq (roleId e net token path role) (roleId e net' token' path role) := by
  refine (Endpoint.request_alike_eq hnet rfl (.some h) (.same _)).bind_eq fun reply ↦ ?_
  exact (alike_orFail_self _ _).bind_eq fun _ ↦ alike_pure rfl

theorem secretId_alike (hnet : net.Alike R (AlikeAnswers Eq) net') (h : token.Alike token')
    (path role : String) :
    Action.Alike R Eq (secretId e net token path role) (secretId e net' token' path role) := by
  refine (Endpoint.request_alike_eq hnet rfl (.some h) (.same _)).bind_eq fun reply ↦ ?_
  exact (alike_orFail_self _ _).bind_eq fun _ ↦ alike_pure rfl

/-- Tasks that are alike are done alike. -/
theorem Task.Alike.run {t t' : Task} (h : t.Alike t') (e : Endpoint)
    (hnet : net.Alike R (AlikeAnswers Eq) net') :
    Action.Alike R Eq (t.run e net) (t'.run e net') := by
  cases h with
  | setUp shares threshold => exact (setUp_alike hnet _ _).bind_eq fun _ ↦ alike_pure rfl
  | submitKey key key' => exact (submitKey_alike hnet key key').bind_eq fun _ ↦ alike_pure rfl
  | health => exact (health_alike hnet).bind_eq fun _ ↦ alike_pure rfl
  | command h c => exact (Command.run_alike hnet h c).then (alike_pure rfl)
  | roleId h path role => exact (roleId_alike hnet h _ _).bind_eq fun _ ↦ alike_pure rfl
  | secretId h path role => exact (secretId_alike hnet h _ _).bind_eq fun _ ↦ alike_pure rfl

end VaultAccess.Admin
