import VaultAccess.Admin
import VaultAccess.Proofs.Exchange

/-!
# What administration can tell

Mounting an engine, enabling a method of authentication and creating a key are commands: requests
whose reply is thrown away. With the reply goes the difference between a server that has done what
it was told and one that has nothing at that path, so a command that succeeds was accepted or met
with the status for what is not there. No other refusal comes out as success.
-/

namespace VaultAccess.Admin

variable {ν : Type}

/-- A request whose reply is thrown away. -/
inductive Command where
  | mount (path type : String) (options : Option Json)
  | enableAuth (path method : String)
  | createTransitKey (engine key : String)

namespace Command

/-- Give a command. -/
def run (e : Endpoint) (net : Http.Network ν) (token : Secret) : Command → Action ν Unit
  | .mount path type options => Admin.mount e net token path type options
  | .enableAuth path method => Admin.enableAuth e net token path method
  | .createTransitKey engine key => Admin.createTransitKey e net token engine key

/-- Where a command goes. -/
def path : Command → String
  | .mount path _ _ => "sys/mounts/" ++ path
  | .enableAuth path _ => "sys/auth/" ++ path
  | .createTransitKey engine key => engine ++ "/keys/" ++ key

/-- What is sent with a command. -/
def body : Command → Option Json
  | .mount _ type options =>
    some (.object ((options.map fun o ↦ ("options", o)).toList ++ [("type", .text type)]))
  | .enableAuth _ method => some (.object [("type", .text method)])
  | .createTransitKey _ _ => none

/-- The response to a command, or why there is none. -/
def response (c : Command) (e : Endpoint) (net : Http.Network ν) (token : Secret) (s : Scene ν) :
    Except Failure Http.Response :=
  ((e.send net .post c.path (some token) c.body).perform s).1

variable {c : Command} {e : Endpoint} {net : Http.Network ν} {token : Secret} {s : Scene ν}

theorem perform_command {path : String} {body : Option Json} :
    ((command e net token path body).perform s).1 =
      (((e.send net .post path (some token) body).perform s).1.bind
        (classify path (net.reader .acknowledgement))).map fun _ ↦ () := by
  rw [← Endpoint.perform_request]
  exact congrArg Prod.fst Action.perform_bind_pure

/-- A command ends as its response is sorted, if there is one, and the reply is thrown away. -/
theorem perform_run :
    ((c.run e net token).perform s).1 =
      ((c.response e net token s).bind (classify c.path (net.reader .acknowledgement))).map
        fun _ ↦ () := by
  cases c with
  | mount path type options => exact Action.perform_bind_emit.trans perform_command
  | enableAuth path method => exact perform_command
  | createTransitKey engine key => exact perform_command

/-- A command succeeds exactly if its response is a success with a body that can be read or none, or
if its response says that there is nothing. With any other status it fails. -/
theorem run_eq_ok_iff (c : Command) (e : Endpoint) (net : Http.Network ν) (token : Secret)
    (s : Scene ν) :
    (((c.run e net token).perform s).1 = .ok () ↔
      ∃ r, c.response e net token s = .ok r ∧ (r.status = 404 ∨ r.status = 204 ∨
        r.status.isSuccess = true ∧ r.body.Reads Json.read?)) ∧
      ∀ r, c.response e net token s = .ok r → r.status.isSuccess = false → r.status ≠ 404 →
        ∃ f, ((c.run e net token).perform s).1 = .error f := by
  rw [perform_run]
  rcases c.response e net token s with f | r
  · exact ⟨⟨nofun, fun ⟨_, hr, _⟩ ↦ nomatch hr⟩, nofun⟩
  let reader := net.reader .acknowledgement
  have hok : ((classify c.path reader r).map fun _ ↦ ()) = .ok () ↔
      ∃ value, classify c.path reader r = .ok value := by
    cases classify c.path reader r <;> simp [Except.map]
  refine ⟨(hok.trans exists_classify_eq_ok_iff).trans ⟨fun h ↦ ⟨r, rfl, h⟩, ?_⟩, ?_⟩
  · rintro ⟨_, hr, h⟩
    exact Except.ok.inj hr ▸ h
  · intro _ hr hsuccess habsent
    obtain rfl := Except.ok.inj hr
    obtain ⟨f, hf⟩ : ∃ f, classify c.path reader r = .error f :=
      exists_classify_eq_error hsuccess habsent
    exact ⟨f, congrArg (Except.map fun _ ↦ ()) hf⟩

/-- A network that answers every request with the status for what is not there. -/
def absent : Http.Network Unit where
  exchange _ s := (some ⟨404, .whole []⟩, s)
  now _ := ⟨0⟩
  explain _ _ := "expected value at line 1 column 1"

set_option maxRecDepth 4000 in
/-- Creating a key where there is no engine succeeds, although its response is no success. -/
theorem run_of_absent :
    ¬ ∀ (c : Command) (e : Endpoint) (net : Http.Network Unit) (token : Secret) (s : Scene Unit)
      (r : Http.Response), c.response e net token s = .ok r →
        ((c.run e net token).perform s).1 = .ok () → r.status.isSuccess = true := by
  intro h
  have hresponse : (createTransitKey "transit" "k").response ⟨⟨"agent"⟩, "http://vault.test", none⟩
      absent ⟨"t"⟩ ⟨(), []⟩ = .ok ⟨404, .whole []⟩ := rfl
  have hrun : (((createTransitKey "transit" "k").run ⟨⟨"agent"⟩, "http://vault.test", none⟩
      absent ⟨"t"⟩).perform ⟨(), []⟩).1 = .ok () := by
    rw [perform_run, hresponse]
    rfl
  exact absurd (h _ _ _ _ _ _ hresponse hrun) (by decide)

end Command

end VaultAccess.Admin
