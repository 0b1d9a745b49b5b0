import VaultAccess.Proofs.Rotation.Watching

/-!
# The credentials that a pool holds

A rotation hands a pool a user name and then a password, and the pool may refuse either. Nothing
takes the user name back when the password is refused; the next rotation is to try again. So the two
that a pool has accepted last need not belong together.

They do unless the last password that the pool was handed is one that it refused, and then the user
name is the one that came with it (`Explained`). A password that is refused leaves the one before in
force; a password that is accepted always finds the user name that came with it accepted just before
(`Explained.attempt`).
-/

namespace VaultAccess.Rotation

/-- The credentials that the rotation fetched that ends with a move, if it fetched any. -/
def Move.credentials? (m : Move) : Option Credentials :=
  m.fetched?.bind Except.toOption

/-- The text that was accepted last with a hook, or the one there was before the calls. -/
def held (hook : Hook) (before : String) (calls : List HookCall) : String :=
  ((calls.find? fun call ↦ call.hook == hook && call.accepted).bind HookCall.text).getD before

/-- The last password that a pool was handed, and whether it accepted it. -/
def lastPassword? (calls : List HookCall) : Option HookCall :=
  calls.find? fun call ↦ call.hook == .setPassword

/-- The user name that is held came with one of some credentials and the password with one of them;
and if they are not the same, the pool refused the password of the former, and was not handed
another since. If the last password was refused, it is that of the former. -/
def Explained (c₀ : Credentials) (given : List Credentials) (calls : List HookCall) : Prop :=
  ∃ c ∈ given, ∃ d ∈ given, held .setUsername c₀.username calls = c.username ∧
    held .setPassword c₀.password.expose calls = d.password.expose ∧
    (c = d ∨ lastPassword? calls = some ⟨.setPassword, some c.password.expose, false⟩) ∧
    ∀ password, lastPassword? calls = some ⟨.setPassword, some password, false⟩ →
      password = c.password.expose

variable {π : Type} {pool : Pool π} {c₀ c : Credentials} {given more : List Credentials}
  {calls new : List HookCall} {ok : Bool}

/-- Before anything is called the pool holds what it was built with. -/
theorem explained_nil : Explained c₀ [c₀] [] :=
  ⟨c₀, List.mem_cons_self, c₀, List.mem_cons_self, rfl, rfl, .inl rfl,
    fun _ h ↦ by cases h⟩

theorem Explained.append (h : Explained c₀ given calls) : Explained c₀ (given ++ more) calls := by
  obtain ⟨c, hc, d, hd, hheld⟩ := h
  exact ⟨c, List.mem_append_left _ hc, d, List.mem_append_left _ hd, hheld⟩

/-- An update keeps what is held explained, wherever the pool stops it. -/
theorem Explained.attempt (h : Explained c₀ given calls) (hnew : Attempt c new ok) :
    Explained c₀ (given ++ [c]) (new ++ calls) := by
  have hmem : c ∈ given ++ [c] := by simp
  cases hnew with
  | usernameRefused => exact h.append
  | passwordRefused =>
    -- the user name is new, and the password is the one before
    obtain ⟨-, -, d, hd, -, hpassword, -⟩ := h
    refine ⟨c, hmem, d, List.mem_append_left _ hd, rfl, hpassword, .inr rfl, ?_⟩
    rintro _ ⟨⟩
    rfl
  | accepted => exact ⟨c, hmem, c, hmem, rfl, rfl, .inl rfl, by rintro _ ⟨⟩⟩

namespace System

variable {s₀ s : System π} {ms : List Move}

/-- A rotation of a watched pool keeps what is held explained. -/
theorem explained_deliver {w : Watched π} (h : Explained c₀ given w.calls)
    (fetched : Except Failure Credentials) :
    Explained c₀ (given ++ fetched.toOption.toList)
      (Manager.deliver pool.watched fetched w).2.calls := by
  cases fetched with
  | error f => exact h.append
  | ok c =>
    obtain ⟨new, hupdate, hnew⟩ := pool.update_watched (c := c) w
    rw [deliver_ok, hupdate]
    exact h.attempt hnew

/-- What a watched pool holds is explained by what was fetched. -/
theorem explained_run {s t : System (Watched π)} (h : Explained c₀ given s.pool.calls)
    (hrun : s.run pool.watched ms = some t) :
    Explained c₀ (given ++ ms.filterMap Move.credentials?) t.pool.calls := by
  induction ms generalizing s given with
  | nil =>
    obtain rfl := Option.some.inj hrun
    exact h.append
  | cons m ms ih =>
    obtain ⟨s', hm, hrest⟩ := run_cons_eq_some.1 hrun
    have hstep := step_eq_some_iff.1 hm
    have hs' : Explained c₀ (given ++ m.credentials?.toList) s'.pool.calls := by
      cases hfetched : m.fetched? with
      | none =>
        rw [hstep.pool_of_none hfetched]
        exact h.append
      | some fetched =>
        rw [hstep.pool_of_some hfetched, Move.credentials?, hfetched]
        exact explained_deliver h fetched
    have ht := ih hs' hrest
    rw [List.append_assoc] at ht
    have hcredentials : (m :: ms).filterMap Move.credentials? =
        m.credentials?.toList ++ ms.filterMap Move.credentials? := by
      rw [List.filterMap_cons]
      cases m.credentials? <;> rfl
    rwa [hcredentials]

/-- However rotations end and whatever the pool refuses: the user name and the password that the
pool has accepted last each come from a pair that it was built with or that was fetched, and from
one and the same pair unless the last password that it was handed is one that it refused. In that
case the user name is of the pair whose password was refused. -/
theorem held_credentials (c₀ : Credentials) (hrun : s₀.run pool ms = some s) :
    ∃ c ∈ c₀ :: ms.filterMap Move.credentials?, ∃ d ∈ c₀ :: ms.filterMap Move.credentials?,
      held .setUsername c₀.username (s₀.hookCalls pool ms) = c.username ∧
        held .setPassword c₀.password.expose (s₀.hookCalls pool ms) = d.password.expose ∧
        (c = d ∨ lastPassword? (s₀.hookCalls pool ms) =
          some ⟨.setPassword, some c.password.expose, false⟩) ∧
        ∀ password, lastPassword? (s₀.hookCalls pool ms) =
            some ⟨.setPassword, some password, false⟩ → password = c.password.expose := by
  obtain ⟨t, ht, hcalls⟩ := exists_watched hrun
  rw [hcalls]
  exact explained_run explained_nil ht

/-! ### A pool that refuses passwords -/

/-- A manager with a pool that refuses passwords. -/
def withRefusal : System RecordedPool where
  manager := { settings := {} }
  pool :=
    { refusal := fun hook ↦ if hook = .setPassword then some ⟨"pool is closed", []⟩ else none }

/-- The first rotation of such a pool, which fetches another pair. -/
def refusedRotation : List Move :=
  [.call, .finishCall (.ok ⟨"user-1", ⟨"pass-1"⟩, 3600⟩)]

theorem exists_refusedRotation :
    ∃ s, withRefusal.run RecordedPool.hooks refusedRotation = some s :=
  Option.isSome_iff_exists.1 (by decide +kernel)

theorem hookCalls_refusedRotation : withRefusal.hookCalls RecordedPool.hooks refusedRotation =
    [⟨.setPassword, some "pass-1", false⟩, ⟨.setUsername, some "user-1", true⟩] := by
  decide +kernel

/-- The first rotation gets such a pool to accept a user name, and no pair that it was ever given
goes with what it holds then. -/
theorem held_of_refused_password :
    ∃ s, withRefusal.run RecordedPool.hooks refusedRotation = some s ∧
      ¬ ∃ c ∈ [(⟨"user-0", ⟨"pass-0"⟩, 3600⟩ : Credentials), ⟨"user-1", ⟨"pass-1"⟩, 3600⟩],
        held .setUsername "user-0"
            (withRefusal.hookCalls RecordedPool.hooks refusedRotation) = c.username ∧
          held .setPassword "pass-0"
            (withRefusal.hookCalls RecordedPool.hooks refusedRotation) = c.password.expose := by
  obtain ⟨s, hrun⟩ := exists_refusedRotation
  refine ⟨s, hrun, ?_⟩
  rw [hookCalls_refusedRotation]
  rintro ⟨c, hc, husername, hpassword⟩
  have hnew : "user-1" = c.username := husername
  have hold : "pass-0" = c.password.expose := hpassword
  rcases List.mem_cons.1 hc with rfl | hc
  · exact absurd hnew (by decide)
  · obtain rfl := List.mem_singleton.1 hc
    exact absurd hold (by decide)

/-- The user name is of the pair whose password the pool refused, the password of the one before. -/
theorem held_credentials_of_refusal :
    let calls := withRefusal.hookCalls RecordedPool.hooks refusedRotation
    ∃ s, withRefusal.run RecordedPool.hooks refusedRotation = some s ∧
      lastPassword? calls = some ⟨.setPassword, some "pass-1", false⟩ ∧
      ∃ c d : Credentials, "user-1" = c.username ∧ "pass-1" = c.password.expose ∧
        "pass-0" = d.password.expose := by
  intro calls
  obtain ⟨s, hrun⟩ := exists_refusedRotation
  obtain ⟨c, -, d, -, husername, hpassword, -, hrefused⟩ :=
    held_credentials ⟨"user-0", ⟨"pass-0"⟩, 3600⟩ hrun
  rw [hookCalls_refusedRotation] at husername hpassword hrefused
  refine ⟨s, hrun, ?_, c, d, husername, hrefused "pass-1" rfl, hpassword⟩
  exact congrArg lastPassword? hookCalls_refusedRotation

end System

end VaultAccess.Rotation
