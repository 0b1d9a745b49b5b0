import VaultAccess.Proofs.Rotation.HeldCredentials
import VaultAccess.Proofs.Rotation.Retries

/-!
# What rotations call their pool with

A rotation that has fetched credentials goes through the hooks of its pool, the user name first, then
the password, then the eviction, and stops at the first that is refused (`KeepsTo`). It succeeds if it
comes to the end, so every success leaves one accepted eviction in the record and nothing else does:
over a whole run there are as many of the one as of the other (`successes_run`). The record of a run
is that of its steps, one after the other (`hookCalls_concat`), and only rotations that end add to it.
-/

namespace VaultAccess.Rotation

variable {π : Type} {pool : Pool π} {c : Credentials} {calls : List HookCall} {ok : Bool}

/-! ### Calls that keep to a plan -/

/-- A call without the answer of the pool. -/
def HookCall.request (call : HookCall) : Hook × Option String := (call.hook, call.text)

/-- A call that retires connections. -/
def HookCall.evicts (call : HookCall) : Bool := call.hook == .evict && call.accepted

/-- What a pool is asked if it accepts everything, in order. -/
def plan (c : Credentials) : List (Hook × Option String) :=
  [(.setUsername, some c.username), (.setPassword, some c.password.expose), (.evict, none)]

/-- A request that was accepted. -/
def acceptedCall (request : Hook × Option String) : HookCall := ⟨request.1, request.2, true⟩

/-- Calls, in order, follow some requests up to the first that is refused. -/
structure KeepsTo (requests : List (Hook × Option String)) (calls : List HookCall) : Prop where
  follows : calls.map HookCall.request <+: requests
  accepted : ∀ call ∈ calls.dropLast, call.accepted = true
  ends : calls.map HookCall.request = requests ∨ ∃ call ∈ calls.getLast?, call.accepted = false

theorem Attempt.keepsTo (h : Attempt c calls ok) : KeepsTo (plan c) calls.reverse := by
  cases h with
  | usernameRefused => exact ⟨⟨_, rfl⟩, nofun, .inr ⟨_, rfl, rfl⟩⟩
  | passwordRefused => exact ⟨⟨_, rfl⟩, by simp, .inr ⟨_, rfl, rfl⟩⟩
  | accepted => exact ⟨List.prefix_rfl, by simp, .inl rfl⟩

/-- An update succeeds if all of its calls are accepted and it comes to the end. -/
theorem Attempt.ok_iff (h : Attempt c calls ok) :
    ok = true ↔ calls.reverse = (plan c).map acceptedCall := by
  cases h with
  | usernameRefused | passwordRefused => simp [plan]
  | accepted => simp [plan, acceptedCall]

theorem Attempt.countP_evicts (h : Attempt c calls ok) :
    calls.countP HookCall.evicts = ok.toNat := by
  cases h with
  | usernameRefused | passwordRefused => rfl
  | accepted => cases ok <;> rfl

/-- A pool that has accepted everything holds what it was handed. -/
theorem held_of_plan (c : Credentials) (older : List HookCall) (before : String) :
    held .setUsername before (((plan c).map acceptedCall).reverse ++ older) = c.username ∧
      held .setPassword before (((plan c).map acceptedCall).reverse ++ older) =
        c.password.expose :=
  ⟨rfl, rfl⟩

namespace System

variable {s₀ s s' : System π} {m : Move} {ms : List Move} {fetched : Except Failure Credentials}
  {outcome : Except Chain UInt64}

/-! ### Records of runs -/

/-- The calls that a move makes, the newest first. -/
def newCalls (pool : Pool π) (s : System π) (m : Move) : List HookCall :=
  (m.fetched?.map fun fetched ↦
    (Manager.deliver pool.watched fetched ⟨s.pool, []⟩).2.calls).getD []

/-- What a rotation calls does not depend on what was called before. -/
theorem deliver_calls (pool : Pool π) (fetched : Except Failure Credentials) (w : Watched π) :
    (Manager.deliver pool.watched fetched w).2.calls =
      (Manager.deliver pool.watched fetched ⟨w.pool, []⟩).2.calls ++ w.calls := by
  cases fetched with
  | error f => rfl
  | ok c =>
    rw [deliver_ok, deliver_ok, Pool.update_run, Pool.update_run]
    simp only [Pool.watched, Watched.record, ExceptT.run_mk]
    rcases (pool.setUsername c.username).run w.pool with ⟨e | ⟨⟩, p⟩
    · rfl
    · dsimp only
      rcases (pool.setPassword c.password).run p with ⟨e | ⟨⟩, q⟩ <;> rfl

theorem hookCalls_of_run {t : System (Watched π)} (ht : s₀.watched.run pool.watched ms = some t) :
    s₀.hookCalls pool ms = t.pool.calls := by
  rw [hookCalls, ht]
  rfl

/-- The record of a run with one more step. -/
theorem hookCalls_concat (hrun : s₀.run pool ms = some s) (hstep : s.step pool m = some s') :
    s₀.hookCalls pool (ms ++ [m]) = s.newCalls pool m ++ s₀.hookCalls pool ms := by
  obtain ⟨t, ht, rfl⟩ := (run_unwatched (s := s₀.watched)).1 hrun
  rw [step_unwatched] at hstep
  obtain ⟨t', ht', -⟩ := Option.map_eq_some_iff.1 hstep
  rw [hookCalls_of_run ht, hookCalls_of_run (run_concat_eq_some.2 ⟨t, ht, ht'⟩), newCalls]
  cases hfetched : m.fetched? with
  | none =>
    rw [(step_eq_some_iff.1 ht').pool_of_none hfetched]
    rfl
  | some fetched =>
    rw [(step_eq_some_iff.1 ht').pool_of_some hfetched]
    exact deliver_calls pool fetched t.pool

/-! ### One rotation -/

/-- The calls of a rotation and its outcome belong together. -/
theorem attempt_of_fetched (pool : Pool π) (s : System π) (hfetched : m.fetched? = some (.ok c)) :
    ∃ outcome, s.outcome? pool m = some outcome ∧ Attempt c (s.newCalls pool m) outcome.isOk ∧
      ∀ lease, outcome = .ok lease → lease = c.lease := by
  obtain ⟨calls, hupdate, hattempt⟩ := pool.update_watched (c := c) ⟨s.pool, []⟩
  rw [List.append_nil] at hupdate
  refine ⟨((pool.update c).run s.pool).1.map fun _ ↦ c.lease, ?_, ?_, ?_⟩
  · rw [outcome?, hfetched]
    rfl
  · rw [newCalls, hfetched, Option.map_some, Option.getD_some, deliver_ok, hupdate]
    rcases h : ((pool.update c).run s.pool).1 with e | ⟨⟩
    all_goals
      rw [h] at hattempt
      exact hattempt
  · intro lease hlease
    rcases h : ((pool.update c).run s.pool).1 with e | ⟨⟩
    all_goals
      rw [h] at hlease
      cases hlease
    rfl

theorem newCalls_of_failed (pool : Pool π) (s : System π) {f : Failure}
    (hfetched : m.fetched? = some (.error f)) :
    s.newCalls pool m = [] ∧ s.outcome? pool m = some (.error f.chain) := by
  rw [newCalls, outcome?, hfetched]
  exact ⟨rfl, rfl⟩

/-- Every rotation that succeeds retires connections once, and no other does. -/
theorem countP_newCalls (pool : Pool π) (s : System π) (m : Move) :
    (s.newCalls pool m).countP HookCall.evicts = (s.outcome? pool m).toList.countP Except.isOk := by
  cases hfetched : m.fetched? with
  | none =>
    rw [newCalls, outcome?, hfetched]
    rfl
  | some fetched =>
    cases fetched with
    | error f =>
      obtain ⟨hcalls, houtcome⟩ := newCalls_of_failed pool s hfetched
      rw [hcalls, houtcome]
      rfl
    | ok c =>
      obtain ⟨outcome, houtcome, hattempt, -⟩ := attempt_of_fetched pool s hfetched
      rw [hattempt.countP_evicts, houtcome]
      cases outcome <;> rfl

/-- Over a run there are as many rotations that succeed as accepted evictions. -/
theorem successes_run (hrun : s₀.run pool ms = some s) :
    (s₀.outcomes pool ms).countP Except.isOk =
      (s₀.hookCalls pool ms).countP HookCall.evicts := by
  induction ms using List.reverseRecOn generalizing s with
  | nil => rfl
  | append_singleton ms m ih =>
    obtain ⟨u, hu, hstep⟩ := run_concat_eq_some.1 hrun
    rw [outcomes_concat hu hstep, hookCalls_concat hu hstep, List.countP_append,
      List.countP_append, ih hu, countP_newCalls, Nat.add_comm]

/-! ### What a rotation leaves behind -/

/-- A rotation has succeeded: failures are counted from the beginning, and the delay is the one that
the lease asks for. -/
structure Renewed (pool : Pool π) (s s' : System π) (m : Move) (lease : UInt64) : Prop where
  retries : s'.manager.retries = 0
  returned : Returns pool s s' (s.manager.settings.nextDelay lease) m
  kept : s'.manager.lastDelay = s.manager.settings.nextDelay lease

/-- A rotation has failed: one more failure is counted, which never leads back to none, and the delay
is the one that the count asks for, whatever was fetched. -/
structure PutOff (pool : Pool π) (s s' : System π) (m : Move) : Prop where
  retries : s'.manager.retries = (s.manager.settings.backoff.delay s.manager.retries).2 + 1
  counted : s'.manager.retries ≠ 0
  returned : Returns pool s s' (s.manager.settings.backoff.delay s.manager.retries).1 m
  kept : s'.manager.lastDelay = (s.manager.settings.backoff.delay s.manager.retries).1

theorem Transition.renewed {lease : UInt64} (h : Transition pool s m s')
    (hok : s.outcome? pool m = some (.ok lease)) : Renewed pool s s' m lease :=
  ⟨h.retries_of_some hok, (h.returns hok).1, (h.returns hok).2⟩

theorem Transition.putOff {e : Chain} (h : Transition pool s m s')
    (herror : s.outcome? pool m = some (.error e)) : PutOff pool s s' m := by
  have hretries : s'.manager.retries =
      (s.manager.settings.backoff.delay s.manager.retries).2 + 1 := h.retries_of_some herror
  refine ⟨hretries, fun hzero ↦ ?_, (h.returns herror).1, (h.returns herror).2⟩
  have hnumber := congrArg UInt32.toNat (hretries.symm.trans hzero)
  rw [Backoff.toNat_delay_snd_add_one, UInt32.toNat_zero] at hnumber
  exact Nat.succ_ne_zero _ hnumber

/-- A rotation has made some calls and come to an outcome. One that fetched nothing calls nothing; one
that did goes through the hooks with what it fetched up to the first that is refused, and succeeds if
there is none. -/
structure Rotated (pool : Pool π) (s s' : System π) (m : Move)
    (fetched : Except Failure Credentials) (calls : List HookCall)
    (outcome : Except Chain UInt64) : Prop where
  reported : s.outcome? pool m = some outcome
  silent : ∀ f, fetched = .error f → calls = []
  keeps : ∀ c, fetched = .ok c → KeepsTo (plan c) calls
  succeeds : outcome.isOk = true ↔ ∃ c, fetched = .ok c ∧ calls = (plan c).map acceptedCall
  renewed : ∀ lease, outcome = .ok lease →
    (∃ c, fetched = .ok c ∧ lease = c.lease) ∧ Renewed pool s s' m lease
  putOff : ∀ e, outcome = .error e → PutOff pool s s' m

theorem Transition.rotated_of_failed {f : Failure} (h : Transition pool s m s')
    (hfetched : m.fetched? = some (.error f)) :
    Rotated pool s s' m (.error f) (s.newCalls pool m).reverse (.error f.chain) := by
  obtain ⟨hcalls, houtcome⟩ := newCalls_of_failed pool s hfetched
  refine ⟨houtcome, fun _ _ ↦ ?_, nofun, ⟨nofun, fun ⟨_, hc, _⟩ ↦ nomatch hc⟩, nofun, fun _ _ ↦ ?_⟩
  · rw [hcalls]
    rfl
  · exact h.putOff houtcome

theorem Transition.rotated_of_fetched (h : Transition pool s m s')
    (hfetched : m.fetched? = some (.ok c)) :
    ∃ outcome, Rotated pool s s' m (.ok c) (s.newCalls pool m).reverse outcome := by
  obtain ⟨outcome, houtcome, hattempt, hlease⟩ := attempt_of_fetched pool s hfetched
  refine ⟨outcome, houtcome, nofun, ?_, ?_, ?_, ?_⟩
  · rintro _ ⟨⟩
    exact hattempt.keepsTo
  · rw [hattempt.ok_iff]
    constructor
    · exact fun hcalls ↦ ⟨c, rfl, hcalls⟩
    · rintro ⟨_, ⟨⟩, hcalls⟩
      exact hcalls
  · rintro lease rfl
    exact ⟨⟨c, rfl, hlease lease rfl⟩, h.renewed houtcome⟩
  · rintro e rfl
    exact h.putOff houtcome

/-- However rotations overlap, fail and succeed, where what a rotation does after its fetch is one
step: over a run there are as many that succeed as accepted evictions, and whatever ends no rotation
calls nothing. What a rotation calls is added to the record. A success starts the count of failures
anew, has the delay that the lease asks for, and leaves the pool with what was fetched; a failure is
counted. -/
theorem rotation_hooks (hrun : s₀.run pool ms = some s) :
    (s₀.outcomes pool ms).countP Except.isOk = (s₀.hookCalls pool ms).countP HookCall.evicts ∧
      (∀ m s', s.step pool m = some s' → m.fetched? = none →
        s₀.hookCalls pool (ms ++ [m]) = s₀.hookCalls pool ms ∧
          s'.manager.retries = s.manager.retries) ∧
      ∀ m s' fetched, s.step pool m = some s' → m.fetched? = some fetched →
        ∃ calls outcome, Rotated pool s s' m fetched calls outcome ∧
          s₀.hookCalls pool (ms ++ [m]) = calls.reverse ++ s₀.hookCalls pool ms ∧
          ∀ c, fetched = .ok c → outcome.isOk = true → ∀ before,
            held .setUsername before (s₀.hookCalls pool (ms ++ [m])) = c.username ∧
              held .setPassword before (s₀.hookCalls pool (ms ++ [m])) = c.password.expose := by
  refine ⟨successes_run hrun, fun m s' hstep hnone ↦ ?_, fun m s' fetched hstep hfetched ↦ ?_⟩
  · constructor
    · rw [hookCalls_concat hrun hstep, newCalls, hnone]
      rfl
    · refine (step_eq_some_iff.1 hstep).retries_of_none ?_
      rw [outcome?, hnone]
      rfl
  have h := step_eq_some_iff.1 hstep
  obtain ⟨outcome, hrotated⟩ :
      ∃ outcome, Rotated pool s s' m fetched (s.newCalls pool m).reverse outcome := by
    cases fetched with
    | error f => exact ⟨_, h.rotated_of_failed hfetched⟩
    | ok c => exact h.rotated_of_fetched hfetched
  have hrecord : s₀.hookCalls pool (ms ++ [m]) =
      (s.newCalls pool m).reverse.reverse ++ s₀.hookCalls pool ms := by
    rw [List.reverse_reverse]
    exact hookCalls_concat hrun hstep
  refine ⟨_, outcome, hrotated, hrecord, ?_⟩
  rintro c rfl hok before
  obtain ⟨_, ⟨⟩, hcalls⟩ := hrotated.succeeds.1 hok
  rw [hrecord, hcalls]
  exact held_of_plan c _ before

/-- A rotation that succeeds after one that failed. -/
theorem rotation_hooks_of_recovery :
    let c : Credentials := ⟨"user-1", ⟨"pass-1"⟩, 3600⟩
    let ms : List Move := [.call, .call, .finishCall (.error .rateLimited)]
    ∃ s s' : System RecordedPool, unstarted.run RecordedPool.hooks ms = some s ∧
      s.step RecordedPool.hooks (.finishCall (.ok c)) = some s' ∧
      s.manager.retries = 1 ∧ s'.manager.retries = 0 ∧
      s'.manager.lastDelay = s.manager.settings.nextDelay 3600 ∧
      ∃ calls, KeepsTo (plan c) calls ∧ calls = (plan c).map acceptedCall := by
  intro c ms
  let called : System RecordedPool := { unstarted.call.call with calls := 1 }
  let s : System RecordedPool := (conclude RecordedPool.hooks called (.error .rateLimited)).1
  have hfailed : unstarted.call.call.step RecordedPool.hooks (.finishCall (.error .rateLimited)) =
      some s := step_eq_some_iff.2 (.returned rfl)
  have hcalled : unstarted.run RecordedPool.hooks [.call, .call] = some unstarted.call.call := rfl
  have hrun : unstarted.run RecordedPool.hooks ms = some s :=
    run_concat_eq_some.2 ⟨_, hcalled, hfailed⟩
  have hretries : s.manager.retries = 1 := by decide +kernel
  have hcalls : s.calls = 1 := conclude_calls
  have hstep : s.step RecordedPool.hooks (.finishCall (.ok c)) = some _ :=
    step_eq_some_iff.2 (.returned hcalls)
  have hsucceeds : s.outcome? RecordedPool.hooks (.finishCall (.ok c)) = some (.ok 3600) := rfl
  obtain ⟨-, -, hrotation⟩ := rotation_hooks hrun
  obtain ⟨calls, outcome, hrotated, -, -⟩ := hrotation _ _ _ hstep rfl
  obtain rfl := Option.some.inj (hsucceeds.symm.trans hrotated.reported)
  obtain ⟨-, hrenewed⟩ := hrotated.renewed 3600 rfl
  obtain ⟨_, ⟨⟩, hcalls⟩ := hrotated.succeeds.1 rfl
  exact ⟨s, _, hrun, hstep, hretries, hrenewed.retries, hrenewed.kept, calls,
    hrotated.keeps _ rfl, hcalls⟩

end System

end VaultAccess.Rotation
