import VaultAccess.Proofs.Runs
import VaultAccess.Rotation.System

/-!
# Steps and runs of a manager

`Transition` writes `System.step` out as a relation, one rule for everything that can happen, each
with the condition under which it can. Whatever holds of every step is proved by cases on it, and
nothing else unfolds `System.step`.

What a rotation does after its fetch is the same whether a loop began it or it was called by hand,
so it has lemmas of its own, for the manager (`conclude_manager`), the pool (`conclude_pool`) and
the delay that it returns (`conclude_delay`).

Runs are taken apart at either end, with `run_cons_eq_some` and `run_concat_eq_some`; what every
step of a run preserves the run preserves (`run_preserves`).
-/

namespace VaultAccess.Rotation

/-! ### Managers -/

namespace Manager

variable {m : Manager} {outcome : Except Chain UInt64} {loop other : Nat} {p : Phase}
  {lease : UInt64} {now : Instant}

/-- Nothing is started where there is a loop that nobody waits for. -/
theorem start_of_handle (hhandle : m.handle.isSome = true) :
    m.start lease now = (m, [.alreadyStarted]) := if_pos hhandle

/-- Nothing is started after a stop. -/
theorem start_of_stopped (hhandle : m.handle.isSome = false) (hstopped : m.stopped = true) :
    m.start lease now = (m, [.stoppedBeforeStart]) := by
  rw [start, if_neg (by simp [hhandle]), if_pos hstopped]

/-- A loop is started behind those that were, and first sleeps until the lease is about to end. -/
theorem start_of_running (hhandle : m.handle.isSome = false) (hrunning : m.stopped = false) :
    m.start lease now =
      ({ m with
          lastDelay := m.settings.nextDelay lease
          loops := m.loops ++ [.starting (wakeAfter (m.settings.nextDelay lease) now)]
          handle := some m.loops.length },
        [.lifecycleStarting, .lifecycleStarted (m.settings.nextDelay lease) m.settings]) := by
  rw [start, if_neg (by simp [hhandle]), if_neg (by simp [hrunning])]

@[simp] theorem settle_settings : (m.settle outcome).1.settings = m.settings := by
  cases outcome <;> rfl

@[simp] theorem settle_stopped : (m.settle outcome).1.stopped = m.stopped := by
  cases outcome <;> rfl

@[simp] theorem settle_loops : (m.settle outcome).1.loops = m.loops := by
  cases outcome <;> rfl

/-- The delay that is returned is the one that is kept. -/
@[simp] theorem settle_lastDelay : (m.settle outcome).1.lastDelay = (m.settle outcome).2.1 := by
  cases outcome <;> rfl

theorem setPhase_self {q : Phase} (hphase : m.loops[loop]? = some q) :
    (m.setPhase loop p).loops[loop]? = some p := by
  obtain ⟨hlt, -⟩ := List.getElem?_eq_some_iff.1 hphase
  exact List.getElem?_set_self hlt

/-- Other loops stay where they are. -/
theorem setPhase_of_ne (hne : loop ≠ other) : (m.setPhase loop p).loops[other]? = m.loops[other]? :=
  List.getElem?_set_ne hne

end Manager

/-- What the fetch yielded of the rotation that ends with a move, if one does. -/
def Move.fetched? : Move → Option (Except Failure Credentials)
  | .finishCall fetched => some fetched
  | .finish _ fetched => some fetched
  | _ => none

/-- The loop that makes a move, if one does. -/
def Move.loop? : Move → Option Nat
  | .listen loop => some loop
  | .wake loop => some loop
  | .begin loop => some loop
  | .notice loop => some loop
  | .finish loop _ => some loop
  | _ => none

namespace System

variable {π : Type} {pool : Pool π} {s s' t u : System π} {m : Move} {ms ns : List Move}
  {fetched : Except Failure Credentials} {loop : Nat} {p : Phase}

/-! ### Rotations -/

theorem conclude_eq : conclude pool s fetched =
    ({ s with
        manager := (s.manager.settle (Manager.deliver pool fetched s.pool).1).1
        pool := (Manager.deliver pool fetched s.pool).2 }.emit
      (s.manager.settle (Manager.deliver pool fetched s.pool).1).2.2,
      (s.manager.settle (Manager.deliver pool fetched s.pool).1).2.1) := rfl

theorem conclude_manager : (conclude pool s fetched).1.manager =
    (s.manager.settle (Manager.deliver pool fetched s.pool).1).1 := rfl

theorem conclude_pool :
    (conclude pool s fetched).1.pool = (Manager.deliver pool fetched s.pool).2 := rfl

theorem conclude_delay : (conclude pool s fetched).2 =
    (s.manager.settle (Manager.deliver pool fetched s.pool).1).2.1 := rfl

@[simp] theorem conclude_now : (conclude pool s fetched).1.now = s.now := rfl

@[simp] theorem conclude_calls : (conclude pool s fetched).1.calls = s.calls := rfl

/-- A loop sleeps after its rotation. -/
theorem sleeps_of_rotating {delay : UInt64} {now : Instant}
    (hphase : s.manager.loops[loop]? = some .rotating) :
    ((conclude pool s fetched).1.manager.sleep loop delay now).loops[loop]? =
      some (.sleeping (Manager.wakeAfter delay now)) := by
  have hstill : (conclude pool s fetched).1.manager.loops[loop]? = some .rotating := by
    rw [conclude_manager, Manager.settle_loops]
    exact hphase
  exact Manager.setPhase_self hstill

/-! ### What one step does -/

/-- What a step does, one rule for everything that can happen. -/
inductive Transition (pool : Pool π) (s : System π) : Move → System π → Prop
  | startedAgain {lease : UInt64} (hhandle : s.manager.handle.isSome = true) :
      Transition pool s (.start lease) (s.emitAll [.alreadyStarted])
  | startedLate {lease : UInt64} (hhandle : s.manager.handle.isSome = false)
      (hstopped : s.manager.stopped = true) :
      Transition pool s (.start lease) (s.emitAll [.stoppedBeforeStart])
  | started {lease : UInt64} (hhandle : s.manager.handle.isSome = false)
      (hrunning : s.manager.stopped = false) :
      Transition pool s (.start lease)
        ({ s with manager := { s.manager with
            lastDelay := s.manager.settings.nextDelay lease
            loops := s.manager.loops ++
              [Phase.starting (Manager.wakeAfter (s.manager.settings.nextDelay lease) s.now)]
            handle := some s.manager.loops.length } }.emitAll
          [.lifecycleStarting,
            .lifecycleStarted (s.manager.settings.nextDelay lease) s.manager.settings])
  | stopped : Transition pool s .stop { s with manager := s.manager.stop }
  | dropped : Transition pool s .drop { s with manager := s.manager.stop }
  | waited : Transition pool s .wait { s with manager := { s.manager with handle := none } }
  | called : Transition pool s .call s.call
  | returned {n : Nat} {fetched : Except Failure Credentials} (hcalls : s.calls = n + 1) :
      Transition pool s (.finishCall fetched) (conclude pool { s with calls := n } fetched).1
  | listened {loop : Nat} {wake : Instant}
      (hphase : s.manager.loops[loop]? = some (.starting wake)) :
      Transition pool s (.listen loop)
        { s with manager := s.manager.setPhase loop (.sleeping wake) }
  | woke {loop : Nat} {wake : Instant} (hphase : s.manager.loops[loop]? = some (.sleeping wake))
      (hdue : wake.millis ≤ s.now.millis) (hrunning : s.manager.stopped = false) :
      Transition pool s (.wake loop) { s with manager := s.manager.setPhase loop (.due wake) }
  | wokeStopped {loop : Nat} {wake : Instant}
      (hphase : s.manager.loops[loop]? = some (.sleeping wake))
      (hdue : wake.millis ≤ s.now.millis) (hstopped : s.manager.stopped = true) :
      Transition pool s (.wake loop)
        ({ s with manager := s.manager.setPhase loop .ended }.emit .lifecycleStopped)
  | began {loop : Nat} {wake : Instant} (hphase : s.manager.loops[loop]? = some (.due wake)) :
      Transition pool s (.begin loop)
        ({ s with manager := s.manager.setPhase loop .rotating }.emit .rotationBegun)
  | noticed {loop : Nat} {wake : Instant} (hphase : s.manager.loops[loop]? = some (.sleeping wake))
      (hstopped : s.manager.stopped = true) :
      Transition pool s (.notice loop)
        ({ s with manager := s.manager.setPhase loop .ended }.emit .lifecycleStopped)
  | finished {loop : Nat} {fetched : Except Failure Credentials}
      (hphase : s.manager.loops[loop]? = some .rotating) :
      Transition pool s (.finish loop fetched)
        { (conclude pool s fetched).1 with
          manager :=
            (conclude pool s fetched).1.manager.sleep loop (conclude pool s fetched).2 s.now }
  | ticked {millis : Nat} (hpunctual : 0 < millis → ∀ p ∈ s.manager.loops,
        Manager.Phase.isLate s.manager.stopped (s.now.after millis) p = false) :
      Transition pool s (.tick millis) { s with now := s.now.after millis }

/-- A step can be taken exactly if some rule allows it, and does what the rule says. -/
theorem step_eq_some_iff : s.step pool m = some s' ↔ Transition pool s m s' := by
  constructor
  · intro h
    cases m with
    | start lease =>
      obtain rfl := Option.some.inj h
      rw [start]
      cases hhandle : s.manager.handle.isSome with
      | true =>
        rw [Manager.start_of_handle hhandle]
        exact .startedAgain hhandle
      | false =>
        cases hstopped : s.manager.stopped with
        | true =>
          rw [Manager.start_of_stopped hhandle hstopped]
          exact .startedLate hhandle hstopped
        | false =>
          rw [Manager.start_of_running hhandle hstopped]
          exact .started hhandle hstopped
    | stop => cases h; exact .stopped
    | drop => cases h; exact .dropped
    | wait => cases h; exact .waited
    | call => cases h; exact .called
    | finishCall fetched =>
      simp only [step, finishCall?] at h
      split at h
      next => cases h
      next n hcalls => cases h; exact .returned hcalls
    | listen loop =>
      simp only [step, Manager.listen?] at h
      split at h
      next wake hphase => cases h; exact .listened hphase
      next => cases h
    | begin loop =>
      simp only [step, Manager.begin?] at h
      split at h
      next wake hphase => cases h; exact .began hphase
      next => cases h
    | wake loop =>
      simp only [step, Manager.wake?] at h
      split at h
      next wake hphase =>
        split at h
        next => cases h
        next hdue =>
          split at h
          next hstopped => cases h; exact .wokeStopped hphase (Int.not_lt.1 hdue) hstopped
          next hrunning => cases h; exact .woke hphase (Int.not_lt.1 hdue) (by simpa using hrunning)
      next => cases h
    | notice loop =>
      simp only [step, Manager.notice?] at h
      split at h
      next wake hphase =>
        split at h
        next hstopped => cases h; exact .noticed hphase hstopped
        next => cases h
      next => cases h
    | finish loop fetched =>
      simp only [step, finish?] at h
      split at h
      next hphase => cases h; exact .finished hphase
      next => cases h
    | tick millis =>
      simp only [step, tick?] at h
      split at h
      next => cases h
      next hlate => cases h; exact .ticked (by simpa using hlate)
  · intro h
    cases h with
    | listened hphase => simp [step, Manager.listen?, withManager, emitAll, hphase]
    | woke hphase hdue hrunning =>
      simp [step, Manager.wake?, withManager, emitAll, hphase, Int.not_lt.2 hdue, hrunning]
    | wokeStopped hphase hdue hstopped =>
      simp [step, Manager.wake?, withManager, emit, emitAll, hphase, Int.not_lt.2 hdue, hstopped]
    | began hphase => simp [step, Manager.begin?, withManager, emit, emitAll, hphase]
    | noticed hphase hstopped =>
      simp [step, Manager.notice?, withManager, emit, emitAll, hphase, hstopped]
    | ticked hpunctual =>
      simp only [step, tick?]
      rw [if_neg (by simpa using hpunctual)]
    | finished hphase => simp [step, finish?, hphase]
    | returned hcalls => simp [step, finishCall?, hcalls]
    | startedAgain hhandle => rw [step, start, Manager.start_of_handle hhandle]
    | startedLate hhandle hstopped => rw [step, start, Manager.start_of_stopped hhandle hstopped]
    | started hhandle hrunning => rw [step, start, Manager.start_of_running hhandle hrunning]
    | _ => rfl

/-- The settings are those that the manager was made with. -/
theorem Transition.settings_eq (h : Transition pool s m s') :
    s'.manager.settings = s.manager.settings := by
  cases h with
  | returned | finished => exact Manager.settle_settings
  | _ => rfl

/-- Only rotations that end reach the pool. -/
theorem Transition.pool_of_none (h : Transition pool s m s') (hnone : m.fetched? = none) :
    s'.pool = s.pool := by
  cases h with
  | returned | finished => cases hnone
  | _ => rfl

/-- What ends a rotation hands what was fetched to the pool. -/
theorem Transition.pool_of_some (h : Transition pool s m s') (hsome : m.fetched? = some fetched) :
    s'.pool = (Manager.deliver pool fetched s.pool).2 := by
  cases h with
  | returned | finished =>
    obtain rfl := Option.some.inj hsome
    exact conclude_pool
  | _ => cases hsome

/-- Stopping is never taken back. -/
theorem Transition.stays_stopped (h : Transition pool s m s')
    (hstopped : s.manager.stopped = true) : s'.manager.stopped = true := by
  cases h with
  | stopped | dropped => rfl
  | returned | finished => exact Manager.settle_stopped.trans hstopped
  | _ => exact hstopped

/-- A loop moves only by its own moves. -/
theorem Transition.phase_eq (h : Transition pool s m s') (hm : m.loop? ≠ some loop)
    (hphase : s.manager.loops[loop]? = some p) : s'.manager.loops[loop]? = some p := by
  cases h with
  | started =>
    obtain ⟨hlt, -⟩ := List.getElem?_eq_some_iff.1 hphase
    exact (List.getElem?_append_left hlt).trans hphase
  | listened | woke | wokeStopped | began | noticed =>
    exact (Manager.setPhase_of_ne fun heq ↦ hm (congrArg some heq)).trans hphase
  | @finished other fetched =>
    refine (Manager.setPhase_of_ne fun heq ↦ hm (congrArg some heq)).trans ?_
    rw [conclude_manager, Manager.settle_loops]
    exact hphase
  | returned =>
    rw [conclude_manager, Manager.settle_loops]
    exact hphase
  | _ => exact hphase

/-- What a loop does in a step of its own, from one phase to another. -/
inductive Proceeds (stopped : Bool) (loop : Nat) : Move → Phase → Phase → Prop
  | listens {wake : Instant} : Proceeds stopped loop (.listen loop) (.starting wake) (.sleeping wake)
  | wakes {wake : Instant} (hrunning : stopped = false) :
      Proceeds stopped loop (.wake loop) (.sleeping wake) (.due wake)
  | wakesStopped {wake : Instant} (hstopped : stopped = true) :
      Proceeds stopped loop (.wake loop) (.sleeping wake) .ended
  | begins {wake : Instant} : Proceeds stopped loop (.begin loop) (.due wake) .rotating
  | notices {wake : Instant} (hstopped : stopped = true) :
      Proceeds stopped loop (.notice loop) (.sleeping wake) .ended
  | rests {fetched : Except Failure Credentials} {wake : Instant} :
      Proceeds stopped loop (.finish loop fetched) .rotating (.sleeping wake)

/-- A loop that makes a move is where it can make it, and gets where the move leads. -/
theorem Transition.proceeds (h : Transition pool s m s') (hm : m.loop? = some loop) :
    ∃ p q, s.manager.loops[loop]? = some p ∧ s'.manager.loops[loop]? = some q ∧
      Proceeds s.manager.stopped loop m p q := by
  cases h with
  | listened hphase =>
    obtain rfl := Option.some.inj hm
    exact ⟨_, _, hphase, Manager.setPhase_self hphase, .listens⟩
  | woke hphase _ hrunning =>
    obtain rfl := Option.some.inj hm
    exact ⟨_, _, hphase, Manager.setPhase_self hphase, .wakes hrunning⟩
  | wokeStopped hphase _ hstopped =>
    obtain rfl := Option.some.inj hm
    exact ⟨_, _, hphase, Manager.setPhase_self hphase, .wakesStopped hstopped⟩
  | began hphase =>
    obtain rfl := Option.some.inj hm
    exact ⟨_, _, hphase, Manager.setPhase_self hphase, .begins⟩
  | noticed hphase hstopped =>
    obtain rfl := Option.some.inj hm
    exact ⟨_, _, hphase, Manager.setPhase_self hphase, .notices hstopped⟩
  | finished hphase =>
    obtain rfl := Option.some.inj hm
    exact ⟨_, _, hphase, sleeps_of_rotating hphase, .rests⟩
  | _ => cases hm

/-- Where a loop is after a step: it has stayed where it was, or it has made the step. -/
theorem Transition.phase_or (h : Transition pool s m s')
    (hphase : s.manager.loops[loop]? = some p) :
    s'.manager.loops[loop]? = some p ∨
      ∃ q, s'.manager.loops[loop]? = some q ∧ Proceeds s.manager.stopped loop m p q := by
  by_cases hm : m.loop? = some loop
  · obtain ⟨p', q, hp', hq, hproceeds⟩ := h.proceeds hm
    obtain rfl := Option.some.inj (hphase.symm.trans hp')
    exact .inr ⟨q, hq, hproceeds⟩
  · exact .inl (h.phase_eq hm hphase)

/-! ### Runs -/

theorem run_eq_foldlM : s.run pool ms = ms.foldlM (step pool) s := by
  induction ms generalizing s with
  | nil => rfl
  | cons m ms ih =>
    rw [List.foldlM_cons]
    exact congrArg _ (funext fun _ ↦ ih)

theorem run_cons_eq_some :
    s.run pool (m :: ms) = some t ↔ ∃ s', s.step pool m = some s' ∧ s'.run pool ms = some t := by
  simp only [run_eq_foldlM]
  exact Runs.cons_eq_some

theorem run_append_eq_some :
    s.run pool (ms ++ ns) = some t ↔ ∃ u, s.run pool ms = some u ∧ u.run pool ns = some t := by
  simp only [run_eq_foldlM]
  exact Runs.append_eq_some

theorem run_concat_eq_some :
    s.run pool (ms ++ [m]) = some t ↔ ∃ u, s.run pool ms = some u ∧ u.step pool m = some t := by
  rw [run_append_eq_some]
  refine exists_congr fun u ↦ and_congr_right fun _ ↦ ?_
  rw [run_cons_eq_some]
  constructor
  · rintro ⟨s', hm, hrest⟩
    obtain rfl := Option.some.inj hrest
    exact hm
  · exact fun hm ↦ ⟨t, hm, rfl⟩

/-- What every step of a run preserves holds at its end if it holds at its beginning. -/
theorem run_preserves {P : System π → Prop}
    (hstep : ∀ s m s', m ∈ ms → Transition pool s m s' → P s → P s') (hrun : s.run pool ms = some t)
    (hs : P s) : P t := by
  rw [run_eq_foldlM] at hrun
  exact Runs.preserves (fun s m s' hmem hm ↦ hstep s m s' hmem (step_eq_some_iff.1 hm)) hrun hs

theorem settings_run (hrun : s.run pool ms = some t) : t.manager.settings = s.manager.settings :=
  run_preserves (P := fun u ↦ u.manager.settings = s.manager.settings)
    (fun _ _ _ _ h hu ↦ h.settings_eq.trans hu) hrun rfl

/-- Once stopped, a manager stays so over every run. -/
theorem stopped_run (hrun : s.run pool ms = some t) (hstopped : s.manager.stopped = true) :
    t.manager.stopped = true :=
  run_preserves (P := fun u ↦ u.manager.stopped = true)
    (fun _ _ _ _ h ↦ h.stays_stopped) hrun hstopped

/-! ### A manager to run -/

/-- A manager that has never been started. -/
def unstarted : System RecordedPool where
  manager := { settings := {} }
  pool := {}

end System

end VaultAccess.Rotation
