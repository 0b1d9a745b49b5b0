import VaultAccess.Proofs.Rotation.Steps

/-!
# Stopping for good

Once a manager is stopped, a loop has only one way to go: it ends its rotation, if it is in one, it
goes to sleep, and it ends. Nothing leads back.

* No loop gets past its look at the flag, and none is added (`Transition.before_of_stopped`,
  `Transition.length_of_stopped`). A loop that had looked before the stop came begins the rotation
  that was due, one and no more, and no time passes until it does (`begins_run`).
* A rotation that is under way stays under way until its fetch ends, whatever else happens, and then
  does what any rotation does (`flight_run`).
* A loop that sleeps can notice the stop, and time does not pass before it has (`exits_run`).

None of this asks where a loop was when the stop came. A sleep that is over at that very instant is
a sleep like any other, because a loop looks at the flag once more before it rotates; only between
that look and the rotation a stop comes too late.
-/

namespace VaultAccess.Rotation

namespace System

variable {π : Type} {pool : Pool π} {s s₁ s' t u v : System π} {m : Move}
  {ms before after : List Move} {loop : Nat} {wake : Instant} {p q : Phase}
  {fetched : Except Failure Credentials} {lease : UInt64}

/-! ### One step after a stop -/

/-- No loop is added. -/
theorem Transition.length_of_stopped (h : Transition pool s m s')
    (hstopped : s.manager.stopped = true) :
    s'.manager.loops.length = s.manager.loops.length := by
  cases h with
  | started _ hrunning => simp [hstopped] at hrunning
  | listened | woke | wokeStopped | began | noticed => exact List.length_set
  | returned =>
    rw [conclude_manager, Manager.settle_loops]
  | finished =>
    refine List.length_set.trans ?_
    rw [conclude_manager, Manager.settle_loops]
  | _ => rfl

/-- Starting leaves the manager as it is. -/
theorem Transition.start_of_stopped (h : Transition pool s (.start lease) s')
    (hstopped : s.manager.stopped = true) : s'.manager = s.manager := by
  cases h with
  | started _ hrunning => simp [hstopped] at hrunning
  | startedAgain | startedLate => rfl

/-- Where a loop was before a step: where it is, or it has made the step. -/
theorem Transition.before_of_stopped (h : Transition pool s m s')
    (hstopped : s.manager.stopped = true) (hafter : s'.manager.loops[loop]? = some q) :
    s.manager.loops[loop]? = some q ∨
      ∃ p, s.manager.loops[loop]? = some p ∧ Proceeds true loop m p q := by
  cases hbefore : s.manager.loops[loop]? with
  | some p =>
    rcases h.phase_or hbefore with hstill | ⟨q', hq', hproceeds⟩
    · exact .inl (hstill.symm.trans hafter)
    · obtain rfl := Option.some.inj (hafter.symm.trans hq')
      exact .inr ⟨p, rfl, hstopped ▸ hproceeds⟩
  | none =>
    -- a loop that was not there would have been added
    have hlength := h.length_of_stopped hstopped
    have hle := List.getElem?_eq_none_iff.1 hbefore
    obtain ⟨hlt, -⟩ := List.getElem?_eq_some_iff.1 hafter
    omega

/-- No loop gets past its look at the flag. -/
theorem Transition.due_of_stopped (h : Transition pool s m s')
    (hstopped : s.manager.stopped = true)
    (hafter : s'.manager.loops[loop]? = some (.due wake)) :
    s.manager.loops[loop]? = some (.due wake) := by
  rcases h.before_of_stopped hstopped hafter with hbefore | ⟨p, -, hproceeds⟩
  · exact hbefore
  · cases hproceeds with
    | wakes hrunning => cases hrunning

/-- A rotation of a loop begins only if it was due. -/
theorem Transition.rotating_of_stopped (h : Transition pool s m s')
    (hstopped : s.manager.stopped = true) (hafter : s'.manager.loops[loop]? = some .rotating) :
    s.manager.loops[loop]? = some .rotating ∨
      m = .begin loop ∧ ∃ wake, s.manager.loops[loop]? = some (.due wake) := by
  rcases h.before_of_stopped hstopped hafter with hbefore | ⟨p, hp, hproceeds⟩
  · exact .inl hbefore
  · cases hproceeds with
    | begins => exact .inr ⟨rfl, _, hp⟩

/-- A loop that has ended does not come back. -/
theorem Transition.stays_ended (h : Transition pool s m s')
    (hphase : s.manager.loops[loop]? = some .ended) : s'.manager.loops[loop]? = some .ended := by
  rcases h.phase_or hphase with hstill | ⟨q, -, hproceeds⟩
  · exact hstill
  · cases hproceeds

/-- A rotation is under way until its fetch ends. -/
theorem Transition.stays_rotating (h : Transition pool s m s')
    (hphase : s.manager.loops[loop]? = some .rotating)
    (hm : ∀ fetched, m ≠ .finish loop fetched) : s'.manager.loops[loop]? = some .rotating := by
  rcases h.phase_or hphase with hstill | ⟨q, -, hproceeds⟩
  · exact hstill
  · cases hproceeds with
    | rests => exact absurd rfl (hm _)

/-- Time does not pass while a loop would be late. -/
theorem tick_of_isLate {millis : Nat} (hphase : s.manager.loops[loop]? = some p) (hpos : 0 < millis)
    (hlate : Manager.Phase.isLate s.manager.stopped (s.now.after millis) p = true) :
    s.step pool (.tick millis) = none := by
  rw [Option.eq_none_iff_forall_ne_some]
  intro s' hs'
  cases step_eq_some_iff.1 hs' with
  | ticked hpunctual =>
    rw [hpunctual hpos _ (List.mem_of_getElem? hphase)] at hlate
    cases hlate

/-- Time does not pass before every sleeping loop has noticed the stop. -/
theorem tick_of_stopped {millis : Nat} (hstopped : s.manager.stopped = true)
    (hphase : s.manager.loops[loop]? = some (.sleeping wake)) (hpos : 0 < millis) :
    s.step pool (.tick millis) = none :=
  tick_of_isLate hphase hpos (by simp [Manager.Phase.isLate, hstopped])

/-- Time does not pass before a rotation that is due has begun. -/
theorem tick_of_due {millis : Nat} (hphase : s.manager.loops[loop]? = some (.due wake))
    (hpos : 0 < millis) : s.step pool (.tick millis) = none :=
  tick_of_isLate hphase hpos rfl

/-- A step before which no time may pass takes none. -/
theorem Transition.now_eq (h : Transition pool s m s')
    (hlate : ∀ millis, 0 < millis → s.step pool (.tick millis) = none) : s'.now = s.now := by
  cases h with
  | @ticked millis hpunctual =>
    rcases Nat.eq_zero_or_pos millis with rfl | hpos
    · exact congrArg Instant.mk (Int.add_zero _)
    · have hnone := hlate millis hpos
      rw [step_eq_some_iff.2 (.ticked hpunctual)] at hnone
      cases hnone
  | _ => rfl

/-- A loop that sleeps goes on sleeping for no time, or ends. -/
theorem Transition.sleeping_of_stopped (h : Transition pool s m s')
    (hstopped : s.manager.stopped = true)
    (hphase : s.manager.loops[loop]? = some (.sleeping wake)) :
    s'.manager.loops[loop]? = some .ended ∨
      s'.manager.loops[loop]? = some (.sleeping wake) ∧ s'.now = s.now := by
  rcases h.phase_or hphase with hstill | ⟨q, hq, hproceeds⟩
  · exact .inr ⟨hstill, h.now_eq fun millis ↦ tick_of_stopped hstopped hphase⟩
  · rw [hstopped] at hproceeds
    cases hproceeds with
    | wakes hrunning => cases hrunning
    | wakesStopped | notices => exact .inl hq

/-! ### Runs after a stop -/

/-- A loop that sleeps when the manager is stopped ends at that instant, or still sleeps in it. -/
theorem exits_run (hrun : s.run pool ms = some t) (hstopped : s.manager.stopped = true)
    (hphase : s.manager.loops[loop]? = some (.sleeping wake)) :
    t.manager.loops[loop]? = some .ended ∨
      t.manager.loops[loop]? = some (.sleeping wake) ∧ t.now = s.now := by
  refine (run_preserves (P := fun u ↦ u.manager.stopped = true ∧
    (u.manager.loops[loop]? = some .ended ∨
      u.manager.loops[loop]? = some (.sleeping wake) ∧ u.now = s.now)) ?_ hrun
    ⟨hstopped, .inr ⟨hphase, rfl⟩⟩).2
  rintro u m u' - h ⟨hu, hended | ⟨hsleeps, hnow⟩⟩
  · exact ⟨h.stays_stopped hu, .inl (h.stays_ended hended)⟩
  · refine ⟨h.stays_stopped hu, (h.sleeping_of_stopped hu hsleeps).imp_right fun hstill ↦ ?_⟩
    exact ⟨hstill.1, hstill.2.trans hnow⟩

/-- A loop whose rotation is not due when the manager is stopped begins none. -/
theorem not_mem_begin (hrun : s.run pool ms = some t) (hstopped : s.manager.stopped = true)
    (hnotdue : ∀ wake, s.manager.loops[loop]? ≠ some (.due wake)) : .begin loop ∉ ms := by
  induction ms generalizing s with
  | nil => exact List.not_mem_nil
  | cons m ms ih =>
    obtain ⟨s', hm, hrest⟩ := run_cons_eq_some.1 hrun
    have h := step_eq_some_iff.1 hm
    have hlater : .begin loop ∉ ms := ih hrest (h.stays_stopped hstopped) fun wake hdue ↦
      hnotdue wake (h.due_of_stopped hstopped hdue)
    intro hmem
    rcases List.mem_cons.1 hmem with rfl | hmem
    · cases h with
      | began hphase => exact hnotdue _ hphase
    · exact hlater hmem

/-- Until a rotation that is due has begun it stays due, and no time passes. -/
theorem due_run (hrun : s.run pool ms = some t) (hphase : s.manager.loops[loop]? = some (.due wake))
    (hms : .begin loop ∉ ms) : t.manager.loops[loop]? = some (.due wake) ∧ t.now = s.now := by
  refine run_preserves (P := fun u ↦ u.manager.loops[loop]? = some (.due wake) ∧ u.now = s.now)
    (fun u m u' hmem h hu ↦ ?_) hrun ⟨hphase, rfl⟩
  obtain ⟨hdue, hnow⟩ := hu
  refine ⟨?_, (h.now_eq fun millis ↦ tick_of_due hdue).trans hnow⟩
  rcases h.phase_or hdue with hstill | ⟨q, -, hproceeds⟩
  · exact hstill
  · cases hproceeds with
    | begins => exact absurd hmem hms

/-- A loop that begins to rotate after a stop does so for the last time. -/
theorem not_mem_begin_behind (hbegin : s.step pool (.begin loop) = some s')
    (hrun : s'.run pool ms = some t) (hstopped : s.manager.stopped = true) : .begin loop ∉ ms := by
  have h := step_eq_some_iff.1 hbegin
  obtain ⟨p, q, -, hq, hproceeds⟩ := h.proceeds rfl
  refine not_mem_begin hrun (h.stays_stopped hstopped) fun wake hdue ↦ ?_
  cases hproceeds with
  | begins => cases hq.symm.trans hdue

/-- After a stop a loop begins to rotate once at most, and only if it had looked at the flag before;
it does so at the instant of the stop. -/
theorem begins_run (hrun : s.run pool (before ++ .begin loop :: after) = some t)
    (hstopped : s.manager.stopped = true) :
    (∃ wake, s.manager.loops[loop]? = some (.due wake)) ∧ .begin loop ∉ before ∧
      .begin loop ∉ after ∧ ∃ u, s.run pool before = some u ∧ u.now = s.now := by
  obtain ⟨u, hbefore, hrest⟩ := run_append_eq_some.1 hrun
  obtain ⟨v, hbegin, hafter⟩ := run_cons_eq_some.1 hrest
  obtain ⟨wake, hphase⟩ : ∃ wake, s.manager.loops[loop]? = some (.due wake) :=
    Classical.byContradiction fun hnotdue ↦
      not_mem_begin hrun hstopped (fun wake hphase ↦ hnotdue ⟨wake, hphase⟩) (by simp)
  have hfirst : .begin loop ∉ before := by
    -- the begin that is looked at would be a second one
    intro hmem
    obtain ⟨first, second, rfl⟩ := List.append_of_mem hmem
    rw [List.append_assoc, List.cons_append] at hrun
    obtain ⟨u', hfirst, hrest'⟩ := run_append_eq_some.1 hrun
    obtain ⟨v', hbegin', hsecond⟩ := run_cons_eq_some.1 hrest'
    exact not_mem_begin_behind hbegin' hsecond (stopped_run hfirst hstopped) (by simp)
  exact ⟨⟨wake, hphase⟩, hfirst,
    not_mem_begin_behind hbegin hafter (stopped_run hbefore hstopped), u, hbefore,
    (due_run hbefore hphase hfirst).2⟩

/-- A rotation has done to the pool and to the counts what it does once its fetch has ended. -/
structure Concluded (pool : Pool π) (s s' : System π) (fetched : Except Failure Credentials) :
    Prop where
  pool_eq : s'.pool = (Manager.deliver pool fetched s.pool).2
  retries_eq :
    s'.manager.retries = (s.manager.settle (Manager.deliver pool fetched s.pool).1).1.retries
  lastDelay_eq :
    s'.manager.lastDelay = (s.manager.settle (Manager.deliver pool fetched s.pool).1).2.1

/-- A loop that rotates can end its rotation, however the fetch has ended, and then sleeps. -/
theorem finish_of_rotating (hphase : s.manager.loops[loop]? = some .rotating)
    (fetched : Except Failure Credentials) :
    ∃ s' wake, s.step pool (.finish loop fetched) = some s' ∧ Concluded pool s s' fetched ∧
      s'.manager.loops[loop]? = some (.sleeping wake) ∧ s'.now = s.now :=
  ⟨_, _, step_eq_some_iff.2 (.finished hphase), ⟨rfl, rfl, Manager.settle_lastDelay⟩,
    sleeps_of_rotating hphase, rfl⟩

/-- A rotation of a loop is under way until its fetch ends. -/
theorem flight_run (hrun : s.run pool ms = some t)
    (hphase : s.manager.loops[loop]? = some .rotating) :
    (t.manager.loops[loop]? = some .rotating ∧ ∀ fetched, .finish loop fetched ∉ ms) ∨
      ∃ before fetched after u v, ms = before ++ .finish loop fetched :: after ∧
        s.run pool before = some u ∧ u.manager.loops[loop]? = some .rotating ∧
        u.step pool (.finish loop fetched) = some v ∧ v.run pool after = some t := by
  induction ms generalizing s with
  | nil =>
    obtain rfl := Option.some.inj hrun
    exact .inl ⟨hphase, fun _ ↦ List.not_mem_nil⟩
  | cons m ms ih =>
    obtain ⟨s', hm, hrest⟩ := run_cons_eq_some.1 hrun
    by_cases hfinish : ∃ fetched, m = .finish loop fetched
    · obtain ⟨fetched, rfl⟩ := hfinish
      exact .inr ⟨[], fetched, ms, s, s', rfl, rfl, hphase, hm, hrest⟩
    · have hstill : s'.manager.loops[loop]? = some .rotating :=
        (step_eq_some_iff.1 hm).stays_rotating hphase fun fetched heq ↦ hfinish ⟨fetched, heq⟩
      rcases ih hrest hstill with ⟨ht, hnone⟩ | ⟨before, fetched, after, u, v, rfl, hu, huv⟩
      · refine .inl ⟨ht, fun fetched hmem ↦ ?_⟩
        rcases List.mem_cons.1 hmem with rfl | hmem
        · exact hfinish ⟨fetched, rfl⟩
        · exact hnone fetched hmem
      · exact .inr ⟨m :: before, fetched, after, u, v, rfl,
          run_cons_eq_some.2 ⟨s', hm, hu⟩, huv⟩

/-! ### What a stop leaves to do -/

/-- What one more step does to a manager that has been stopped. -/
structure Dwindles (t t' : System π) (m : Move) : Prop where
  /-- No loop gets past its look at the flag. -/
  due : ∀ (loop : Nat) wake, t'.manager.loops[loop]? = some (.due wake) →
    t.manager.loops[loop]? = some (.due wake)
  /-- A rotation of a loop begins only if it was due. -/
  rotating : ∀ loop : Nat, t'.manager.loops[loop]? = some .rotating →
    t.manager.loops[loop]? = some .rotating ∨
      m = .begin loop ∧ ∃ wake, t.manager.loops[loop]? = some (.due wake)
  ended : ∀ loop : Nat, t.manager.loops[loop]? = some .ended →
    t'.manager.loops[loop]? = some .ended
  /-- No loop is added. -/
  length : t'.manager.loops.length = t.manager.loops.length
  /-- Starting leaves everything as it is. -/
  start : ∀ lease, m = .start lease → t'.manager = t.manager

/-- What a loop of a manager that has been stopped can still do, wherever it is, and that time does
not pass it by. -/
structure CanEnd (pool : Pool π) (t : System π) (loop : Nat) : Prop where
  due : ∀ wake, t.manager.loops[loop]? = some (.due wake) →
    (∃ t', t.step pool (.begin loop) = some t' ∧ t'.manager.loops[loop]? = some .rotating) ∧
      ∀ millis, 0 < millis → t.step pool (.tick millis) = none
  /-- A rotation can end in any way, with what that does to the pool and to the counts. -/
  rotating : t.manager.loops[loop]? = some .rotating → ∀ fetched,
    ∃ t', t.step pool (.finish loop fetched) = some t' ∧ Concluded pool t t' fetched
  sleeping : ∀ wake, t.manager.loops[loop]? = some (.sleeping wake) →
    (∃ t', t.step pool (.notice loop) = some t' ∧ t'.manager.loops[loop]? = some .ended) ∧
      ∀ millis, 0 < millis → t.step pool (.tick millis) = none
  /-- A loop whose start was under way hears of the stop when its sleep is over, or before. -/
  starting : ∀ wake, t.manager.loops[loop]? = some (.starting wake) →
    (∃ t', t.step pool (.listen loop) = some t' ∧
        t'.manager.loops[loop]? = some (.sleeping wake)) ∧
      ∀ millis, wake.millis < (t.now.after millis).millis → 0 < millis →
        t.step pool (.tick millis) = none

/-- How a rotation of a loop goes on that is under way at `s`, after a stop. -/
inductive Lands (pool : Pool π) (s t : System π) (loop : Nat) (ms : List Move) : Prop
  | flying (hphase : t.manager.loops[loop]? = some .rotating)
      (hms : ∀ fetched, .finish loop fetched ∉ ms)
  /-- Its fetch has ended, and then it has done what a rotation does; the loop has ended, or is to
  end at this very instant. -/
  | landed {before after : List Move} {fetched : Except Failure Credentials} {u v : System π}
      (hms : ms = before ++ .finish loop fetched :: after) (hbefore : s.run pool before = some u)
      (hfinish : u.step pool (.finish loop fetched) = some v)
      (hconcluded : Concluded pool u v fetched)
      (hexit : t.manager.loops[loop]? = some .ended ∨
        (∃ wake, t.manager.loops[loop]? = some (.sleeping wake)) ∧ t.now = v.now)

theorem Transition.dwindles (h : Transition pool s m s') (hstopped : s.manager.stopped = true) :
    Dwindles s s' m where
  due _ _ := h.due_of_stopped hstopped
  rotating _ := h.rotating_of_stopped hstopped
  ended _ := h.stays_ended
  length := h.length_of_stopped hstopped
  start lease hm := by
    subst hm
    exact h.start_of_stopped hstopped

theorem canEnd (pool : Pool π) (hstopped : s.manager.stopped = true) (loop : Nat) :
    CanEnd pool s loop where
  due _ hphase := ⟨⟨_, step_eq_some_iff.2 (.began hphase), Manager.setPhase_self hphase⟩,
    fun _ ↦ tick_of_due hphase⟩
  rotating hphase fetched := by
    obtain ⟨s', -, hfinish, hconcluded, -⟩ := finish_of_rotating hphase fetched
    exact ⟨s', hfinish, hconcluded⟩
  sleeping _ hphase := ⟨⟨_, step_eq_some_iff.2 (.noticed hphase hstopped),
    Manager.setPhase_self hphase⟩, fun _ ↦ tick_of_stopped hstopped hphase⟩
  starting wake hphase := by
    refine ⟨⟨_, step_eq_some_iff.2 (.listened hphase), Manager.setPhase_self hphase⟩,
      fun millis hover hpos ↦ tick_of_isLate hphase hpos ?_⟩
    simp [Manager.Phase.isLate, hover]

theorem lands (hrun : s.run pool ms = some t) (hstopped : s.manager.stopped = true)
    (hphase : s.manager.loops[loop]? = some .rotating) : Lands pool s t loop ms := by
  rcases flight_run hrun hphase with
    ⟨hflying, hms⟩ | ⟨before, fetched, after, u, v, hms, hu, hflight, huv, hafter⟩
  · exact .flying hflying hms
  · obtain ⟨v', wake, hfinish, hconcluded, hsleeps, -⟩ := finish_of_rotating hflight fetched
    obtain rfl := Option.some.inj (huv.symm.trans hfinish)
    have hv : v.manager.stopped = true :=
      (step_eq_some_iff.1 huv).stays_stopped (stopped_run hu hstopped)
    refine .landed hms hu huv hconcluded ?_
    exact (exits_run hafter hv hsleeps).imp_right fun hstill ↦ ⟨⟨wake, hstill.1⟩, hstill.2⟩

/-- Whatever happens after a manager has been stopped or given up: no loop gets past its look at the
flag, none is added, a loop that has ended stays so, and starting changes nothing. A loop rotates
once more at most, if it had looked at the flag before, and then it begins at the instant of the
stop. A rotation that is under way then goes on until its fetch ends, which it may do in any way,
does to the pool and the counts what every rotation does, and its loop ends before any more time
passes. -/
theorem stop_is_final {halt : Move} (hhalt : halt = .stop ∨ halt = .drop)
    (hstep : s.step pool halt = some s₁) (hrun : s₁.run pool ms = some t) :
    (∀ m t', t.step pool m = some t' → Dwindles t t' m) ∧ (∀ loop, CanEnd pool t loop) ∧
      (∀ loop before after, ms = before ++ .begin loop :: after →
        (∃ wake, s.manager.loops[loop]? = some (.due wake)) ∧ .begin loop ∉ before ∧
          .begin loop ∉ after ∧ ∃ u, s₁.run pool before = some u ∧ u.now = s.now) ∧
      ∀ (loop : Nat) before after u, ms = before ++ after → s₁.run pool before = some u →
        u.manager.loops[loop]? = some .rotating → Lands pool u t loop after := by
  obtain ⟨hs₁, hloops, hnow⟩ : s₁.manager.stopped = true ∧ s₁.manager.loops = s.manager.loops ∧
      s₁.now = s.now := by
    rcases hhalt with rfl | rfl <;> cases step_eq_some_iff.1 hstep <;> exact ⟨rfl, rfl, rfl⟩
  have ht : t.manager.stopped = true := stopped_run hrun hs₁
  refine ⟨fun m t' hm ↦ (step_eq_some_iff.1 hm).dwindles ht, canEnd pool ht, ?_, ?_⟩
  · rintro loop before after rfl
    rw [← hloops, ← hnow]
    exact begins_run hrun hs₁
  · rintro loop before after u rfl hbefore hphase
    obtain ⟨u', hbefore', hafter⟩ := run_append_eq_some.1 hrun
    obtain rfl := Option.some.inj (hbefore.symm.trans hbefore')
    exact lands hafter (stopped_run hbefore hs₁) hphase

/-- A manager whose loop rotates. -/
def inFlight : System RecordedPool :=
  { unstarted with manager := { settings := {}, loops := [.rotating], handle := some 0 } }

/-- A stop while a rotation is under way, whose fetch ends well a second later. -/
theorem stop_is_final_in_flight :
    ∃ s₁ t, inFlight.step RecordedPool.hooks .stop = some s₁ ∧
      s₁.run RecordedPool.hooks
          [.tick 1000, .finish 0 (.ok ⟨"user-1", ⟨"pass-1"⟩, 3600⟩), .notice 0] = some t ∧
      t.pool.calls.reverse = [⟨.setUsername, some "user-1", true⟩,
        ⟨.setPassword, some "pass-1", true⟩, ⟨.evict, none, true⟩] ∧
      t.manager.loops[0]? = some .ended ∧
      ∀ m t', t.step RecordedPool.hooks m = some t' → t'.manager.loops[0]? = some .ended := by
  have hstep : inFlight.step RecordedPool.hooks .stop = some _ := rfl
  obtain ⟨hsteps, -, -, -⟩ := stop_is_final (.inl rfl) hstep
    (rfl : run _ _ [.tick 1000, .finish 0 (.ok ⟨"user-1", ⟨"pass-1"⟩, 3600⟩), .notice 0] = some _)
  exact ⟨_, _, hstep, rfl, rfl, rfl, fun m t' hm ↦ (hsteps m t' hm).ended 0 rfl⟩

/-! ### A stop that comes too late -/

/-- Between the look at the flag and the rotation a stop comes too late: the rotation begins. -/
theorem begun_after_stop :
    ¬ ∀ (before after : List Move) (t : System RecordedPool),
      unstarted.run RecordedPool.hooks (before ++ .stop :: after) = some t →
        ∀ loop, .begin loop ∉ after := by
  intro h
  have hrun : unstarted.run RecordedPool.hooks
      ([.start 100, .listen 0, .tick 90000, .wake 0] ++ .stop :: [.begin 0]) = some _ := rfl
  exact h _ _ _ hrun 0 List.mem_cons_self

end System

end VaultAccess.Rotation
