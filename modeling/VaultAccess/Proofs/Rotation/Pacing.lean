import Mathlib.Data.List.Pairwise
import VaultAccess.Proofs.Rotation.Retries
import VaultAccess.Proofs.Rotation.Schedule
import VaultAccess.Proofs.Rotation.Settings

/-!
# The pace of rotations

A manager schedules a delay when it is started and whenever a rotation ends (`Schedules`), and the
delay is the one that the lease or the backoff gives (`Transition.scheduled`). With settings that
were checked none is shorter than a second, whatever comes of the rotations and whatever the ceiling
of the backoff is.

A loop sleeps for as long as the delay says, or for thirty years if that is less. So a loop that
sleeps wakes a second after its last rotation began or later (`Paced`), and no two of its rotations
begin within a second of each other.
-/

namespace VaultAccess.Rotation

variable {π : Type} {pool : Pool π}

/-- A sleep that was scheduled takes a second at least. -/
theorem Manager.le_wakeAfter_of_pos {delay : UInt64} (h : 0 < delay.toNat) (now : Instant) :
    now.millis + 1000 ≤ (wakeAfter delay now).millis := by
  have hmin : 0 < (min delay longestSleep).toNat := by
    by_cases hle : delay ≤ longestSleep
    · rwa [show min delay longestSleep = delay from if_pos hle]
    · rw [show min delay longestSleep = longestSleep from if_neg hle]
      decide
  show now.millis + 1000 ≤ now.millis + (((min delay longestSleep).toNat * 1000 : Nat) : Int)
  omega

/-- When the rotation begins that is heard of, if one does. -/
def Beat.begun? : Beat → Option Instant
  | .begun now => some now
  | .ended _ _ => none

namespace System

variable {s₀ s s' t : System π} {m : Move} {ms : List Move} {loop : Nat} {delay lease : UInt64}
  {outcome : Except Chain UInt64} {past : List Instant}

/-! ### Delays that are scheduled -/

/-- A move schedules a delay, which the manager keeps: a loop is started that sleeps for as long, or
a rotation ends that returns it. -/
def Schedules (pool : Pool π) (s s' : System π) (delay : UInt64) (m : Move) : Prop :=
  s'.manager.lastDelay = delay ∧
    ((∃ lease, m = .start lease ∧ s'.manager.loops =
        s.manager.loops ++ [.starting (Manager.wakeAfter delay s.now)]) ∨
      Returns pool s s' delay m)

/-- What is scheduled is what the lease asks for, or what the outcome of a rotation settles. -/
theorem Transition.scheduled (h : Transition pool s m s') (hdelay : Schedules pool s s' delay m) :
    (∃ lease, m = .start lease ∧ delay = s.manager.settings.nextDelay lease) ∨
      ∃ outcome, s.outcome? pool m = some outcome ∧ delay = (s.manager.settle outcome).2.1 := by
  obtain ⟨hkept, ⟨lease, rfl, hloops⟩ | hreturns⟩ := hdelay
  · cases h with
    | startedAgain | startedLate =>
      have hlength := congrArg List.length hloops
      simp [emitAll] at hlength
    | started => exact .inl ⟨lease, rfl, hkept.symm⟩
  · cases h with
    | returned | finished => exact .inr ⟨_, rfl, hkept.symm.trans Manager.settle_lastDelay⟩
    | _ => exact hreturns.elim

/-- A manager that is started schedules a delay, unless it was started before or stopped. -/
theorem Transition.schedules_of_start (h : Transition pool s (.start lease) s')
    (hhandle : s.manager.handle = none) (hrunning : s.manager.stopped = false) :
    ∃ delay, Schedules pool s s' delay (.start lease) := by
  cases h with
  | startedAgain hsome => simp [hhandle] at hsome
  | startedLate _ hstopped => simp [hrunning] at hstopped
  | started => exact ⟨_, rfl, .inl ⟨lease, rfl, rfl⟩⟩

/-- A rotation that ends schedules a delay. -/
theorem Transition.schedules_of_outcome (h : Transition pool s m s')
    (houtcome : s.outcome? pool m = some outcome) : ∃ delay, Schedules pool s s' delay m := by
  obtain ⟨hreturns, hkept⟩ := h.returns houtcome
  exact ⟨_, hkept, .inr hreturns⟩

/-- What a rotation settles is a second at least, if the settings are bounded. -/
theorem settle_pos (hbounded : s.manager.settings.Bounded) :
    0 < (s.manager.settle outcome).2.1.toNat := by
  cases outcome with
  | ok lease => exact Nat.lt_of_lt_of_le hbounded.minDelay Settings.minDelay_le_nextDelay
  | error e => exact Backoff.delay_pos hbounded.base hbounded.max

/-! ### Rotations of a loop -/

/-- When the rotations of a loop begin during a run, in order. -/
def begins (pool : Pool π) (s : System π) (loop : Nat) (ms : List Move) : List Instant :=
  (s.beats pool loop ms).filterMap Beat.begun?

/-- The second of two instants comes a second after the first or later. -/
def Apart (a b : Instant) : Prop := a.millis + 1000 ≤ b.millis

/-- A loop that is in a phase will not rotate within a second of an instant. -/
def Keeps (a now : Instant) : Phase → Prop
  | .starting wake => Apart a wake
  | .sleeping wake => Apart a wake
  | .due _ => Apart a now
  | .rotating => True
  | .ended => True

theorem Keeps.of_le {a now later : Instant} {p : Phase} (h : Keeps a now p)
    (hle : now.millis ≤ later.millis) : Keeps a later p := by
  cases p with
  | due => exact Int.le_trans h hle
  | _ => exact h

/-- The rotations of a loop have begun apart from each other, and the next one will begin apart from
all of them. -/
structure Paced (s : System π) (loop : Nat) (past : List Instant) : Prop where
  apart : past.Pairwise Apart
  rests : ∀ a ∈ past, a.millis ≤ s.now.millis ∧
    ∃ p, s.manager.loops[loop]? = some p ∧ Keeps a s.now p

theorem paced_nil : s.Paced loop [] := ⟨.nil, nofun⟩

theorem Transition.now_le (h : Transition pool s m s') : s.now.millis ≤ s'.now.millis := by
  cases h with
  | ticked => exact Int.le_add_of_nonneg_right (Int.natCast_nonneg _)
  | _ => exact Int.le_refl _

/-- A loop that does not move stays paced. -/
theorem Paced.of_still (hs : s.Paced loop past) (h : Transition pool s m s')
    (hm : m.loop? ≠ some loop) : s'.Paced loop past where
  apart := hs.apart
  rests a ha := by
    obtain ⟨hle, p, hphase, hkeeps⟩ := hs.rests a ha
    exact ⟨Int.le_trans hle h.now_le, p, h.phase_eq hm hphase, hkeeps.of_le h.now_le⟩

/-- A loop that gets from one phase to another at one instant stays paced if it will not rotate
earlier than before. -/
theorem Paced.of_phase {p q : Phase} (hs : s.Paced loop past)
    (hp : s.manager.loops[loop]? = some p) (hq : s'.manager.loops[loop]? = some q)
    (hnow : s'.now = s.now)
    (hkeeps : ∀ a : Instant, a.millis ≤ s.now.millis → Keeps a s.now p → Keeps a s.now q) :
    s'.Paced loop past where
  apart := hs.apart
  rests a ha := by
    obtain ⟨hle, p', hp', hbefore⟩ := hs.rests a ha
    obtain rfl := Option.some.inj (hp.symm.trans hp')
    rw [hnow]
    exact ⟨hle, q, hq, hkeeps a hle hbefore⟩

/-- A rotation that begins is apart from those before it. -/
theorem Paced.begin {wake : Instant} (hs : s.Paced loop past)
    (hphase : s.manager.loops[loop]? = some (.due wake)) :
    (past ++ [s.now]).Pairwise Apart := by
  refine List.pairwise_append.2 ⟨hs.apart, List.pairwise_singleton _ _, fun a ha b hb ↦ ?_⟩
  obtain rfl := List.mem_singleton.1 hb
  obtain ⟨-, p, hp, hkeeps⟩ := hs.rests a ha
  obtain rfl := Option.some.inj (hphase.symm.trans hp)
  exact hkeeps

/-- A step keeps the pace of every loop. -/
theorem Paced.step (hs : s.Paced loop past) (hbounded : s.manager.settings.Bounded)
    (h : Transition pool s m s') :
    s'.Paced loop (past ++ (s.beat? pool loop m).toList.filterMap Beat.begun?) := by
  by_cases hm : m.loop? = some loop
  · cases h with
    | @listened i wake hphase =>
      obtain rfl := Option.some.inj hm
      show Paced _ i (past ++ [])
      rw [List.append_nil]
      exact hs.of_phase hphase (Manager.setPhase_self hphase) rfl fun _ _ ↦ id
    | @woke i wake hphase hdue hrunning =>
      obtain rfl := Option.some.inj hm
      show Paced _ i (past ++ [])
      rw [List.append_nil]
      exact hs.of_phase hphase (Manager.setPhase_self hphase) rfl fun _ _ hapart ↦
        Int.le_trans hapart hdue
    | @wokeStopped i wake hphase | @noticed i wake hphase =>
      obtain rfl := Option.some.inj hm
      show Paced _ i (past ++ [])
      rw [List.append_nil]
      exact hs.of_phase hphase (Manager.setPhase_self hphase) rfl fun _ _ _ ↦ trivial
    | @began i wake hphase =>
      obtain rfl := Option.some.inj hm
      have hbeat : s.beat? pool i (.begin i) = some (.begun s.now) := if_pos rfl
      rw [hbeat]
      refine ⟨hs.begin hphase, fun a ha ↦ ⟨?_, .rotating, Manager.setPhase_self hphase, trivial⟩⟩
      rcases List.mem_append.1 ha with ha | ha
      · exact (hs.rests a ha).1
      · obtain rfl := List.mem_singleton.1 ha
        exact Int.le_refl _
    | @finished i fetched hphase =>
      obtain rfl := Option.some.inj hm
      have hbeat : s.beat? pool i (.finish i fetched) =
          some (.ended s.now (conclude pool s fetched).2) := if_pos rfl
      rw [hbeat]
      show Paced _ i (past ++ [])
      rw [List.append_nil]
      -- the loop has begun by now, and what it has settled is a second at least
      have hsettled : 0 < (conclude pool s fetched).2.toNat := settle_pos hbounded
      exact hs.of_phase hphase (sleeps_of_rotating hphase) rfl fun a hle _ ↦
        Int.le_trans (Int.add_le_add_right hle _) (Manager.le_wakeAfter_of_pos hsettled s.now)
    | _ => cases hm
  · rw [beat?_eq_none hm, Option.toList_none, List.filterMap_nil, List.append_nil]
    exact hs.of_still h hm

theorem paced_run (hbounded : s₀.manager.settings.Bounded) (hrun : s₀.run pool ms = some s) :
    s.Paced loop (s₀.begins pool loop ms) := by
  -- from the end, because a rotation is apart from those before it
  induction ms using List.reverseRecOn generalizing s with
  | nil => exact paced_nil
  | append_singleton ms m ih =>
    obtain ⟨u, hu, hstep⟩ := run_concat_eq_some.1 hrun
    rw [begins, beats, Runs.seen_concat (run_eq_foldlM.symm.trans hu) hstep, List.filterMap_append]
    exact (ih hu).step (by rwa [settings_run hu]) (step_eq_some_iff.1 hstep)

/-! ### Settings that were checked -/

/-- However starts, stops, waits and rotations follow each other, and whatever comes of them: if the
settings were checked or are the usual ones, every delay that is scheduled is at least a second; it
is at least the shortest delay at a start and after a success, and at most the longest retry delay
after a failure. A start that is not refused schedules a delay, and so does every rotation that
ends. So no two rotations of one loop begin within a second of each other. -/
theorem rotations_paced
    (hsettings : s₀.manager.settings = {} ∨
      ∃ tunables, Settings.check tunables = .ok s₀.manager.settings)
    (hrun : s₀.run pool ms = some s) :
    (∀ m s', s.step pool m = some s' →
      (∀ delay, Schedules pool s s' delay m →
        1 ≤ delay.toNat ∧
          (∀ lease, m = .start lease ∨ s.outcome? pool m = some (.ok lease) →
            s₀.manager.settings.minDelay.toNat ≤ delay.toNat) ∧
          ∀ e, s.outcome? pool m = some (.error e) →
            delay.toNat ≤ s₀.manager.settings.backoff.max.toNat) ∧
      (∀ lease, m = .start lease → s.manager.handle = none → s.manager.stopped = false →
        ∃ delay, Schedules pool s s' delay m) ∧
      ∀ outcome, s.outcome? pool m = some outcome → ∃ delay, Schedules pool s s' delay m) ∧
    ∀ loop, (s₀.begins pool loop ms).Pairwise Apart := by
  have hbounded : s₀.manager.settings.Bounded := by
    obtain heq | ⟨tunables, hcheck⟩ := hsettings
    · rw [heq]
      exact Settings.bounded_default
    · exact Settings.bounded_of_check hcheck
  refine ⟨fun m s' hstep ↦ ?_, fun loop ↦ (paced_run hbounded hrun).apart⟩
  have h := step_eq_some_iff.1 hstep
  rw [← settings_run hrun] at hbounded ⊢
  refine ⟨fun delay hdelay ↦ ?_, ?_, fun outcome ↦ h.schedules_of_outcome⟩
  · obtain ⟨lease, rfl, rfl⟩ | ⟨outcome, houtcome, rfl⟩ := h.scheduled hdelay
    · have hmin : s.manager.settings.minDelay.toNat ≤
          (s.manager.settings.nextDelay lease).toNat := Settings.minDelay_le_nextDelay
      exact ⟨Nat.le_trans hbounded.minDelay hmin, fun _ _ ↦ hmin, nofun⟩
    · refine ⟨settle_pos hbounded, fun lease hlease ↦ ?_, fun e he ↦ ?_⟩
      · obtain rfl | hok := hlease
        · cases houtcome
        · obtain rfl := Option.some.inj (houtcome.symm.trans hok)
          exact Settings.minDelay_le_nextDelay
      · obtain rfl := Option.some.inj (houtcome.symm.trans he)
        exact Backoff.delay_le
  · rintro lease rfl hhandle hrunning
    exact h.schedules_of_start hhandle hrunning

/-- With a base above the maximum the first failure waits for no longer than the maximum. -/
theorem rotations_paced_of_base_above_max :
    let settings : Settings := { backoff := ⟨10, 5⟩, minDelay := 1 }
    ∃ s s' : System RecordedPool, ∃ delay,
      Settings.check { retryDelay := some "10", maxRetryDelay := some "5", minDelay := some "1" } =
          .ok settings ∧
        ({ manager := { settings }, pool := {} } : System RecordedPool).run RecordedPool.hooks
          [.start 3, .call] = some s ∧
        s.step RecordedPool.hooks (.finishCall (.error .rateLimited)) = some s' ∧
        Schedules RecordedPool.hooks s s' delay (.finishCall (.error .rateLimited)) ∧
        1 ≤ delay.toNat ∧ delay.toNat ≤ 5 := by
  intro settings
  have hcheck : Settings.check
      { retryDelay := some "10", maxRetryDelay := some "5", minDelay := some "1" } =
        .ok settings := rfl
  have hrun : ({ manager := { settings }, pool := {} } : System RecordedPool).run
      RecordedPool.hooks [.start 3, .call] = some _ := rfl
  obtain ⟨hsteps, -⟩ := rotations_paced (.inr ⟨_, hcheck⟩) hrun
  obtain ⟨hbounds, -, hschedules⟩ := hsteps (.finishCall (.error .rateLimited)) _ rfl
  obtain ⟨delay, hdelay⟩ := hschedules _ rfl
  obtain ⟨hpos, -, hmax⟩ := hbounds delay hdelay
  exact ⟨_, _, delay, hcheck, hrun, rfl, hdelay, hpos, hmax _ rfl⟩

end System

end VaultAccess.Rotation
