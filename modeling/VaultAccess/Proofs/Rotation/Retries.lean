import Mathlib.Data.List.DropRight
import VaultAccess.Proofs.Rotation.Doubling
import VaultAccess.Proofs.Rotation.Steps

/-!
# The count of failed rotations

A manager counts the rotations that have failed in a row, by way of the backoff, which holds the
count back at its ceiling. Rotations may overlap and may be begun by loops or by hand; only the
order in which they end matters, since everything that a rotation does to the count it does once its
fetch has ended.

`outcomes` reads the outcomes of the rotations that end during a run off the run, and `failures`
counts the failures that they end with. The count of a manager shows that number (`retries_run`),
and so the delay after a failure is the one that belongs to it.
-/

namespace VaultAccess.Rotation

namespace Manager

variable {m : Manager} {lease : UInt64} {e : Chain} {failures : Nat}

/-- A failure, with a count that shows how many there were before. -/
theorem settle_error_retries (hceiling : m.settings.backoff.ceiling < 2 ^ 32 - 2)
    (hretries : m.retries.toNat = m.settings.backoff.shown failures) :
    (m.settle (.error e)).1.retries.toNat = m.settings.backoff.shown (failures + 1) := by
  show ((m.settings.backoff.delay m.retries).2 + 1).toNat = _
  rw [Backoff.toNat_delay_snd_add_one]
  exact Backoff.shown_succ (by omega) hretries

end Manager

namespace System

variable {π : Type} {pool : Pool π} {s₀ s s' : System π} {m : Move} {ms : List Move}
  {outcome : Except Chain UInt64} {lease : UInt64} {e : Chain}

/-! ### The outcomes of a run -/

/-- The outcome of the rotation that ends with a move, if one does. -/
def outcome? (pool : Pool π) (s : System π) (m : Move) : Option (Except Chain UInt64) :=
  m.fetched?.map fun fetched ↦ (Manager.deliver pool fetched s.pool).1

/-- The outcomes of the rotations that end during a run, in order. -/
def outcomes (pool : Pool π) (s : System π) (ms : List Move) : List (Except Chain UInt64) :=
  Runs.seen (step pool) (fun s m _ ↦ s.outcome? pool m) s ms

/-- The number of failures that a row of outcomes ends with. -/
def failuresOf (outcomes : List (Except Chain UInt64)) : Nat :=
  (outcomes.rtakeWhile fun outcome ↦ !outcome.isOk).length

/-- The number of failures since the last success of a run, or since its beginning. -/
def failures (pool : Pool π) (s : System π) (ms : List Move) : Nat :=
  failuresOf (s.outcomes pool ms)

theorem outcomes_concat (hrun : s₀.run pool ms = some s) (hstep : s.step pool m = some s') :
    s₀.outcomes pool (ms ++ [m]) = s₀.outcomes pool ms ++ (s.outcome? pool m).toList := by
  rw [outcomes, Runs.seen_append (run_eq_foldlM.symm.trans hrun), Runs.seen_cons hstep, Runs.seen,
    List.append_nil]
  rfl

theorem failures_concat_of_none (hrun : s₀.run pool ms = some s) (hstep : s.step pool m = some s')
    (hnone : s.outcome? pool m = none) : s₀.failures pool (ms ++ [m]) = s₀.failures pool ms := by
  rw [failures, failures, outcomes_concat hrun hstep, hnone]
  simp

theorem failures_concat_of_ok (hrun : s₀.run pool ms = some s) (hstep : s.step pool m = some s')
    (hok : s.outcome? pool m = some (.ok lease)) : s₀.failures pool (ms ++ [m]) = 0 := by
  rw [failures, outcomes_concat hrun hstep, hok, Option.toList_some, failuresOf,
    List.rtakeWhile_concat_neg _ _ _ (by simp [Except.isOk, Except.toBool])]
  rfl

theorem failures_concat_of_error (hrun : s₀.run pool ms = some s) (hstep : s.step pool m = some s')
    (herror : s.outcome? pool m = some (.error e)) :
    s₀.failures pool (ms ++ [m]) = s₀.failures pool ms + 1 := by
  rw [failures, outcomes_concat hrun hstep, herror, Option.toList_some, failuresOf,
    List.rtakeWhile_concat_pos _ _ _ (by simp [Except.isOk, Except.toBool]), List.length_append]
  rfl

/-! ### What one step does to the count -/

theorem Transition.retries_of_none (h : Transition pool s m s') (hnone : s.outcome? pool m = none) :
    s'.manager.retries = s.manager.retries := by
  cases h with
  | returned | finished => cases hnone
  | _ => rfl

theorem Transition.retries_of_some (h : Transition pool s m s')
    (hsome : s.outcome? pool m = some outcome) :
    s'.manager.retries = (s.manager.settle outcome).1.retries := by
  cases h with
  | returned | finished =>
    obtain rfl := Option.some.inj hsome
    rfl
  | _ => cases hsome

/-- The count shows the number of failures in a row. -/
theorem retries_run (hfresh : s₀.manager.retries = 0)
    (hceiling : s₀.manager.settings.backoff.ceiling < 2 ^ 32 - 2) (hrun : s₀.run pool ms = some s) :
    s.manager.retries.toNat = s₀.manager.settings.backoff.shown (s₀.failures pool ms) := by
  -- from the end, because the failures that count are the last ones
  induction ms using List.reverseRecOn generalizing s with
  | nil =>
    obtain rfl := Option.some.inj hrun
    rw [hfresh]
    exact Backoff.shown_zero.symm
  | append_singleton ms m ih =>
    obtain ⟨u, hu, hstep⟩ := run_concat_eq_some.1 hrun
    have hretries := ih hu
    have h := step_eq_some_iff.1 hstep
    cases houtcome : u.outcome? pool m with
    | none =>
      rw [h.retries_of_none houtcome, failures_concat_of_none hu hstep houtcome]
      exact hretries
    | some outcome =>
      rw [h.retries_of_some houtcome]
      cases outcome with
      | ok lease =>
        rw [failures_concat_of_ok hu hstep houtcome]
        exact Backoff.shown_zero.symm
      | error e =>
        rw [← settings_run hu] at hretries hceiling ⊢
        rw [failures_concat_of_error hu hstep houtcome]
        exact Manager.settle_error_retries hceiling hretries

/-! ### The delays that rotations return -/

/-- The rotation that ends with a step returns a delay: to whoever called it, or to its loop, which
sleeps for as long. -/
def Returns (pool : Pool π) (s s' : System π) (delay : UInt64) : Move → Prop
  | .finishCall fetched => finishCall? pool s fetched = some (s', delay)
  | .finish loop _ =>
    s'.manager.loops[loop]? = some (.sleeping (Manager.wakeAfter delay s.now))
  | _ => False

/-- What a rotation returns is what its outcome settles, and it is kept. -/
theorem Transition.returns (h : Transition pool s m s') (hsome : s.outcome? pool m = some outcome) :
    Returns pool s s' (s.manager.settle outcome).2.1 m ∧
      s'.manager.lastDelay = (s.manager.settle outcome).2.1 := by
  cases h with
  | @returned n fetched hcalls =>
    obtain rfl := Option.some.inj hsome
    constructor
    · show finishCall? pool s fetched = _
      rw [finishCall?, hcalls]
      rfl
    · exact Manager.settle_lastDelay
  | @finished loop fetched hphase =>
    obtain rfl := Option.some.inj hsome
    constructor
    · rw [← conclude_delay]
      exact sleeps_of_rotating hphase
    · exact Manager.settle_lastDelay
  | _ => cases hsome

/-- However rotations overlap, fail and succeed: the count shows the number of failures in a row
until it has passed the ceiling; counting one more never overflows; and a rotation that ends
returns, and the manager keeps, the delay that the lease asks for after a success, and after a
failure the base doubled for every failure in a row before, within the maximum, until the ceiling is
passed. -/
theorem retries_and_delays (hfresh : s₀.manager.retries = 0)
    (hceiling : s₀.manager.settings.backoff.ceiling < 2 ^ 32 - 2) (hrun : s₀.run pool ms = some s) :
    s.manager.retries.toNat =
        min (s₀.failures pool ms) (s₀.manager.settings.backoff.ceiling.toNat + 1) ∧
      (s₀.manager.settings.backoff.delay s.manager.retries).2.toNat + 1 < 2 ^ 32 ∧
      ∀ m s' outcome, s.step pool m = some s' → s.outcome? pool m = some outcome →
        ∃ delay, Returns pool s s' delay m ∧ s'.manager.lastDelay = delay ∧
          (∀ lease, outcome = .ok lease →
            s₀.failures pool (ms ++ [m]) = 0 ∧ delay = s₀.manager.settings.nextDelay lease) ∧
          ∀ e, outcome = .error e →
            ∃ k, s₀.failures pool (ms ++ [m]) = k + 1 ∧
              delay.toNat =
                if (k : Int) ≤ s₀.manager.settings.backoff.ceiling then
                  min (s₀.manager.settings.backoff.base.toNat * 2 ^ k)
                    s₀.manager.settings.backoff.max.toNat
                else s₀.manager.settings.backoff.max.toNat := by
  have hretries := retries_run hfresh hceiling hrun
  have hsettings := settings_run hrun
  refine ⟨hretries, ?_, fun m s' outcome hstep houtcome ↦ ?_⟩
  · rw [Backoff.shown_succ (by omega) hretries, Backoff.shown]
    omega
  · obtain ⟨hreturns, hkept⟩ := (step_eq_some_iff.1 hstep).returns houtcome
    refine ⟨_, hreturns, hkept, ?_, ?_⟩
    · rintro lease rfl
      refine ⟨failures_concat_of_ok hrun hstep houtcome, ?_⟩
      rw [← hsettings]
      rfl
    · rintro e rfl
      refine ⟨_, failures_concat_of_error hrun hstep houtcome, ?_⟩
      rw [← hsettings] at hretries ⊢
      exact Backoff.delay_shown_fst hretries

/-- The second of two failures in a row doubles the delay. -/
theorem retries_and_delays_of_second_failure :
    let ms : List Move := [.call, .call, .finishCall (.error .rateLimited)]
    ∃ s s' : System RecordedPool, unstarted.run RecordedPool.hooks ms = some s ∧
      s.step RecordedPool.hooks (.finishCall (.error .rateLimited)) = some s' ∧
      s.manager.retries.toNat = 1 ∧ s'.manager.lastDelay.toNat = 4 := by
  intro ms
  have hceiling : unstarted.manager.settings.backoff.ceiling = 4 := by decide +kernel
  have hone : unstarted.failures RecordedPool.hooks ms = 1 := by decide +kernel
  have hcalls : (unstarted.run RecordedPool.hooks ms).map (·.calls) = some 1 := by decide +kernel
  obtain ⟨s, hrun, hcalls⟩ := Option.map_eq_some_iff.1 hcalls
  have hstep : s.step RecordedPool.hooks (.finishCall (.error .rateLimited)) = some _ :=
    step_eq_some_iff.2 (.returned hcalls)
  obtain ⟨hretries, -, hends⟩ := retries_and_delays rfl (by rw [hceiling]; decide) hrun
  obtain ⟨delay, -, hkept, -, hfailed⟩ := hends _ _ _ hstep rfl
  obtain ⟨k, hk, hdelay⟩ := hfailed _ rfl
  obtain rfl : k = 1 := by
    rw [failures_concat_of_error hrun hstep rfl, hone] at hk
    exact (Nat.succ.inj hk).symm
  rw [hone, hceiling] at hretries
  rw [hceiling] at hdelay
  refine ⟨s, _, hrun, hstep, hretries, ?_⟩
  rw [hkept, hdelay]
  rfl

end System

end VaultAccess.Rotation
