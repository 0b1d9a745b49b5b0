import Mathlib.Data.List.Range
import VaultAccess.Proofs.Rotation.Stopping

/-!
# Starting once

Whether a manager has been started is told by the handle to its loop, and a wait takes the handle
away. So a manager whose loop was waited for can be started again, and then it has two loops.

The handles number the loops: those that were taken before the manager was stopped and the one that
is there now are the loops that were started, in order (`numbered_run`). With each of them gone one
more loop is possible, and that is all: whoever waits only after a stop never sees a second loop.
-/

namespace VaultAccess.Rotation

@[simp] theorem Manager.settle_handle {m : Manager} {outcome : Except Chain UInt64} :
    (m.settle outcome).1.handle = m.handle := by
  cases outcome <;> rfl

namespace System

variable {π : Type} {pool : Pool π} {s₀ s s' t : System π} {m : Move} {ms : List Move}
  {taken : List Nat}

/-- The handle that a move takes away from a manager that has not been stopped, if there is one. -/
def earlyHandle? (s : System π) : Move → Option Nat
  | .wait => if s.manager.stopped then none else s.manager.handle
  | _ => none

/-- The handles that are taken away during a run before the manager is stopped, in order. -/
def earlyHandles (pool : Pool π) (s : System π) (ms : List Move) : List Nat :=
  Runs.seen (step pool) (fun s m _ ↦ s.earlyHandle? m) s ms

/-- Handles number the loops: as long as the manager runs, those that were taken and the one that is
there are the loops that were started; once it is stopped, there is at most one loop more than
handles that were taken. -/
structure Numbered (s : System π) (taken : List Nat) : Prop where
  running : s.manager.stopped = false →
    taken ++ s.manager.handle.toList = List.range s.manager.loops.length
  length_le : s.manager.loops.length ≤ taken.length + 1

/-- Running, a manager has no more loops than handles. -/
theorem Numbered.of_running
    (h : taken ++ s.manager.handle.toList = List.range s.manager.loops.length) :
    s.Numbered taken := by
  refine ⟨fun _ ↦ h, ?_⟩
  have hlength := congrArg List.length h
  rw [List.length_append, List.length_range] at hlength
  have hhandle : s.manager.handle.toList.length ≤ 1 := by
    cases s.manager.handle <;> simp
  omega

/-- A step that is neither a start nor a wait changes neither the loops' number nor the handle. -/
theorem Transition.handle_eq (h : Transition pool s m s') (hstart : ∀ lease, m ≠ .start lease)
    (hwait : m ≠ .wait) :
    s'.manager.handle = s.manager.handle ∧
      s'.manager.loops.length = s.manager.loops.length := by
  cases h with
  | startedAgain | startedLate | started => exact absurd rfl (hstart _)
  | waited => exact absurd rfl hwait
  | listened | woke | wokeStopped | began | noticed => exact ⟨rfl, List.length_set⟩
  | returned =>
    rw [conclude_manager]
    exact ⟨Manager.settle_handle, congrArg List.length Manager.settle_loops⟩
  | finished =>
    rw [conclude_manager]
    exact ⟨Manager.settle_handle,
      List.length_set.trans (congrArg List.length Manager.settle_loops)⟩
  | _ => exact ⟨rfl, rfl⟩

/-- Only stopping stops a manager. -/
theorem Transition.runs_before (h : Transition pool s m s')
    (hrunning : s'.manager.stopped = false) : s.manager.stopped = false := by
  cases hstopped : s.manager.stopped with
  | false => rfl
  | true =>
    rw [h.stays_stopped hstopped] at hrunning
    cases hrunning

theorem Numbered.step (hs : s.Numbered taken) (h : Transition pool s m s') :
    s'.Numbered (taken ++ (s.earlyHandle? m).toList) := by
  cases hstopped : s.manager.stopped with
  | true =>
    -- nothing is added any more, and nothing is counted
    have hnone : s.earlyHandle? m = none := by
      cases m <;> simp [earlyHandle?, hstopped]
    rw [hnone, Option.toList_none, List.append_nil]
    refine ⟨fun hrunning ↦ ?_, (h.length_of_stopped hstopped).trans_le hs.length_le⟩
    rw [h.stays_stopped hstopped] at hrunning
    cases hrunning
  | false =>
    have hnumbers := hs.running hstopped
    cases m with
    | start lease =>
      have hnone : s.earlyHandle? (.start lease) = none := rfl
      rw [hnone, Option.toList_none, List.append_nil]
      cases h with
      | startedAgain => exact .of_running hnumbers
      | startedLate _ hlate => simp [hstopped] at hlate
      | started hhandle hrunning =>
        have hnone : s.manager.handle = none := by simpa using hhandle
        rw [hnone, Option.toList_none, List.append_nil] at hnumbers
        refine .of_running ?_
        show taken ++ [s.manager.loops.length] = List.range (s.manager.loops ++ [_]).length
        rw [hnumbers, List.length_append, List.length_singleton, List.range_succ]
    | wait =>
      cases h with
      | waited =>
        refine .of_running ?_
        simpa [earlyHandle?, hstopped] using hnumbers
    | _ =>
      obtain ⟨hhandle, hlength⟩ := h.handle_eq (fun _ hm ↦ by cases hm) fun hm ↦ by cases hm
      refine ⟨fun _ ↦ ?_, hlength.trans_le (by simpa [earlyHandle?] using hs.length_le)⟩
      rw [hhandle, hlength]
      simpa [earlyHandle?] using hnumbers

theorem numbered_run (hs : s₀.Numbered []) (hrun : s₀.run pool ms = some t) :
    t.Numbered (s₀.earlyHandles pool ms) := by
  induction ms using List.reverseRecOn generalizing t with
  | nil =>
    obtain rfl := Option.some.inj hrun
    exact hs
  | append_singleton ms m ih =>
    obtain ⟨u, hu, hstep⟩ := run_concat_eq_some.1 hrun
    rw [earlyHandles, Runs.seen_concat (run_eq_foldlM.symm.trans hu) hstep]
    exact (ih hu).step (step_eq_some_iff.1 hstep)

/-- However starts, stops, waits and rotations follow each other: a manager that has not been
stopped has had as many loops as handles, and one that was stopped at most one more than handles
were taken before; and a start adds a loop exactly if there is no handle and the manager was not
stopped, while nothing else ever does. So there is no second loop unless somebody waited for the
first before the manager was stopped. -/
theorem loops_numbered (hloops : s₀.manager.loops = []) (hhandle : s₀.manager.handle = none)
    (hrun : s₀.run pool ms = some t) :
    (t.manager.stopped = false →
        s₀.earlyHandles pool ms ++ t.manager.handle.toList =
          List.range t.manager.loops.length) ∧
      t.manager.loops.length ≤ (s₀.earlyHandles pool ms).length + 1 ∧
      ∀ m t', t.step pool m = some t' → (t'.manager.loops.length ≠ t.manager.loops.length ↔
        (∃ lease, m = .start lease) ∧ t.manager.handle = none ∧ t.manager.stopped = false) := by
  have hs₀ : s₀.Numbered [] := ⟨fun _ ↦ by rw [hloops, hhandle]; rfl, by rw [hloops]; decide⟩
  have ht := numbered_run hs₀ hrun
  refine ⟨ht.running, ht.length_le, fun m t' hstep ↦ ?_⟩
  have h := step_eq_some_iff.1 hstep
  constructor
  · intro hne
    cases m with
    | start lease =>
      cases h with
      | startedAgain | startedLate => exact absurd rfl hne
      | started hhandle hrunning => exact ⟨⟨lease, rfl⟩, by simpa using hhandle, hrunning⟩
    | wait =>
      cases h
      exact absurd rfl hne
    | _ => exact absurd (h.handle_eq (fun _ hm ↦ by cases hm) fun hm ↦ by cases hm).2 hne
  · rintro ⟨⟨lease, rfl⟩, hnone, hrunning⟩
    cases h with
    | startedAgain hsome => simp [hnone] at hsome
    | startedLate _ hstopped => simp [hrunning] at hstopped
    | started => simp [emitAll]

/-- A manager that is waited for only after it was stopped, and then started once more. -/
theorem loops_numbered_of_late_wait :
    ∃ t, unstarted.run RecordedPool.hooks [.start 100, .stop, .wait, .start 100] = some t ∧
      t.manager.loops.length ≤ 1 := by
  have hrun : unstarted.run RecordedPool.hooks [.start 100, .stop, .wait, .start 100] = some _ :=
    rfl
  obtain ⟨-, hlength, -⟩ := loops_numbered rfl rfl hrun
  exact ⟨_, hrun, hlength⟩

/-- A manager that is waited for before it was stopped can be started once more, and then two loops
rotate at the same time. -/
theorem two_loops_of_early_wait :
    ¬ ∀ (ms : List Move) (t : System RecordedPool),
      unstarted.run RecordedPool.hooks ms = some t → t.manager.loops.length ≤ 1 ∧
        ∀ i j : Nat, t.manager.loops[i]? = some .rotating →
          t.manager.loops[j]? = some .rotating → i = j := by
  intro h
  have hrun : unstarted.run RecordedPool.hooks
      [.start 100, .wait, .start 100, .listen 0, .listen 1, .tick 90000, .wake 0, .begin 0,
        .wake 1, .begin 1] = some _ := rfl
  obtain ⟨-, hsame⟩ := h _ _ hrun
  exact absurd (hsame 0 1 rfl rfl) (by decide)

end System

end VaultAccess.Rotation
