import Mathlib.Tactic.ByContra
import VaultAccess.Proofs.Session.Coherence

/-!
# Who begins to log in

A caller begins to log in only with the lock in hand, without a valid token, and unless the last
login ended in failure after the caller had seen the count. The lock makes the first two hold at
once, and that nobody else logs in meanwhile; the third is the comparison of the count that the
caller has seen with the number that was noted with the failure (`Coherent.no_newer_failure`).

`logins` reads the callers that begin to log in off a run, by comparing their phases before and
after each step, so it does not depend on how a decision comes about.
-/

namespace VaultAccess.Session

namespace System

/-- The caller that begins to log in with a step, if one does. -/
def beginner? (s s' : System) (m : Move) : Option Nat :=
  m.caller?.filter fun i ↦ (s'.callers i).isLoggingIn && !(s.callers i).isLoggingIn

/-- The callers that begin to log in during a run, in order. -/
def logins (s : System) (ms : List Move) : List Nat :=
  Runs.seen step (fun s m s' ↦ beginner? s s' m) s ms

variable {s s' t u : System} {m : Move} {ms ns : List Move} {i k n : Nat}

theorem logins_cons (hstep : s.step m = some s') :
    s.logins (m :: ms) = (beginner? s s' m).toList ++ s'.logins ms :=
  Runs.seen_cons hstep

theorem logins_append (hrun : s.run ms = some t) :
    s.logins (ms ++ ns) = s.logins ms ++ t.logins ns :=
  Runs.seen_append (run_eq_foldlM.symm.trans hrun)

/-! ### Who begins to log in -/

/-- A caller begins to log in exactly if it holds the lock and so decides. -/
theorem Transition.beginner?_eq_some_iff (h : Transition s m s') :
    beginner? s s' m = some i ↔
      m = .choose i ∧ ∃ n, s.callers i = .deciding n ∧ s.session.decision s.now n = .logIn := by
  simp only [beginner?, Option.filter_eq_some_iff, Bool.and_eq_true, Bool.not_eq_true']
  constructor
  · rintro ⟨hm, hafter, -⟩
    cases h with
    | @chose j n hphase =>
      obtain rfl := Option.some.inj hm
      rw [put_callers_self] at hafter
      refine ⟨rfl, n, hphase, ?_⟩
      cases hd : s.session.decision s.now n with
      | use | share => rw [hd] at hafter; cases hafter
      | logIn => rfl
    | invalidated | ticked => cases hm
    | _ =>
      obtain rfl := Option.some.inj hm
      simp [Phase.isLoggingIn] at hafter
  · rintro ⟨rfl, n, hphase, hd⟩
    cases h with
    | @chose _ n' hphase' =>
      obtain rfl := Phase.deciding.inj (hphase'.symm.trans hphase)
      refine ⟨rfl, ?_, by rw [hphase]; rfl⟩
      rw [put_callers_self, hd]
      rfl

theorem Transition.holdsLock_of_beginner? (h : Transition s m s') (hi : beginner? s s' m = some i) :
    (s.callers i).holdsLock = true := by
  obtain ⟨-, n, hphase, -⟩ := h.beginner?_eq_some_iff.1 hi
  rw [hphase]
  rfl

/-- With the lock held by a caller that does not decide, nobody begins to log in. -/
theorem Coherent.beginner?_eq_none (hs : s.Coherent) (h : Transition s m s')
    (hk : (s.callers k).holdsLock = true) (hnot : ∀ n, s.callers k ≠ .deciding n) :
    beginner? s s' m = none := by
  rw [Option.eq_none_iff_forall_ne_some]
  intro i hi
  obtain rfl := hs.eq_of_holdsLock hk (h.holdsLock_of_beginner? hi)
  obtain ⟨-, n, hphase, -⟩ := h.beginner?_eq_some_iff.1 hi
  exact hnot n hphase

/-- A caller that has seen a count has queued. -/
theorem queue_mem_of_observed? {now : Instant} (hrun : ({ now } : System).run ms = some s)
    (hi : (s.callers i).observed? = some n) : .queue i ∈ ms := by
  by_contra hnot
  have hnone : (s.callers i).observed? = none := by
    refine run_preserves (P := fun u ↦ (u.callers i).observed? = none) ?_ hrun rfl
    intro u m u' hm h hu
    by_cases hc : m.caller? = some i
    · cases h with
      | queued =>
        obtain rfl := Option.some.inj hc
        exact absurd hm hnot
      | entered hphase | chose hphase =>
        obtain rfl := Option.some.inj hc
        simp [hphase, Phase.observed?] at hu
      | invalidated | ticked => cases hc
      | _ =>
        obtain rfl := Option.some.inj hc
        simp [Phase.observed?]
    · rwa [h.callers_eq hc]
  rw [hnone] at hi
  cases hi

/-- What a caller has seen is the number of logins that had ended when it queued. -/
theorem observed?_eq_of_queue {before between : List Move} (hs : s.Coherent)
    (hbefore : s.run before = some u) (hrun : s.run (before ++ .queue i :: between) = some t)
    (hi : (t.callers i).observed? = some n) : n = u.outcomes.length := by
  obtain ⟨u₁, hu₁, hrest⟩ := run_append_eq_some.1 hrun
  obtain rfl := Option.some.inj (hbefore.symm.trans hu₁)
  obtain ⟨u', hqueue, hbetween⟩ := run_cons_eq_some.1 hrest
  have hsees : (u'.callers i).observed? = some u.session.attempts := by
    cases step_eq_some_iff.1 hqueue with
    | queued => simp [Phase.observed?]
  rcases observed_or_past_run hbetween hsees with hsame | hpast
  · rw [hsame] at hi
    rw [← Option.some.inj hi, (hs.run hbefore).attempts_eq]
  · cases hphase : t.callers i <;> rw [hphase] at hi hpast <;> cases hi <;> cases hpast

/-- A caller that decides to log in does not pass over a failure that ended after what it has seen.
-/
theorem Coherent.no_newer_failure (hs : s.Coherent) {earlier : List (Except Failure Grant)}
    (hphase : s.callers i = .deciding earlier.length)
    (hd : s.session.decision s.now earlier.length = .logIn) (hsuffix : earlier <:+ s.outcomes) :
    ∃ since, s.outcomes = since ++ earlier ∧ ∀ f, since.head? ≠ some (.error f) := by
  obtain ⟨since, hsince⟩ := hsuffix
  refine ⟨since, hsince.symm, fun f hf ↦ ?_⟩
  obtain ⟨newer, rfl⟩ := List.head?_eq_some_iff.1 hf
  have hlast : s.session.lastFailure = some (s.outcomes.length, faultOf f) := by
    rw [hs.lastFailure_eq (hs.not_counted_of_ne (i := i) (by rw [hphase]; rfl) (by simp [hphase])),
      ← hsince]
    rfl
  have hshare : s.session.failureAfter? earlier.length = some (faultOf f) := by
    refine failureAfter?_eq_some_iff.2 ⟨_, hlast, ?_⟩
    rw [← hsince, List.length_append, List.length_cons]
    omega
  rw [(decision_eq_logIn_iff.1 hd).2] at hshare
  cases hshare

end System

end VaultAccess.Session
