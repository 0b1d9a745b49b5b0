import VaultAccess.Proofs.Session.Decisions
import VaultAccess.Proofs.Session.Steps

/-!
# What holds in every run of the callers of a session

`Coherent` gathers what every reachable system keeps. The lock has the holder that the phases tell
of; the count is the number of outcomes; no caller has seen a count that is yet to come; and the
failure that the session keeps is the one that the last login ended with, except between the end of
a login and its being noted, when it is still that of the login before.

The last field is where the lock does its work: while a login is under way, or has ended and is not
noted yet, the session has no valid token. Only the holder stores tokens, so nothing but the passing
of time and the forgetting of the token can happen to a token meanwhile, and neither makes one
valid.
-/

namespace VaultAccess.Session

/-- The login is under way, or its outcome is not noted yet. -/
def Phase.isUnsettled : Phase → Bool
  | .loggingIn _ => true
  | .counted _ => true
  | _ => false

/-- A phase without a settled outcome is one with the lock. -/
theorem Phase.holdsLock_of_isUnsettled {p : Phase} (h : p.isUnsettled = true) :
    p.holdsLock = true := by
  cases p with
  | loggingIn | counted => rfl
  | _ => simp [isUnsettled] at h

theorem Phase.holdsLock_of_isLoggingIn {p : Phase} (h : p.isLoggingIn = true) :
    p.holdsLock = true := by
  cases p with
  | loggingIn => rfl
  | _ => simp [isLoggingIn] at h

/-- What is kept of a row of outcomes, the newest first: the number of the last one and why it is a
failure, if it is. -/
def failureOf : List (Except Failure Grant) → Option (Nat × AuthenticationFault)
  | .error f :: earlier => some (earlier.length + 1, faultOf f)
  | _ => none

namespace System

/-- What every reachable system keeps. -/
structure Coherent (s : System) : Prop where
  /-- Exactly the holder is in a phase with the lock. -/
  holdsLock_iff : ∀ i, (s.callers i).holdsLock = true ↔ s.holder = some i
  /-- Every login that has ended is counted. -/
  attempts_eq : s.session.attempts = s.outcomes.length
  /-- Callers have seen counts of the past. -/
  observed_le : ∀ i n, (s.callers i).observed? = some n → n ≤ s.outcomes.length
  /-- A counted outcome is the last one, and the session knows those before it. -/
  counted : ∀ i outcome, s.callers i = .counted outcome →
    ∃ earlier, s.outcomes = outcome :: earlier ∧ s.session.lastFailure = failureOf earlier
  /-- Otherwise the session knows of all outcomes. -/
  lastFailure_eq : (∀ i outcome, s.callers i ≠ .counted outcome) →
    s.session.lastFailure = failureOf s.outcomes
  /-- Nobody logs in while there is a valid token. -/
  valid?_eq_none : ∀ i, (s.callers i).isUnsettled = true → s.session.valid? s.now = none

variable {s s' t : System} {m : Move} {ms : List Move} {i j n : Nat}

/-- Nobody has begun. -/
theorem coherent_init (now : Instant) : Coherent { now } where
  holdsLock_iff i := by simp [Phase.holdsLock]
  attempts_eq := rfl
  observed_le i n h := by cases h
  counted i outcome h := by cases h
  lastFailure_eq _ := rfl
  valid?_eq_none i h := by cases h

/-- Two callers with the lock are one. -/
theorem Coherent.eq_of_holdsLock (hs : s.Coherent) (hi : (s.callers i).holdsLock = true)
    (hj : (s.callers j).holdsLock = true) : i = j :=
  Option.some.inj (((hs.holdsLock_iff i).1 hi).symm.trans ((hs.holdsLock_iff j).1 hj))

/-! ### The lock, step by step -/

/-- A caller that neither takes nor gives back the lock. -/
theorem holdsLock_iff_put {p : Phase} (hs : ∀ j, (s.callers j).holdsLock = true ↔ s.holder = some j)
    (hp : p.holdsLock = (s.callers i).holdsLock) (j : Nat) :
    ((s.put i p).callers j).holdsLock = true ↔ s.holder = some j := by
  by_cases hj : j = i
  · rw [hj, put_callers_self, hp]
    exact hs i
  · rw [put_callers_of_ne hj]
    exact hs j

/-- A caller that gives the lock back. -/
theorem holdsLock_iff_release {p : Phase}
    (hs : ∀ j, (s.callers j).holdsLock = true ↔ s.holder = some j)
    (hi : (s.callers i).holdsLock = true) (hp : p.holdsLock = false) (j : Nat) :
    ((s.put i p).callers j).holdsLock = true ↔ (none : Option Nat) = some j := by
  by_cases hj : j = i
  · simp [hj, hp]
  · have hne : s.holder ≠ some j := fun h ↦
      hj (Option.some.inj (h.symm.trans ((hs i).1 hi)))
    rw [put_callers_of_ne hj, hs j]
    simp [hne]

theorem Coherent.holdsLock_iff_step (hs : s.Coherent) (h : Transition s m s') (j : Nat) :
    (s'.callers j).holdsLock = true ↔ s'.holder = some j := by
  cases h with
  | found hphase | missed hphase | queued hphase | answered hphase | settled hphase
  | gaveUpWaiting hphase =>
    exact holdsLock_iff_put hs.holdsLock_iff (by rw [hphase]; rfl) j
  | @chose i n hphase =>
    refine holdsLock_iff_put hs.holdsLock_iff ?_ j
    rw [hphase]
    cases s.session.decision s.now n <;> rfl
  | @entered i n hphase hfree =>
    by_cases hj : j = i
    · simp [hj, Phase.holdsLock]
    · have hnot : (s.callers j).holdsLock ≠ true := fun hj' ↦ by
        rw [(hs.holdsLock_iff j).1 hj'] at hfree
        cases hfree
      show ((s.put i _).callers j).holdsLock = true ↔ some i = some j
      rw [put_callers_of_ne hj]
      simp [hnot, Ne.symm hj]
  | left hphase | gaveUpDeciding hphase | gaveUpLoggingIn hphase =>
    exact holdsLock_iff_release hs.holdsLock_iff (by rw [hphase]; rfl) rfl j
  | invalidated | ticked => exact hs.holdsLock_iff j

/-! ### The count and the outcomes, step by step -/

theorem Coherent.attempts_eq_step (hs : s.Coherent) (h : Transition s m s') :
    s'.session.attempts = s'.outcomes.length := by
  cases h with
  | answered => exact congrArg (· + 1) hs.attempts_eq
  | @settled _ outcome =>
    cases outcome with
    | ok | error => exact hs.attempts_eq
  | _ => exact hs.attempts_eq

theorem Coherent.observed_le_step (hs : s.Coherent) (h : Transition s m s') (j k : Nat)
    (hj : (s'.callers j).observed? = some k) : k ≤ s'.outcomes.length := by
  have hold : ∀ k, (s.callers j).observed? = some k → k ≤ s'.outcomes.length := fun k hk ↦
    Nat.le_trans (hs.observed_le j k hk) h.outcomes_suffix.length_le
  by_cases hm : m.caller? = some j
  · cases h with
    | found | missed | answered | settled | left | gaveUpWaiting | gaveUpDeciding
    | gaveUpLoggingIn =>
      obtain rfl := Option.some.inj hm
      simp [Phase.observed?] at hj
    | queued =>
      obtain rfl := Option.some.inj hm
      obtain rfl : s.session.attempts = k := by simpa [Phase.observed?] using hj
      exact Nat.le_of_eq hs.attempts_eq
    | entered hphase =>
      obtain rfl := Option.some.inj hm
      exact hold k (by simpa [hphase, Phase.observed?] using hj)
    | @chose _ n hphase =>
      obtain rfl := Option.some.inj hm
      refine hold k ?_
      rw [put_callers_self] at hj
      rw [hphase]
      cases hd : s.session.decision s.now n with
      | use | share => rw [hd] at hj; cases hj
      | logIn => rwa [hd] at hj
    | invalidated | ticked => cases hm
  · rw [h.callers_eq hm] at hj
    exact hold k hj

/-- A caller whose outcome is counted has just got it or had it before. -/
theorem Transition.counted_cases {outcome : Except Failure Grant} (h : Transition s m s')
    (hj : s'.callers j = .counted outcome) :
    m = .answer j outcome ∨ m.caller? ≠ some j ∧ s.callers j = .counted outcome := by
  by_cases hm : m.caller? = some j
  · left
    cases h with
    | answered =>
      obtain rfl := Option.some.inj hm
      obtain rfl : _ = outcome := by simpa using hj
      rfl
    | @chose _ n =>
      obtain rfl := Option.some.inj hm
      rw [put_callers_self] at hj
      cases hd : s.session.decision s.now n <;> rw [hd] at hj <;> cases hj
    | invalidated | ticked => cases hm
    | _ =>
      obtain rfl := Option.some.inj hm
      simp at hj
  · exact .inr ⟨hm, by rw [← h.callers_eq hm, hj]⟩

theorem Coherent.not_counted_of_ne (hs : s.Coherent) (hi : (s.callers i).holdsLock = true)
    (hp : ∀ outcome, s.callers i ≠ .counted outcome) (j : Nat) (outcome : Except Failure Grant) :
    s.callers j ≠ .counted outcome := by
  intro hj
  obtain rfl := hs.eq_of_holdsLock hi (i := i) (j := j) (by rw [hj]; rfl)
  exact hp outcome hj

theorem Coherent.counted_step (hs : s.Coherent) (h : Transition s m s') (j : Nat)
    (outcome : Except Failure Grant) (hj : s'.callers j = .counted outcome) :
    ∃ earlier, s'.outcomes = outcome :: earlier ∧ s'.session.lastFailure = failureOf earlier := by
  rcases h.counted_cases hj with rfl | ⟨hm, hold⟩
  · cases h with
    | answered hphase =>
      refine ⟨s.outcomes, rfl, hs.lastFailure_eq ?_⟩
      exact hs.not_counted_of_ne (i := j) (by rw [hphase]; rfl) (by rw [hphase]; simp)
  · obtain ⟨earlier, houtcomes, hlast⟩ := hs.counted j outcome hold
    have hlock : ∀ i, (s.callers i).holdsLock = true → i = j := fun i hi ↦
      hs.eq_of_holdsLock hi (by rw [hold]; rfl)
    cases h with
    | @answered i _ _ hphase =>
      exact absurd (congrArg some (hlock i (by rw [hphase]; rfl))) hm
    | @settled i _ hphase =>
      exact absurd (congrArg some (hlock i (by rw [hphase]; rfl))) hm
    | _ => exact ⟨earlier, houtcomes, hlast⟩

theorem Coherent.lastFailure_eq_step (hs : s.Coherent) (h : Transition s m s')
    (hnone : ∀ i outcome, s'.callers i ≠ .counted outcome) :
    s'.session.lastFailure = failureOf s'.outcomes := by
  cases h with
  | @answered i => exact absurd put_callers_self (hnone i _)
  | @settled i outcome hphase =>
    obtain ⟨earlier, houtcomes, hlast⟩ := hs.counted i outcome hphase
    show (s.session.settle s.now outcome).1.lastFailure = failureOf s.outcomes
    rw [houtcomes]
    cases outcome with
    | ok => rfl
    | error f =>
      -- the outcome that is noted is the last one, so its number is the count
      show some (s.session.attempts, faultOf f) = some (earlier.length + 1, faultOf f)
      rw [hs.attempts_eq, houtcomes, List.length_cons]
  | invalidated | ticked => exact hs.lastFailure_eq hnone
  -- no other step makes or takes away a counted outcome
  | @chose i _ hphase =>
    refine hs.lastFailure_eq ?_
    exact hs.not_counted_of_ne (i := i) (by rw [hphase]; rfl) (by simp [hphase])
  | @found i _ hphase | @missed i hphase | @queued i hphase | @entered i _ hphase
  | @left i _ hphase | @gaveUpWaiting i _ hphase | @gaveUpDeciding i _ hphase
  | @gaveUpLoggingIn i _ hphase =>
    refine hs.lastFailure_eq fun j outcome hj ↦ hnone j outcome ?_
    have hne : j ≠ i := by
      rintro rfl
      rw [hphase] at hj
      cases hj
    exact (put_callers_of_ne hne).trans hj

/-! ### Tokens while somebody logs in -/

theorem Coherent.valid?_eq_none_step (hs : s.Coherent) (h : Transition s m s') (j : Nat)
    (hj : (s'.callers j).isUnsettled = true) : s'.session.valid? s'.now = none := by
  cases h with
  | invalidated => exact valid?_invalidate
  | ticked =>
    exact valid?_eq_none_of_le (Transition.now_le .ticked) (hs.valid?_eq_none j hj)
  | @settled i outcome hphase =>
    -- the caller that settles holds the lock, so nobody else is unsettled
    by_cases hne : j = i
    · simp [hne, Phase.isUnsettled] at hj
    · have hj' : (s.callers j).isUnsettled = true := by
        rwa [← put_callers_of_ne (s := s) (p := .leaving (s.session.settle s.now outcome).2) hne]
      have hlock := Phase.holdsLock_of_isUnsettled hj'
      exact absurd (hs.eq_of_holdsLock hlock (by rw [hphase]; rfl)) hne
  | @answered i n _ hphase =>
    exact valid?_count.trans (hs.valid?_eq_none i (by rw [hphase]; rfl))
  | @chose i n hphase =>
    by_cases hne : j = i
    · rw [hne, put_callers_self] at hj
      cases hd : s.session.decision s.now n with
      | use | share => rw [hd] at hj; cases hj
      | logIn => exact (decision_eq_logIn_iff.1 hd).1
    · rw [put_callers_of_ne hne] at hj
      exact hs.valid?_eq_none j hj
  | @found i | @missed i | @queued i | @entered i | @left i | @gaveUpWaiting i
  | @gaveUpDeciding i | @gaveUpLoggingIn i =>
    by_cases hne : j = i
    · simp [hne, Phase.isUnsettled] at hj
    · exact hs.valid?_eq_none j ((congrArg Phase.isUnsettled (put_callers_of_ne hne)).symm.trans hj)

/-! ### Runs -/

theorem Coherent.step (hs : s.Coherent) (h : Transition s m s') : s'.Coherent where
  holdsLock_iff := hs.holdsLock_iff_step h
  attempts_eq := hs.attempts_eq_step h
  observed_le := hs.observed_le_step h
  counted := hs.counted_step h
  lastFailure_eq := hs.lastFailure_eq_step h
  valid?_eq_none := hs.valid?_eq_none_step h

theorem Coherent.run (hs : s.Coherent) (hrun : s.run ms = some t) : t.Coherent :=
  run_preserves (P := Coherent) (fun _ _ _ _ h hu ↦ hu.step h) hrun hs

/-- Whatever has happened to a session that was new once. -/
theorem coherent_of_run {now : Instant} (hrun : ({ now } : System).run ms = some s) : s.Coherent :=
  (coherent_init now).run hrun

end System

end VaultAccess.Session
