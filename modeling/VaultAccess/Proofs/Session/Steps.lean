import VaultAccess.Proofs.Runs
import VaultAccess.Session.System

/-!
# Steps and runs of the callers of a session

`Transition` writes `System.step` out as a relation, one rule for everything that can happen, each
with the condition under which it can. Whatever holds of every step is proved by cases on it, and
nothing else unfolds `System.step`.

Runs are taken apart with `run_cons_eq_some` and `run_append_eq_some`; what every step of a run
preserves the run preserves (`run_preserves`).

## What no step undoes

Callers only go forward. Once a caller has seen a count it keeps that count until its login has
ended (`observed_or_past_run`), and once its login has ended it never waits again (`isPast_run`).
The clock does not go back (`now_le_run`), and outcomes of logins are only added
(`outcomes_suffix_run`).
-/

namespace VaultAccess.Session

/-! ### Phases and moves -/

/-- The count of logins that a caller has seen, from when it waits for the lock until its login
ends. -/
def Phase.observed? : Phase → Option Nat
  | .waiting observed => some observed
  | .deciding observed => some observed
  | .loggingIn observed => some observed
  | _ => none

/-- Whether a caller logs in. -/
def Phase.isLoggingIn : Phase → Bool
  | .loggingIn _ => true
  | _ => false

/-- Whether a caller needs the lock no more, or only to note what it has got. -/
def Phase.isPast : Phase → Bool
  | .counted _ => true
  | .leaving _ => true
  | .done _ => true
  | .cancelled => true
  | _ => false

/-- The caller that makes a move, if it is not its surroundings that do. -/
def Move.caller? : Move → Option Nat
  | .look i => some i
  | .queue i => some i
  | .enter i => some i
  | .choose i => some i
  | .answer i _ => some i
  | .settle i => some i
  | .leave i => some i
  | .cancel i => some i
  | .invalidate => none
  | .tick _ => none

/-- The moves that a caller may make in each phase. -/
def Phase.Allows (i : Nat) : Phase → Move → Prop
  | .idle, m => m = .look i
  | .missed, m => m = .queue i
  | .waiting _, m => m = .enter i ∨ m = .cancel i
  | .deciding _, m => m = .choose i ∨ m = .cancel i
  | .loggingIn _, m => (∃ outcome, m = .answer i outcome) ∨ m = .cancel i
  | .counted _, m => m = .settle i
  | .leaving _, m => m = .leave i
  | .done _, _ => False
  | .cancelled, _ => False

namespace System

variable {s s' t u : System} {m : Move} {ms ns : List Move} {i j n : Nat} {p : Phase}

@[simp] theorem put_callers_self : (s.put i p).callers i = p := if_pos rfl

theorem put_callers_of_ne (h : j ≠ i) : (s.put i p).callers j = s.callers j := if_neg h

/-! ### What one step does -/

/-- What a step does, one rule for everything that can happen. -/
inductive Transition (s : System) : Move → System → Prop
  | found {i : Nat} {token : SessionToken} (hphase : s.callers i = .idle)
      (hvalid : s.session.valid? s.now = some token) :
      Transition s (.look i) (s.put i (.done (.ok token)))
  | missed {i : Nat} (hphase : s.callers i = .idle) (hvalid : s.session.valid? s.now = none) :
      Transition s (.look i) (s.put i .missed)
  | queued {i : Nat} (hphase : s.callers i = .missed) :
      Transition s (.queue i) (s.put i (.waiting s.session.attempts))
  | entered {i n : Nat} (hphase : s.callers i = .waiting n) (hfree : s.holder = none) :
      Transition s (.enter i) { s.put i (.deciding n) with holder := some i }
  | chose {i n : Nat} (hphase : s.callers i = .deciding n) :
      Transition s (.choose i) (s.put i (Phase.afterDecision n (s.session.decision s.now n)))
  | answered {i n : Nat} {outcome : Except Failure Grant} (hphase : s.callers i = .loggingIn n) :
      Transition s (.answer i outcome) { s.put i (.counted outcome) with
        session := s.session.count
        outcomes := outcome :: s.outcomes }
  | settled {i : Nat} {outcome : Except Failure Grant} (hphase : s.callers i = .counted outcome) :
      Transition s (.settle i) { s.put i (.leaving (s.session.settle s.now outcome).2) with
        session := (s.session.settle s.now outcome).1 }
  | left {i : Nat} {result : Except AuthenticationFault SessionToken}
      (hphase : s.callers i = .leaving result) :
      Transition s (.leave i) { s.put i (.done result) with holder := none }
  | gaveUpWaiting {i n : Nat} (hphase : s.callers i = .waiting n) :
      Transition s (.cancel i) (s.put i .cancelled)
  | gaveUpDeciding {i n : Nat} (hphase : s.callers i = .deciding n) :
      Transition s (.cancel i) { s.put i .cancelled with holder := none }
  | gaveUpLoggingIn {i n : Nat} (hphase : s.callers i = .loggingIn n) :
      Transition s (.cancel i) { s.put i .cancelled with holder := none }
  | invalidated : Transition s .invalidate { s with session := s.session.invalidate }
  | ticked {millis : Nat} : Transition s (.tick millis) { s with now := s.now.after millis }

/-- A step can be taken exactly if some rule allows it, and does what the rule says. -/
theorem step_eq_some_iff : s.step m = some s' ↔ Transition s m s' := by
  constructor
  · intro h
    cases m with
    | look i =>
      simp only [step] at h
      split at h
      next hphase =>
        split at h
        next token hvalid => cases h; exact .found hphase hvalid
        next hvalid => cases h; exact .missed hphase hvalid
      next => cases h
    | queue i =>
      simp only [step] at h
      split at h
      next hphase => cases h; exact .queued hphase
      next => cases h
    | enter i =>
      simp only [step] at h
      split at h
      next n hphase hfree => cases h; exact .entered hphase hfree
      next => cases h
    | choose i =>
      simp only [step] at h
      split at h
      next n hphase => cases h; exact .chose hphase
      next => cases h
    | answer i outcome =>
      simp only [step] at h
      split at h
      next n hphase => cases h; exact .answered hphase
      next => cases h
    | settle i =>
      simp only [step] at h
      split at h
      next outcome hphase => cases h; exact .settled hphase
      next => cases h
    | leave i =>
      simp only [step] at h
      split at h
      next result hphase => cases h; exact .left hphase
      next => cases h
    | cancel i =>
      simp only [step] at h
      split at h
      next n hphase => cases h; exact .gaveUpWaiting hphase
      next n hphase => cases h; exact .gaveUpDeciding hphase
      next n hphase => cases h; exact .gaveUpLoggingIn hphase
      next => cases h
    | invalidate => cases h; exact .invalidated
    | tick millis => cases h; exact .ticked
  · intro h
    cases h <;> simp [step, *]

/-- A caller moves only by its own moves. -/
theorem Transition.callers_eq (h : Transition s m s') (hi : m.caller? ≠ some i) :
    s'.callers i = s.callers i := by
  cases h with
  | invalidated | ticked => rfl
  | _ => exact put_callers_of_ne fun hij ↦ hi (congrArg some hij.symm)

/-- A caller makes only the moves of its phase. -/
theorem Transition.allowed (h : Transition s m s') (hi : m.caller? = some i) :
    (s.callers i).Allows i m := by
  cases h with
  | found hphase | missed hphase | queued hphase | entered hphase | chose hphase | answered hphase
  | settled hphase | left hphase | gaveUpWaiting hphase | gaveUpDeciding hphase
  | gaveUpLoggingIn hphase =>
    obtain rfl := Option.some.inj hi
    simp [hphase, Phase.Allows]
  | invalidated | ticked => cases hi

/-- Whoever has ended takes no more steps. -/
theorem step_eq_none_of_done {result : Except AuthenticationFault SessionToken}
    (hi : s.callers i = .done result) (hm : m.caller? = some i) : s.step m = none := by
  rw [Option.eq_none_iff_forall_ne_some]
  intro s' hs'
  have hallowed := (step_eq_some_iff.1 hs').allowed hm
  rw [hi] at hallowed
  exact hallowed

/-! ### Runs -/

theorem run_eq_foldlM : s.run ms = ms.foldlM step s := by
  induction ms generalizing s with
  | nil => rfl
  | cons m ms ih =>
    rw [List.foldlM_cons]
    exact congrArg _ (funext fun _ ↦ ih)

theorem run_cons_eq_some :
    s.run (m :: ms) = some t ↔ ∃ s', s.step m = some s' ∧ s'.run ms = some t := by
  simp only [run_eq_foldlM]
  exact Runs.cons_eq_some

theorem run_append_eq_some :
    s.run (ms ++ ns) = some t ↔ ∃ u, s.run ms = some u ∧ u.run ns = some t := by
  simp only [run_eq_foldlM]
  exact Runs.append_eq_some

/-- What every step of a run preserves holds at its end if it holds at its beginning. -/
theorem run_preserves {P : System → Prop}
    (hstep : ∀ s m s', m ∈ ms → Transition s m s' → P s → P s') (hrun : s.run ms = some t)
    (hs : P s) : P t := by
  rw [run_eq_foldlM] at hrun
  exact Runs.preserves (fun s m s' hmem hm ↦ hstep s m s' hmem (step_eq_some_iff.1 hm)) hrun hs

/-! ### What no step undoes -/

/-- A caller keeps the count that it saw until its login has ended. -/
theorem Transition.observed_or_past (h : Transition s m s')
    (hi : (s.callers i).observed? = some n) :
    (s'.callers i).observed? = some n ∨ (s'.callers i).isPast = true := by
  by_cases hm : m.caller? = some i
  · have hallowed := h.allowed hm
    cases hphase : s.callers i with
    | waiting n' =>
      rw [hphase] at hallowed hi
      obtain rfl | rfl := hallowed
      · cases h with
        | entered hphase' =>
          obtain rfl := Phase.waiting.inj (hphase'.symm.trans hphase)
          exact .inl (by rwa [put_callers_self])
      · cases h <;> exact .inr (by rw [put_callers_self]; rfl)
    | deciding n' =>
      rw [hphase] at hallowed hi
      obtain rfl | rfl := hallowed
      · cases h with
        | @chose _ n'' hphase' =>
          obtain rfl := Phase.deciding.inj (hphase'.symm.trans hphase)
          rw [put_callers_self]
          cases s.session.decision s.now n'' with
          | use | share => exact .inr rfl
          | logIn => exact .inl hi
      · cases h <;> exact .inr (by rw [put_callers_self]; rfl)
    | loggingIn n' =>
      rw [hphase] at hallowed
      obtain ⟨outcome, rfl⟩ | rfl := hallowed
      · cases h
        exact .inr (by rw [put_callers_self]; rfl)
      · cases h <;> exact .inr (by rw [put_callers_self]; rfl)
    | _ => simp [hphase, Phase.observed?] at hi
  · rw [h.callers_eq hm]
    exact .inl hi

/-- What is behind a caller stays behind it. -/
theorem Transition.isPast (h : Transition s m s') (hi : (s.callers i).isPast = true) :
    (s'.callers i).isPast = true := by
  by_cases hm : m.caller? = some i
  · have hallowed := h.allowed hm
    cases hphase : s.callers i with
    | counted outcome =>
      obtain rfl : m = .settle i := by rwa [hphase] at hallowed
      cases h
      simp [Phase.isPast]
    | leaving result =>
      obtain rfl : m = .leave i := by rwa [hphase] at hallowed
      cases h
      simp [Phase.isPast]
    | done | cancelled =>
      rw [hphase] at hallowed
      exact hallowed.elim
    | _ => simp [hphase, Phase.isPast] at hi
  · rwa [h.callers_eq hm]

theorem isPast_run (hrun : s.run ms = some t) (hi : (s.callers i).isPast = true) :
    (t.callers i).isPast = true :=
  run_preserves (P := fun u ↦ (u.callers i).isPast = true) (fun _ _ _ _ h ↦ h.isPast) hrun hi

/-- The count that a caller has seen does not change under it. -/
theorem observed_or_past_run (hrun : s.run ms = some t) (hi : (s.callers i).observed? = some n) :
    (t.callers i).observed? = some n ∨ (t.callers i).isPast = true :=
  run_preserves
    (P := fun u ↦ (u.callers i).observed? = some n ∨ (u.callers i).isPast = true)
    (fun _ _ _ _ h hu ↦ hu.elim h.observed_or_past fun hp ↦ .inr (h.isPast hp)) hrun (.inl hi)

/-- The clock does not go back. -/
theorem Transition.now_le (h : Transition s m s') : s.now.millis ≤ s'.now.millis := by
  cases h with
  | @ticked millis =>
    show s.now.millis ≤ s.now.millis + millis
    omega
  | _ => exact Int.le_refl _

theorem now_le_run (hrun : s.run ms = some t) : s.now.millis ≤ t.now.millis :=
  run_preserves (P := fun u ↦ s.now.millis ≤ u.now.millis)
    (fun _ _ _ _ h hu ↦ Int.le_trans hu h.now_le) hrun (Int.le_refl _)

/-- Outcomes are added and never taken away. -/
theorem Transition.outcomes_suffix (h : Transition s m s') : s.outcomes <:+ s'.outcomes := by
  cases h with
  | answered => exact List.suffix_cons _ _
  | _ => exact List.suffix_refl _

theorem outcomes_suffix_run (hrun : s.run ms = some t) : s.outcomes <:+ t.outcomes :=
  run_preserves (P := fun u ↦ s.outcomes <:+ u.outcomes)
    (fun _ _ _ _ h hu ↦ hu.trans h.outcomes_suffix) hrun (List.suffix_refl _)

end System

end VaultAccess.Session
