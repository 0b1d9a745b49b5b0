import VaultAccess.Proofs.Session.Sharing

/-!
# Failures that callers report

A session keeps the failure of its last login, and a caller that has waited may report it without
having logged in. This module says where every failure that is reported comes from.

* What is kept while nobody holds the lock is the failure of the last login, with its number
  (`Coherent.lastFailure_eq` and `failureOf_eq_some_iff`).
* A caller takes a failure in one of two steps only (`Transition.gets`): when it notes the
  outcome of its own login, or when it decides. Either way the failure is that of the last login
  that has ended by then, and that login ended after the caller had seen the count
  (`reports_of_counted`, `reports_of_share`). So nobody reports a login that had failed before the
  call.
* A login that fails leaves the token alone (`token_of_refused`). Meanwhile nobody else stores one,
  because the lock is held, so only forgetting the token can change it.

The numbers do not appear in these statements: a run is cut at the step in which a login ends, and
that no other login ends until the failure is taken says that it is the last.
-/

namespace VaultAccess

/-- A fault says what a failure says: its cause if it is one of authentication, so that this is not
said twice, and all of it if not. -/
def AuthenticationFault.Says (fault : AuthenticationFault) (f : Failure) : Prop :=
  (∀ cause, f = .authentication cause → fault.message = cause.message) ∧
    ((∀ cause, f ≠ .authentication cause) → fault.message = f.message)

namespace Session

theorem says_faultOf (f : Failure) : (faultOf f).Says f := by
  cases f with
  | authentication cause =>
    exact ⟨fun _ h ↦ congrArg _ (Failure.authentication.inj h), fun h ↦ absurd rfl (h cause)⟩
  | _ => exact ⟨nofun, fun _ ↦ rfl⟩

/-- What a caller that has ended returns. -/
def Phase.returned? : Phase → Option (Except Failure SessionToken)
  | .done result => some (result.mapError .authentication)
  | _ => none

theorem Phase.returned?_eq_error_iff {p : Phase} {e : Failure} :
    p.returned? = some (.error e) ↔
      ∃ fault, p = .done (.error fault) ∧ e = .authentication fault := by
  cases p with
  | done result => cases result <;> simp [returned?, Except.mapError, eq_comm]
  | _ => simp [returned?]

/-- A caller has come to log in and has not given the lock back. -/
def Phase.isEnding : Phase → Bool
  | .loggingIn _ => true
  | .counted _ => true
  | .leaving _ => true
  | _ => false

theorem Phase.holdsLock_of_isEnding {p : Phase} (h : p.isEnding = true) : p.holdsLock = true := by
  cases p with
  | loggingIn | counted | leaving => rfl
  | _ => simp [isEnding] at h

theorem failureOf_eq_some_iff {outcomes : List (Except Failure Grant)} {attempt : Nat}
    {fault : AuthenticationFault} :
    failureOf outcomes = some (attempt, fault) ↔
      ∃ f earlier, outcomes = .error f :: earlier ∧ attempt = earlier.length + 1 ∧
        fault = faultOf f := by
  constructor
  · intro h
    match outcomes, h with
    | .error f :: earlier, h =>
      obtain ⟨rfl, rfl⟩ := Prod.mk.inj (Option.some.inj h)
      exact ⟨f, earlier, rfl, rfl, rfl⟩
  · rintro ⟨f, earlier, rfl, rfl, rfl⟩
    rfl

namespace System

variable {s s' t u : System} {m : Move} {ms : List Move} {i j n attempt : Nat} {now : Instant}
  {f : Failure} {fault : AuthenticationFault} {outcome : Except Failure Grant}
  {earlier : List (Except Failure Grant)} {result : Except AuthenticationFault SessionToken}

/-- In some moves the caller `i` takes the failure `f` of the login of `j`. The caller begins and
sees the count; then that login ends; and no other login ends until the caller takes the failure, by
noting the outcome if the login is its own and by its decision if not. -/
def Reports (past : List Move) (i j : Nat) (f : Failure) : Prop :=
  ∃ before waiting since take after,
    past = before ++ .queue i :: waiting ++ .answer j (.error f) :: since ++ take :: after ∧
      .look i ∈ before ∧ (∀ k outcome, .answer k outcome ∉ since) ∧
      (take = .settle i ∧ j = i ∨ take = .choose i ∧ j ≠ i)

/-! ### Without a holder -/

theorem Coherent.not_counted_of_free (hs : s.Coherent) (hfree : s.holder = none) (i : Nat)
    (outcome : Except Failure Grant) : s.callers i ≠ .counted outcome := by
  intro hi
  have hholder : s.holder = some i := (hs.holdsLock_iff i).1 (by rw [hi]; rfl)
  rw [hfree] at hholder
  cases hholder

/-- With the lock free, the failure that is kept is that of the last login. -/
theorem Coherent.last_failed (hs : s.Coherent) (hfree : s.holder = none)
    (hlast : s.session.lastFailure = some (attempt, fault)) :
    attempt = s.session.attempts ∧
      ∃ f earlier, s.outcomes = .error f :: earlier ∧ fault = faultOf f := by
  rw [hs.lastFailure_eq (hs.not_counted_of_free hfree)] at hlast
  obtain ⟨f, earlier, houtcomes, rfl, hfault⟩ := failureOf_eq_some_iff.1 hlast
  refine ⟨?_, f, earlier, houtcomes, hfault⟩
  rw [hs.attempts_eq, houtcomes, List.length_cons]

/-! ### The end of the last login -/

/-- No login ends in a run that adds no outcome. -/
theorem answer_notMem (hrun : s.run ms = some t) (hsame : t.outcomes.length ≤ s.outcomes.length) :
    .answer j outcome ∉ ms := by
  intro hmem
  obtain ⟨before, after, rfl⟩ := List.append_of_mem hmem
  obtain ⟨u, hbefore, hrest⟩ := run_append_eq_some.1 hrun
  obtain ⟨u', hanswer, hafter⟩ := run_cons_eq_some.1 hrest
  have hbefore' := (outcomes_suffix_run hbefore).length_le
  have hafter' := (outcomes_suffix_run hafter).length_le
  cases step_eq_some_iff.1 hanswer with
  | answered =>
    rw [List.length_cons] at hafter'
    omega

/-- An outcome that a run has added last is that of a login that ended in the run. -/
theorem exists_last_answer (hrun : s.run ms = some t) (houtcomes : t.outcomes = outcome :: earlier)
    (hold : s.outcomes.length ≤ earlier.length) :
    ∃ before j since u u', ms = before ++ .answer j outcome :: since ∧ s.run before = some u ∧
      Transition u (.answer j outcome) u' ∧ u'.run since = some t ∧
      ∀ k outcome, .answer k outcome ∉ since := by
  rw [run_eq_foldlM] at hrun
  obtain ⟨before, m, since, u, u', rfl, hbefore, hm, hsince, hu, hu'⟩ :=
    Runs.exists_turn (P := fun u ↦ earlier.length < u.outcomes.length) hrun
      (Nat.not_lt.2 hold) (by rw [houtcomes]; exact Nat.lt_succ_self _)
  rw [← run_eq_foldlM] at hbefore hsince
  have h := step_eq_some_iff.1 hm
  have hsuffix := outcomes_suffix_run hsince
  cases h with
  | @answered j _ o hphase =>
    -- from here on the outcomes are as many as at the end, so they are the same
    have hlength : t.outcomes.length = (o :: u.outcomes).length := by
      rw [houtcomes, List.length_cons, List.length_cons]
      have hle := hsuffix.length_le
      rw [houtcomes] at hle
      simp only [List.length_cons] at hle hu'
      omega
    have heq : o :: u.outcomes = outcome :: earlier :=
      (hsuffix.eq_of_length hlength.symm).trans houtcomes
    obtain ⟨rfl, -⟩ := List.cons.inj heq
    exact ⟨before, j, since, u, _, rfl, hbefore, .answered hphase, hsince,
      fun k outcome ↦ answer_notMem hsince hlength.le⟩
  | _ => exact absurd hu' hu

/-- An outcome that is counted at the end of a run was counted at its beginning, or the login ended
in the run. -/
theorem counted_run_cases (hrun : s.run ms = some t) (ht : t.callers i = .counted outcome) :
    s.callers i = .counted outcome ∨ .answer i outcome ∈ ms := by
  by_cases hs : s.callers i = .counted outcome
  · exact .inl hs
  · rw [run_eq_foldlM] at hrun
    obtain ⟨before, m, after, u, u', rfl, -, hm, -, hu, hu'⟩ :=
      Runs.exists_turn (P := fun u ↦ u.callers i = .counted outcome) hrun hs ht
    rcases (step_eq_some_iff.1 hm).counted_cases hu' with rfl | ⟨-, hold⟩
    · exact .inr (by simp)
    · exact absurd hold hu

/-- An outcome that is counted at the end of a run in which its login does not end was counted at
its beginning. -/
theorem counted_of_run (hrun : s.run ms = some t) (hnot : ∀ outcome, .answer i outcome ∉ ms)
    (ht : t.callers i = .counted outcome) : s.callers i = .counted outcome :=
  (counted_run_cases hrun ht).resolve_right (hnot outcome)

/-! ### Where a failure comes from -/

/-- Whoever queues has begun. -/
theorem look_mem_of_queue (hrun : ({ now } : System).run ms = some s)
    (hqueue : s.step (.queue i) = some s') : .look i ∈ ms := by
  have hmissed : s.callers i = .missed := by
    cases step_eq_some_iff.1 hqueue with
    | queued hphase => exact hphase
  rw [run_eq_foldlM] at hrun
  obtain ⟨before, m, after, u, u', rfl, -, hm, -, hu, hu'⟩ :=
    Runs.exists_turn (P := fun u ↦ u.callers i = .missed) hrun nofun hmissed
  have h := step_eq_some_iff.1 hm
  by_cases hc : m.caller? = some i
  · cases h with
    | missed =>
      obtain rfl := Option.some.inj hc
      simp
    | @chose _ n =>
      obtain rfl := Option.some.inj hc
      rw [put_callers_self] at hu'
      cases hd : u.session.decision u.now n <;> rw [hd] at hu' <;> cases hu'
    | invalidated | ticked => cases hc
    | _ =>
      obtain rfl := Option.some.inj hc
      simp at hu'
  · exact absurd ((h.callers_eq hc).symm.trans hu') hu

/-- A caller that notes the failure of its own login had seen the count before that login ended. -/
theorem reports_of_counted {after : List Move} (hrun : ({ now } : System).run ms = some s)
    (hi : s.callers i = .counted (.error f)) : Reports (ms ++ .settle i :: after) i i f := by
  have hs : s.Coherent := coherent_of_run hrun
  obtain ⟨earlier, houtcomes, -⟩ := hs.counted i _ hi
  obtain ⟨before, j, since, u, u', rfl, hbefore, hanswer, hsince, hlast⟩ :=
    exists_last_answer hrun houtcomes (Nat.zero_le _)
  -- the lock is held from the end of the login until it is noted, so the last login is the caller's
  have hu' : u'.Coherent := (coherent_of_run hbefore).step hanswer
  have hcounted : u'.callers i = .counted (.error f) :=
    counted_of_run hsince (fun _ ↦ hlast i _) hi
  have hji : j = i := by
    refine hu'.eq_of_holdsLock ?_ (by rw [hcounted]; rfl)
    cases hanswer with
    | answered => simp [Phase.holdsLock]
  obtain rfl := hji
  have hqueued : .queue j ∈ before := by
    cases hanswer with
    | @answered _ n _ hphase =>
      exact queue_mem_of_observed? hbefore (n := n) (by rw [hphase]; rfl)
  obtain ⟨begun, waiting, rfl⟩ := List.append_of_mem hqueued
  obtain ⟨q, hbegun, hrest⟩ := run_append_eq_some.1 hbefore
  obtain ⟨q', hqueue, -⟩ := run_cons_eq_some.1 hrest
  exact ⟨begun, waiting, since, .settle j, after, rfl, look_mem_of_queue hbegun hqueue, hlast,
    .inl ⟨rfl, rfl⟩⟩

/-- A caller that shares a failure had seen the count before the login that failed ended. -/
theorem reports_of_share {after : List Move} (hrun : ({ now } : System).run ms = some s)
    (hi : s.callers i = .deciding n) (hshare : s.session.failureAfter? n = some fault) :
    ∃ j f, fault = faultOf f ∧ Reports (ms ++ .choose i :: after) i j f := by
  have hs : s.Coherent := coherent_of_run hrun
  have hseen : (s.callers i).observed? = some n := by rw [hi]; rfl
  obtain ⟨attempt, hlast, hlt⟩ := failureAfter?_eq_some_iff.1 hshare
  rw [hs.lastFailure_eq (hs.not_counted_of_ne (i := i) (by rw [hi]; rfl) (by simp [hi]))] at hlast
  obtain ⟨f, earlier, houtcomes, rfl, rfl⟩ := failureOf_eq_some_iff.1 hlast
  obtain ⟨begun, between, rfl⟩ := List.append_of_mem (queue_mem_of_observed? hrun hseen)
  obtain ⟨q, hbegun, hrest⟩ := run_append_eq_some.1 hrun
  obtain ⟨q', hqueue, hbetween⟩ := run_cons_eq_some.1 hrest
  -- what the caller saw is less than the number of the failure, so its login ended later
  have hn : n = q.outcomes.length := observed?_eq_of_queue (coherent_init now) hbegun hrun hseen
  have hq' : q'.outcomes = q.outcomes := by
    cases step_eq_some_iff.1 hqueue
    rfl
  obtain ⟨waiting, j, since, u, u', rfl, -, hanswer, hsince, hnone⟩ :=
    exists_last_answer hbetween houtcomes (by rw [hq', ← hn]; exact Nat.le_of_lt_succ hlt)
  have hji : j ≠ i := by
    rintro rfl
    have hpast : (u'.callers j).isPast = true := by
      cases hanswer with
      | answered => simp [Phase.isPast]
    have hend := isPast_run hsince hpast
    rw [hi] at hend
    cases hend
  refine ⟨j, f, rfl, begun, waiting, since, .choose i, after, ?_, look_mem_of_queue hbegun hqueue,
    hnone, .inr ⟨rfl, hji⟩⟩
  simp

/-- Every failure that a caller has is one that it reports of a login. -/
theorem reports_of_result (hrun : ({ now } : System).run ms = some s)
    (hi : (s.callers i).result? = some (.error fault)) :
    ∃ j f, fault = faultOf f ∧ Reports ms i j f := by
  have hrun' := hrun
  rw [run_eq_foldlM] at hrun'
  obtain ⟨before, m, after, u, u', rfl, hbefore, hm, -, hu, hu'⟩ :=
    Runs.exists_turn (P := fun u ↦ (u.callers i).result? = some (.error fault)) hrun' nofun hi
  rw [← run_eq_foldlM] at hbefore
  cases (step_eq_some_iff.1 hm).gets hu hu' with
  | refused hphase => exact ⟨i, _, rfl, reports_of_counted hbefore hphase⟩
  | shared hphase hfailure => exact reports_of_share hbefore hphase hfailure

/-! ### The token of a login that fails -/

/-- A caller that has no move left stays where it is. -/
theorem callers_eq_of_stuck (hrun : s.run ms = some t) (hi : ∀ m, ¬ (s.callers i).Allows i m) :
    t.callers i = s.callers i := by
  refine run_preserves (P := fun u ↦ u.callers i = s.callers i) ?_ hrun rfl
  intro u m u' _ h hu
  by_cases hc : m.caller? = some i
  · exact absurd (hu ▸ h.allowed hc) (hi m)
  · rw [h.callers_eq hc, hu]

/-- Only forgetting the token and noting a login that succeeded change it. -/
theorem Transition.token_eq (h : Transition s m s') (hinv : m ≠ .invalidate)
    (hok : ∀ j grant, m = .settle j → s.callers j ≠ .counted (.ok grant)) :
    s'.session.token = s.session.token := by
  cases h with
  | @settled j outcome hphase =>
    cases outcome with
    | ok grant => exact absurd hphase (hok j grant rfl)
    | error f => rfl
  | invalidated => exact absurd rfl hinv
  | _ => rfl

/-- A caller that has come to log in, and that leaves with a result at the end, goes on to leave. -/
theorem isEnding_step (h : Transition s m s') (hrest : s'.run ms = some t)
    (ht : t.callers i = .leaving result) (hi : (s.callers i).isEnding = true) :
    (s'.callers i).isEnding = true := by
  by_cases hc : m.caller? = some i
  · have hallowed := h.allowed hc
    -- a phase that is the last one is not the one at the end
    have hgoes : ∀ p : Phase, s'.callers i = p → (∀ m, ¬ p.Allows i m) → p = .leaving result :=
      fun p hp hstuck ↦ by
        rw [← hp, ← ht]
        exact (callers_eq_of_stuck hrest (hp ▸ hstuck)).symm
    cases hphase : s.callers i with
    | loggingIn n =>
      rw [hphase] at hallowed
      obtain ⟨outcome, rfl⟩ | rfl := hallowed
      · cases h
        simp [Phase.isEnding]
      · have hcancelled : s'.callers i = .cancelled := by cases h <;> exact put_callers_self
        exact absurd (hgoes _ hcancelled fun _ ↦ id) nofun
    | counted outcome =>
      obtain rfl : m = .settle i := by rwa [hphase] at hallowed
      cases h
      simp [Phase.isEnding]
    | leaving result' =>
      obtain rfl : m = .leave i := by rwa [hphase] at hallowed
      cases h
      exact absurd (hgoes _ put_callers_self fun _ ↦ id) nofun
    | _ => simp [hphase, Phase.isEnding] at hi
  · rwa [h.callers_eq hc]

/-- A caller that leaves with a failure has left the token alone since its login began: it is what
it was then, unless it has been forgotten meanwhile. -/
theorem token_of_refused (hs : s.Coherent) (hrun : s.run ms = some t)
    (hi : (s.callers i).isEnding = true) (ht : t.callers i = .leaving (.error fault)) :
    (.invalidate ∉ ms → t.session.token = s.session.token) ∧
      (.invalidate ∈ ms → t.session.token = none) := by
  induction ms generalizing s with
  | nil =>
    obtain rfl := Option.some.inj hrun
    exact ⟨fun _ ↦ rfl, fun h ↦ absurd h List.not_mem_nil⟩
  | cons m ms ih =>
    obtain ⟨s', hm, hrest⟩ := run_cons_eq_some.1 hrun
    have h := step_eq_some_iff.1 hm
    obtain ⟨hkept, hforgotten⟩ := ih (hs.step h) hrest (isEnding_step h hrest ht hi)
    by_cases hinv : m = .invalidate
    · obtain rfl := hinv
      refine ⟨fun hnot ↦ absurd List.mem_cons_self hnot, fun _ ↦ ?_⟩
      by_cases hlater : .invalidate ∈ ms
      · exact hforgotten hlater
      · rw [hkept hlater]
        cases h
        rfl
    · -- of the callers only this one holds the lock, and its login has not succeeded
      have hfailed : ∀ j grant, m = .settle j → s.callers j ≠ .counted (.ok grant) := by
        rintro j grant rfl hj
        obtain rfl := hs.eq_of_holdsLock (Phase.holdsLock_of_isEnding hi) (by rw [hj]; rfl)
        have hresult : (s'.callers i).result? = some (.ok (.issue s.now grant)) := by
          cases h with
          | settled hphase =>
            obtain rfl := Phase.counted.inj (hphase.symm.trans hj)
            simp [Phase.result?, settle]
        have hend := result?_run hrest hresult
        rw [ht] at hend
        cases hend
      have htoken := h.token_eq hinv hfailed
      refine ⟨fun hnot ↦ ?_, fun hmem ↦ ?_⟩
      · rw [hkept fun hmem ↦ hnot (List.mem_cons_of_mem _ hmem), htoken]
      · exact hforgotten ((List.mem_cons.1 hmem).resolve_left (Ne.symm hinv))

/-! ### Failures are shared exactly -/

/-- However callers, time and the forgetting of tokens interleave: with the lock free, the failure
that is kept is that of the last login, with its number; every caller that returns a failure returns
one of authentication that says what a login failed with, and that login ended after the caller had
seen the count, so after it had begun, and was the last to end when the caller took the failure; and
a login that fails leaves the token as it was when the login began, unless somebody has made the
session forget it. -/
theorem failures_shared_exactly {past : List Move} (hpast : ({ now } : System).run past = some s) :
    (s.holder = none → ∀ attempt fault, s.session.lastFailure = some (attempt, fault) →
        attempt = s.session.attempts ∧
          ∃ f earlier, s.outcomes = .error f :: earlier ∧ attempt = s.outcomes.length ∧
            fault.Says f) ∧
      (∀ i e, (s.callers i).returned? = some (.error e) →
        ∃ fault j f, e = .authentication fault ∧ fault.Says f ∧ Reports past i j f) ∧
      ∀ i n ms t fault, s.callers i = .loggingIn n → s.run ms = some t →
        t.callers i = .leaving (.error fault) →
          (.invalidate ∉ ms → t.session.token = s.session.token) ∧
            (.invalidate ∈ ms → t.session.token = none) := by
  have hs : s.Coherent := coherent_of_run hpast
  refine ⟨fun hfree attempt fault hlast ↦ ?_, fun i e he ↦ ?_, ?_⟩
  · obtain ⟨hattempt, f, earlier, houtcomes, rfl⟩ := hs.last_failed hfree hlast
    exact ⟨hattempt, f, earlier, houtcomes, hattempt.trans hs.attempts_eq, says_faultOf f⟩
  · obtain ⟨fault, hphase, rfl⟩ := Phase.returned?_eq_error_iff.1 he
    obtain ⟨j, f, rfl, hreports⟩ := reports_of_result hpast (by rw [hphase]; rfl)
    exact ⟨_, j, f, rfl, says_faultOf f, hreports⟩
  · intro i n ms t fault hi hrun ht
    exact token_of_refused hs hrun (by rw [hi]; rfl) ht

/-- After a login whose token expires at once, one caller logs in while another waits. -/
def expiring : List Move :=
  [.look 0, .queue 0, .enter 0, .choose 0, .answer 0 (.ok ⟨⟨"token"⟩, some 3000⟩), .settle 0,
    .leave 0, .look 1, .look 2, .queue 2, .queue 1, .enter 1, .choose 1]

/-- The login fails. -/
def failing : List Move := [.tick 10, .answer 1 (.error .rateLimited), .settle 1]

/-- Then the caller that waited shares the failure, which is the second outcome and the last, and
the expired token is still there. -/
theorem failures_shared_exactly_expired :
    (∃ s, ({} : System).run (expiring ++ failing ++ [.leave 1, .enter 2, .choose 2, .leave 2]) =
        some s ∧ s.holder = none ∧ s.session.lastFailure = some (2, .described "Rate limited") ∧
      s.session.attempts = 2 ∧
      (s.callers 2).returned? = some (.error (.authentication (.described "Rate limited"))) ∧
      ∃ j f, Reports (expiring ++ failing ++ [.leave 1, .enter 2, .choose 2, .leave 2]) 2 j f) ∧
    ∃ s t, ({} : System).run expiring = some s ∧ s.callers 1 = .loggingIn 1 ∧
      s.run failing = some t ∧ t.callers 1 = .leaving (.error (.described "Rate limited")) ∧
      t.session.token = some ⟨⟨"token"⟩, ⟨0⟩, some 3000⟩ := by
  constructor
  · have hpast : ({} : System).run
        (expiring ++ failing ++ [.leave 1, .enter 2, .choose 2, .leave 2]) = some _ := rfl
    obtain ⟨hstamp, hreturned, -⟩ := failures_shared_exactly hpast
    obtain ⟨-, j, f, -, -, hreports⟩ := hreturned 2 _ rfl
    exact ⟨_, hpast, rfl, rfl, (hstamp rfl 2 _ rfl).1.symm, rfl, j, f, hreports⟩
  · have hpast : ({} : System).run expiring = some _ := rfl
    obtain ⟨-, -, htoken⟩ := failures_shared_exactly hpast
    exact ⟨_, _, hpast, rfl, rfl, rfl,
      (htoken 1 1 failing _ (.described "Rate limited") rfl rfl rfl).1 (by simp [failing])⟩

end System

end Session

end VaultAccess
