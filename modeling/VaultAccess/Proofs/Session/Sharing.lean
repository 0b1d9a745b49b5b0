import Mathlib.Data.Finset.Defs
import VaultAccess.Proofs.Session.Logins

/-!
# Sharing the outcome of a login

What becomes of callers that wait while one of them logs in. Nothing is assumed about the order in
which they look, queue and are let in. There are three stages.

* Until the login ends, everyone who is in has come to log in, and nobody else gets past the queue
  (`gather_run`).
* Until its outcome is noted, nobody is let in (`hold_run`).
* From then on whoever is let in finds the outcome: a failure that is newer than the count that it
  has seen (`refuse_run`), or a valid token (`attend_run`).

Only the last stage depends on what the login yields, and only for a token on time and on nobody
forgetting it: the failure stays where it is. What is asked of the token is asked of the instant at
which the last caller looks at it; that it was good for those before follows, since expiry is for
good.

A result is for good, too (`result?_run`), and there are few ways to get one (`Gets`).
-/

namespace VaultAccess.Session

/-- The result that is settled for a caller. -/
def Phase.result? : Phase → Option (Except AuthenticationFault SessionToken)
  | .leaving result => some result
  | .done result => some result
  | _ => none

/-- A caller waits, with the lock or without, and has seen no more than `bound` logins, or it has
the result. -/
def Phase.Attends (bound : Nat) (result : Except AuthenticationFault SessionToken) : Phase → Prop
  | .waiting observed => observed ≤ bound
  | .deciding observed => observed ≤ bound
  | .leaving result' => result' = result
  | .done result' => result' = result
  | _ => False

/-- A move of one of some callers, none of whom is given up, or of their surroundings. -/
def Move.IsOf (cs : Finset Nat) (m : Move) : Prop :=
  (∀ i, m.caller? = some i → i ∈ cs) ∧ ∀ i, m ≠ .cancel i

namespace System

variable {s s' t u : System} {m : Move} {ms : List Move} {i k n bound : Nat} {cs : Finset Nat}
  {outcome : Except Failure Grant} {result : Except AuthenticationFault SessionToken}

/-! ### Results -/

theorem Transition.result?_eq (h : Transition s m s') (hi : (s.callers i).result? = some result) :
    (s'.callers i).result? = some result := by
  by_cases hm : m.caller? = some i
  · have hallowed := h.allowed hm
    cases hphase : s.callers i with
    | leaving result' =>
      obtain rfl : m = .leave i := by rwa [hphase] at hallowed
      cases h with
      | left hphase' =>
        rw [put_callers_self, ← hi, hphase']
        rfl
    | done =>
      rw [hphase] at hallowed
      exact hallowed.elim
    | _ => simp [hphase, Phase.result?] at hi
  · rwa [h.callers_eq hm]

/-- A result is for good. -/
theorem result?_run (hrun : s.run ms = some t) (hi : (s.callers i).result? = some result) :
    (t.callers i).result? = some result :=
  run_preserves (P := fun u ↦ (u.callers i).result? = some result)
    (fun _ _ _ _ h ↦ h.result?_eq) hrun hi

/-- How a caller gets its result: it finds the token that is kept, before it queues or after, it
shares a failure, or it notes the outcome of its own login. -/
inductive Gets (s : System) (i : Nat) : Move → Except AuthenticationFault SessionToken → Prop
  | found {token : SessionToken} (hvalid : s.session.valid? s.now = some token) :
      Gets s i (.look i) (.ok token)
  | used {n : Nat} {token : SessionToken} (hphase : s.callers i = .deciding n)
      (hvalid : s.session.valid? s.now = some token) : Gets s i (.choose i) (.ok token)
  | shared {n : Nat} {fault : AuthenticationFault} (hphase : s.callers i = .deciding n)
      (hfailure : s.session.failureAfter? n = some fault) : Gets s i (.choose i) (.error fault)
  | granted {grant : Grant} (hphase : s.callers i = .counted (.ok grant)) :
      Gets s i (.settle i) (.ok (.issue s.now grant))
  | refused {f : Failure} (hphase : s.callers i = .counted (.error f)) :
      Gets s i (.settle i) (.error (faultOf f))

/-- A caller whose result is settled in a step gets it there. -/
theorem Transition.gets (h : Transition s m s') (hold : (s.callers i).result? ≠ some result)
    (hnew : (s'.callers i).result? = some result) : Gets s i m result := by
  have hc : m.caller? = some i := by
    by_contra hc
    rw [h.callers_eq hc] at hnew
    exact hold hnew
  cases h with
  | found _ hvalid =>
    obtain rfl := Option.some.inj hc
    rw [put_callers_self] at hnew
    obtain rfl := Option.some.inj hnew
    exact .found hvalid
  | @chose _ n hphase =>
    obtain rfl := Option.some.inj hc
    rw [put_callers_self] at hnew
    cases hd : s.session.decision s.now n with
    | use token =>
      rw [hd] at hnew
      obtain rfl := Option.some.inj hnew
      exact .used hphase (decision_eq_use_iff.1 hd)
    | share fault =>
      rw [hd] at hnew
      obtain rfl := Option.some.inj hnew
      exact .shared hphase (decision_eq_share_iff.1 hd).2
    | logIn =>
      rw [hd] at hnew
      cases hnew
  | @settled _ outcome hphase =>
    obtain rfl := Option.some.inj hc
    rw [put_callers_self] at hnew
    obtain rfl := Option.some.inj hnew
    cases outcome with
    | ok grant => exact .granted hphase
    | error f => exact .refused hphase
  | left hphase =>
    -- the result was settled before
    obtain rfl := Option.some.inj hc
    rw [put_callers_self] at hnew
    rw [hphase] at hold
    exact absurd hnew hold
  | invalidated | ticked => cases hc
  | _ =>
    obtain rfl := Option.some.inj hc
    simp [Phase.result?] at hnew

/-! ### Runs in which nobody begins to log in -/

/-- What a step preserves without a login, a run preserves without a login. The step may use that
the clock does not pass the end of the run. -/
theorem run_without_login {P : System → Prop}
    (hstep : ∀ u m u', m ∈ ms → Transition u m u' → u'.now.millis ≤ t.now.millis → P u →
      P u' ∧ beginner? u u' m = none)
    (hrun : s.run ms = some t) (hs : P s) : P t ∧ s.logins ms = [] := by
  induction ms generalizing s with
  | nil =>
    obtain rfl := Option.some.inj hrun
    exact ⟨hs, rfl⟩
  | cons m ms ih =>
    obtain ⟨s', hm, hrest⟩ := run_cons_eq_some.1 hrun
    obtain ⟨hs', hnone⟩ :=
      hstep s m s' List.mem_cons_self (step_eq_some_iff.1 hm) (now_le_run hrest) hs
    obtain ⟨ht, hlogins⟩ :=
      ih (fun u m u' hmem ↦ hstep u m u' (List.mem_cons_of_mem _ hmem)) hrest hs'
    refine ⟨ht, ?_⟩
    rw [logins_cons hm, hnone, hlogins]
    rfl

/-! ### Until the login ends -/

/-- While a caller logs in nobody else begins to. -/
theorem loggingIn_run (hs : s.Coherent) (hrun : s.run ms = some t) (hms : ∀ m ∈ ms, m.IsOf cs)
    (hk : s.callers k = .loggingIn n) (hend : (t.callers k).isPast = false) :
    t.callers k = .loggingIn n ∧ s.logins ms = [] := by
  induction ms generalizing s with
  | nil =>
    obtain rfl := Option.some.inj hrun
    exact ⟨hk, rfl⟩
  | cons m ms ih =>
    obtain ⟨s', hm, hrest⟩ := run_cons_eq_some.1 hrun
    have h := step_eq_some_iff.1 hm
    have hk' : s'.callers k = .loggingIn n := by
      by_cases hc : m.caller? = some k
      · have hallowed := h.allowed hc
        rw [hk] at hallowed
        -- it moves on only when its login ends, and then it would be past logging in at the end
        obtain ⟨outcome, rfl⟩ | rfl := hallowed
        · have hpast : (s'.callers k).isPast = true := by
            cases h
            simp [Phase.isPast]
          rw [isPast_run hrest hpast] at hend
          cases hend
        · exact absurd rfl ((hms _ List.mem_cons_self).2 _)
      · rw [h.callers_eq hc, hk]
    have hnone : beginner? s s' m = none :=
      hs.beginner?_eq_none h (k := k) (by rw [hk]; rfl) (by simp [hk])
    obtain ⟨ht, hlogins⟩ :=
      ih (hs.step h) hrest (fun m hmem ↦ hms m (List.mem_cons_of_mem _ hmem)) hk'
    refine ⟨ht, ?_⟩
    rw [logins_cons hm, hnone, hlogins]
    rfl

/-- Whoever logs in when none of the callers has got any further is the only one that has begun to.
-/
theorem gather_run (hs : s.Coherent) (hrun : s.run ms = some t) (hms : ∀ m ∈ ms, m.IsOf cs)
    (hidle : ∀ i, (s.callers i).isLoggingIn = false) (hend : ∀ i ∈ cs, (t.callers i).isPast = false)
    (hk : t.callers k = .loggingIn n) : s.logins ms = [k] := by
  induction ms generalizing s with
  | nil =>
    obtain rfl := Option.some.inj hrun
    have hidle := hidle k
    rw [hk] at hidle
    cases hidle
  | cons m ms ih =>
    obtain ⟨s', hm, hrest⟩ := run_cons_eq_some.1 hrun
    have h := step_eq_some_iff.1 hm
    have hms' : ∀ m ∈ ms, m.IsOf cs := fun m hmem ↦ hms m (List.mem_cons_of_mem _ hmem)
    rw [logins_cons hm]
    rcases hbegin : beginner? s s' m with - | j
    · refine ih (hs.step h) hrest hms' fun i ↦ ?_
      by_cases hc : m.caller? = some i
      · have hfilter := Option.filter_eq_none_iff.1 hbegin i hc
        simpa [hidle i] using hfilter
      · rw [h.callers_eq hc]
        exact hidle i
    · -- the first to begin is still logging in at the end, and there is only one lock
      obtain ⟨rfl, n', hphase, hd⟩ := h.beginner?_eq_some_iff.1 hbegin
      have hj : j ∈ cs := (hms _ List.mem_cons_self).1 j rfl
      have hj' : s'.callers j = .loggingIn n' := by
        cases h with
        | @chose _ n'' hphase' =>
          obtain rfl := Phase.deciding.inj (hphase'.symm.trans hphase)
          rw [put_callers_self, hd]
          rfl
      obtain ⟨ht, hlogins⟩ := loggingIn_run (hs.step h) hrest hms' hj' (hend j hj)
      have hjk : j = k := (hs.run hrun).eq_of_holdsLock (by rw [ht]; rfl) (by rw [hk]; rfl)
      rw [hlogins, hjk]
      rfl

/-! ### Until the outcome is noted -/

/-- A caller without a result has not noted an outcome. -/
theorem settle_notMem (hrun : s.run ms = some t) (hend : (t.callers k).result? = none) :
    .settle k ∉ ms := by
  intro hmem
  obtain ⟨before, after, rfl⟩ := List.append_of_mem hmem
  obtain ⟨u, -, hrest⟩ := run_append_eq_some.1 hrun
  obtain ⟨u', hsettle, hafter⟩ := run_cons_eq_some.1 hrest
  obtain ⟨result, hresult⟩ : ∃ result, (u'.callers k).result? = some result := by
    cases step_eq_some_iff.1 hsettle with
    | settled => exact ⟨_, by rw [put_callers_self]; rfl⟩
  rw [result?_run hafter hresult] at hend
  cases hend

/-- A caller waits as long as another holds the lock. -/
theorem Coherent.waiting_step (hs : s.Coherent) (h : Transition s m s') (hcancel : m ≠ .cancel i)
    (hk : (s.callers k).holdsLock = true) (hi : s.callers i = .waiting n) :
    s'.callers i = .waiting n := by
  have hc : m.caller? ≠ some i := by
    intro hc
    have hallowed := h.allowed hc
    rw [hi] at hallowed
    obtain rfl | rfl := hallowed
    · cases h with
      | entered _ hfree =>
        rw [(hs.holdsLock_iff k).1 hk] at hfree
        cases hfree
    · exact hcancel rfl
  rw [h.callers_eq hc, hi]

/-- While an outcome is not noted the others wait. -/
theorem hold_run (hs : s.Coherent) (hrun : s.run ms = some t) (hms : ∀ m ∈ ms, m.IsOf cs)
    (hk : s.callers k = .counted outcome) (hend : (t.callers k).result? = none)
    (hwait : ∀ i ∈ cs, i ≠ k → ∃ n, s.callers i = .waiting n ∧ n ≤ bound) :
    (t.callers k = .counted outcome ∧ ∀ i ∈ cs, i ≠ k → ∃ n, t.callers i = .waiting n ∧ n ≤ bound) ∧
      s.logins ms = [] := by
  have hnot := settle_notMem hrun hend
  have hstep : ∀ u m u', m ∈ ms → Transition u m u' → u'.now.millis ≤ t.now.millis →
      (u.Coherent ∧ u.callers k = .counted outcome ∧
        ∀ i ∈ cs, i ≠ k → ∃ n, u.callers i = .waiting n ∧ n ≤ bound) →
      (u'.Coherent ∧ u'.callers k = .counted outcome ∧
        ∀ i ∈ cs, i ≠ k → ∃ n, u'.callers i = .waiting n ∧ n ≤ bound) ∧
      beginner? u u' m = none := by
    intro u m u' hmem h _ ⟨hu, huk, huw⟩
    have hlock : (u.callers k).holdsLock = true := by rw [huk]; rfl
    refine ⟨⟨hu.step h, ?_, fun i hi hne ↦ ?_⟩, hu.beginner?_eq_none h hlock (by simp [huk])⟩
    · have hc : m.caller? ≠ some k := by
        intro hc
        have hallowed := h.allowed hc
        rw [huk] at hallowed
        exact hnot (hallowed ▸ hmem)
      rw [h.callers_eq hc, huk]
    · obtain ⟨n, hn, hle⟩ := huw i hi hne
      exact ⟨n, hu.waiting_step h ((hms _ hmem).2 i) hlock hn, hle⟩
  obtain ⟨⟨-, ht⟩, hlogins⟩ := run_without_login hstep hrun ⟨hs, hk, hwait⟩
  exact ⟨ht, hlogins⟩

/-! ### Once the outcome is noted -/

/-- Whoever is let in having seen no more than `bound` logins leaves with the result. -/
def Answers (s : System) (bound : Nat) (result : Except AuthenticationFault SessionToken) : Prop :=
  ∀ n ≤ bound, Phase.afterDecision n (s.session.decision s.now n) = .leaving result

theorem answers_of_failure {fault : AuthenticationFault} {attempt : Nat}
    (hvalid : s.session.valid? s.now = none) (hlast : s.session.lastFailure = some (attempt, fault))
    (hlt : bound < attempt) : s.Answers bound (.error fault) := by
  intro n hn
  have hshare : s.session.failureAfter? n = some fault :=
    failureAfter?_eq_some_iff.2 ⟨attempt, hlast, Nat.lt_of_le_of_lt hn hlt⟩
  rw [decision_eq_share_iff.2 ⟨hvalid, hshare⟩]
  rfl

theorem answers_of_token {token : SessionToken} (htoken : s.session.token = some token)
    (hfresh : token.isExpiredAt s.now = false) : s.Answers bound (.ok token) := by
  intro n _
  rw [decision_eq_use_iff.2 (valid?_eq_some_iff.2 ⟨htoken, hfresh⟩)]
  rfl

/-- A caller that attends to a result goes on attending to it, provided that the session answers
when it decides. -/
theorem Transition.attends (h : Transition s m s') (hcancel : m ≠ .cancel i)
    (hanswers : m = .choose i → s.Answers bound result)
    (hi : (s.callers i).Attends bound result) : (s'.callers i).Attends bound result := by
  by_cases hc : m.caller? = some i
  · have hallowed := h.allowed hc
    cases hphase : s.callers i with
    | waiting n =>
      rw [hphase] at hallowed hi
      obtain rfl | rfl := hallowed
      · cases h with
        | entered hphase' =>
          obtain rfl := Phase.waiting.inj (hphase'.symm.trans hphase)
          rwa [put_callers_self]
      · exact absurd rfl hcancel
    | deciding n =>
      rw [hphase] at hallowed hi
      obtain rfl | rfl := hallowed
      · cases h with
        | chose hphase' =>
          obtain rfl := Phase.deciding.inj (hphase'.symm.trans hphase)
          rw [put_callers_self, hanswers rfl _ hi]
          exact rfl
      · exact absurd rfl hcancel
    | leaving result' =>
      rw [hphase] at hallowed hi
      obtain rfl := hallowed
      cases h with
      | left hphase' =>
        obtain rfl := Phase.leaving.inj (hphase'.symm.trans hphase)
        rwa [put_callers_self]
    | done =>
      rw [hphase] at hallowed
      exact hallowed.elim
    | _ =>
      rw [hphase] at hi
      exact hi.elim
  · rwa [h.callers_eq hc]

/-- Callers that attend to a result go on attending to it, and none of them logs in, provided that
the session answers to whoever decides. -/
theorem attends_step (hm : m.IsOf cs) (h : Transition s m s')
    (hanswers : ∀ i, m = .choose i → s.Answers bound result)
    (hcs : ∀ i ∈ cs, (s.callers i).Attends bound result) :
    (∀ i ∈ cs, (s'.callers i).Attends bound result) ∧ beginner? s s' m = none := by
  refine ⟨fun i hi ↦ h.attends (hm.2 i) (hanswers i) (hcs i hi), ?_⟩
  rw [Option.eq_none_iff_forall_ne_some]
  intro i hi
  obtain ⟨rfl, n, hphase, hd⟩ := h.beginner?_eq_some_iff.1 hi
  have hle : (s.callers i).Attends bound result := hcs i (hm.1 i rfl)
  rw [hphase] at hle
  have hleave := hanswers i rfl n hle
  rw [hd] at hleave
  cases hleave

/-- Callers that attend to a result change nothing in the session. -/
theorem session_eq_of_attends (hm : m.IsOf cs) (h : Transition s m s') (hinv : m ≠ .invalidate)
    (hcs : ∀ i ∈ cs, (s.callers i).Attends bound result) : s'.session = s.session := by
  cases h with
  | @answered i _ _ hphase | @settled i _ hphase =>
    have hatt := hcs i (hm.1 i rfl)
    rw [hphase] at hatt
    exact hatt.elim
  | invalidated => exact absurd rfl hinv
  | _ => rfl

/-- A noted failure goes to everyone who has seen fewer logins. -/
theorem refuse_run {fault : AuthenticationFault} {attempt : Nat} (hrun : s.run ms = some t)
    (hms : ∀ m ∈ ms, m.IsOf cs) (hvalid : s.session.valid? s.now = none)
    (hlast : s.session.lastFailure = some (attempt, fault)) (hlt : bound < attempt)
    (hcs : ∀ i ∈ cs, (s.callers i).Attends bound (.error fault)) :
    (∀ i ∈ cs, (t.callers i).Attends bound (.error fault)) ∧ s.logins ms = [] := by
  have hstep : ∀ u m u', m ∈ ms → Transition u m u' → u'.now.millis ≤ t.now.millis →
      ((∀ i ∈ cs, (u.callers i).Attends bound (.error fault)) ∧ u.session.valid? u.now = none ∧
        u.session.lastFailure = some (attempt, fault)) →
      ((∀ i ∈ cs, (u'.callers i).Attends bound (.error fault)) ∧ u'.session.valid? u'.now = none ∧
        u'.session.lastFailure = some (attempt, fault)) ∧ beginner? u u' m = none := by
    rintro u m u' hmem h - ⟨hu, huv, hul⟩
    obtain ⟨hu', hnone⟩ := attends_step (hms m hmem) h
      (fun _ _ ↦ answers_of_failure huv hul hlt) hu
    refine ⟨⟨hu', ?_⟩, hnone⟩
    -- of the session only the token can still change, and only by being forgotten
    by_cases hinv : m = .invalidate
    · obtain rfl := hinv
      cases h
      exact ⟨valid?_invalidate, hul⟩
    · rw [session_eq_of_attends (hms m hmem) h hinv hu]
      exact ⟨valid?_eq_none_of_le h.now_le huv, hul⟩
  obtain ⟨⟨ht, -⟩, hlogins⟩ := run_without_login hstep hrun ⟨hcs, hvalid, hlast⟩
  exact ⟨ht, hlogins⟩

/-- A token that is not forgotten, and is good at the end of a run, goes to everyone who is let in
during the run. -/
theorem offer_run {token : SessionToken} (hrun : s.run ms = some t) (hms : ∀ m ∈ ms, m.IsOf cs)
    (hinv : .invalidate ∉ ms) (htoken : s.session.token = some token)
    (hfresh : token.isExpiredAt t.now = false)
    (hcs : ∀ i ∈ cs, (s.callers i).Attends bound (.ok token)) :
    (∀ i ∈ cs, (t.callers i).Attends bound (.ok token)) ∧ s.logins ms = [] := by
  have hstep : ∀ u m u', m ∈ ms → Transition u m u' → u'.now.millis ≤ t.now.millis →
      ((∀ i ∈ cs, (u.callers i).Attends bound (.ok token)) ∧ u.session.token = some token) →
      ((∀ i ∈ cs, (u'.callers i).Attends bound (.ok token)) ∧ u'.session.token = some token) ∧
        beginner? u u' m = none := by
    rintro u m u' hmem h hle ⟨hu, hut⟩
    -- what is good at the end of the run was good before
    have hgood : token.isExpiredAt u.now = false := by
      by_contra hexp
      have hend : token.isExpiredAt t.now = true :=
        SessionToken.isExpiredAt_of_le (Int.le_trans h.now_le hle) (by simpa using hexp)
      rw [hend] at hfresh
      cases hfresh
    obtain ⟨hu', hnone⟩ := attends_step (hms m hmem) h (fun _ _ ↦ answers_of_token hut hgood) hu
    have hkept : u'.session = u.session :=
      session_eq_of_attends (hms m hmem) h (fun hm ↦ hinv (hm ▸ hmem)) hu
    exact ⟨⟨hu', by rw [hkept, hut]⟩, hnone⟩
  obtain ⟨⟨ht, -⟩, hlogins⟩ := run_without_login hstep hrun ⟨hcs, htoken⟩
  exact ⟨ht, hlogins⟩

/-- When nobody decides any more, nothing matters. -/
theorem drain_run (hrun : s.run ms = some t) (hms : ∀ m ∈ ms, m.IsOf cs)
    (hnone : ∀ i, .choose i ∉ ms) (hcs : ∀ i ∈ cs, (s.callers i).Attends bound result) :
    (∀ i ∈ cs, (t.callers i).Attends bound result) ∧ s.logins ms = [] :=
  run_without_login (P := fun u ↦ ∀ i ∈ cs, (u.callers i).Attends bound result)
    (fun _ m _ hmem h _ hu ↦
      attends_step (hms m hmem) h (fun i hm ↦ absurd (hm ▸ hmem) (hnone i)) hu) hrun hcs

/-- A run has a last decision, or none. -/
theorem exists_last_choose (ms : List Move) :
    (∀ i, .choose i ∉ ms) ∨
      ∃ pre j post, ms = pre ++ .choose j :: post ∧ ∀ i, .choose i ∉ post := by
  induction ms with
  | nil => exact .inl fun _ ↦ List.not_mem_nil
  | cons m ms ih =>
    rcases ih with hnone | ⟨pre, j, post, rfl, hpost⟩
    · by_cases hm : ∃ j, m = .choose j
      · obtain ⟨j, rfl⟩ := hm
        exact .inr ⟨[], j, ms, rfl, hnone⟩
      · refine .inl fun i hmem ↦ ?_
        rcases List.mem_cons.1 hmem with rfl | hmem
        · exact hm ⟨i, rfl⟩
        · exact hnone i hmem
    · exact .inr ⟨m :: pre, j, post, rfl, hpost⟩

/-- A token goes to everyone if it is good when the last one looks at it. -/
theorem attend_run {token : SessionToken} (hrun : s.run ms = some t) (hms : ∀ m ∈ ms, m.IsOf cs)
    (htoken : s.session.token = some token)
    (hfresh : ∀ pre j post u, ms = pre ++ .choose j :: post → (∀ i, .choose i ∉ post) →
      s.run pre = some u → .invalidate ∉ pre ∧ token.isExpiredAt u.now = false)
    (hcs : ∀ i ∈ cs, (s.callers i).Attends bound (.ok token)) :
    (∀ i ∈ cs, (t.callers i).Attends bound (.ok token)) ∧ s.logins ms = [] := by
  rcases exists_last_choose ms with hnone | ⟨pre, j, post, rfl, hpost⟩
  · exact drain_run hrun hms hnone hcs
  · obtain ⟨u, hu, hrest⟩ := run_append_eq_some.1 hrun
    obtain ⟨v, hv, hend⟩ := run_cons_eq_some.1 hrest
    obtain ⟨hinv, hgood⟩ := hfresh pre j post u rfl hpost hu
    -- deciding takes no time, so the token is as good after the last decision as before it
    have huv : s.run (pre ++ [.choose j]) = some v :=
      run_append_eq_some.2 ⟨u, hu, by simp [run, hv]⟩
    have hnow : v.now = u.now := by
      cases step_eq_some_iff.1 hv
      rfl
    have hsplit : pre ++ .choose j :: post = (pre ++ [.choose j]) ++ post := by simp
    rw [hsplit] at hms ⊢
    obtain ⟨hcv, hlogins⟩ := offer_run huv (fun m hmem ↦ hms m (List.mem_append_left _ hmem))
      (by simp [hinv]) htoken (by rw [hnow, hgood]) hcs
    obtain ⟨hct, hlogins'⟩ :=
      drain_run hend (fun m hmem ↦ hms m (List.mem_append_right _ hmem)) hpost hcv
    refine ⟨hct, ?_⟩
    rw [logins_append huv, hlogins, hlogins']
    rfl

end System

end VaultAccess.Session
