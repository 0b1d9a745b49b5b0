import Mathlib.Data.List.Induction
import VaultAccess.Proofs.Session.Refusals

/-!
# Fresh tokens

Where the tokens come from that callers get. The tokens that logins yield during a run are read off
its steps (`issued`): a login that has succeeded yields its token when its outcome is noted, for
then the token is stamped with the instant and kept.

* What is kept is the last token that was issued, or nothing (`token_eq_none_or_last`). Nothing but
  noting the outcome of a login puts a token there (`Transition.token_eq_issued`).
* A caller gets a token by noting the outcome of its own login, or finds one that is kept
  (`Transition.granted_cases`), and one that it finds has more than the margin of its lease left
  (`SessionToken.lease_gt_of_fresh`).
* Whoever has no token when the session is made to forget its own gets one that is issued later
  (`mem_issued_of_granted`): from then on whatever is kept has been issued since.

Between the end of a login and its being noted the token of the login is not kept yet. A session
that is made to forget its token just then forgets another one, and keeps that of the login
afterwards, although the login was over before (`answer_of_mem_issued`). And until then the token
that is kept need not be that of the last successful login (`kept_run`).
-/

namespace VaultAccess

/-- More than the margin is left of the lease of a token that need not be replaced. That times are
compared in whole seconds only makes it more. -/
theorem SessionToken.lease_gt_of_fresh {t : SessionToken} {now : Instant} {lease : Nat}
    (hfresh : t.isExpiredAt now = false) (hlease : t.lease = some lease) :
    now.since t.issuedAt + 5000 < lease := by
  simp only [isExpiredAt, hlease, decide_eq_false_iff_not] at hfresh
  have hmargin : margin = 5000 := rfl
  omega

namespace Session.System

variable {s s' t : System} {m : Move} {ms ns : List Move} {i j : Nat} {now : Instant}
  {token : SessionToken} {outcome : Except Failure Grant} {grant : Grant}

/-! ### Tokens that are issued -/

/-- The token that a login yields with a step, if its outcome is noted and it has succeeded. -/
def issued? (s : System) : Move → Option SessionToken
  | .settle i =>
    match s.callers i with
    | .counted (.ok grant) => some (.issue s.now grant)
    | _ => none
  | _ => none

/-- The tokens that logins yield during a run, in order. -/
def issued (s : System) (ms : List Move) : List SessionToken :=
  Runs.seen step (fun s m _ ↦ s.issued? m) s ms

theorem issued?_eq_some_iff :
    s.issued? m = some token ↔
      ∃ i grant, m = .settle i ∧ s.callers i = .counted (.ok grant) ∧
        token = .issue s.now grant := by
  constructor
  · intro h
    cases m with
    | settle i =>
      simp only [issued?] at h
      split at h
      next grant hphase => exact ⟨i, grant, rfl, hphase, (Option.some.inj h).symm⟩
      next => cases h
    | _ => cases h
  · rintro ⟨i, grant, rfl, hphase, rfl⟩
    simp [issued?, hphase]

/-- What is issued in a run with one step more. -/
theorem issued_concat (hrun : s.run ms = some t) (hstep : t.step m = some s') :
    s.issued (ms ++ [m]) = s.issued ms ++ (t.issued? m).toList :=
  Runs.seen_concat (run_eq_foldlM.symm.trans hrun) hstep

/-- A run is empty or has a last step. -/
theorem run_concat_eq_some :
    s.run (ms ++ [m]) = some t ↔ ∃ u, s.run ms = some u ∧ Transition u m t := by
  simp [run_append_eq_some, run, step_eq_some_iff]

/-- A token that is issued in a run is that of a login that ended in the run, or had ended before
and was not noted yet. -/
theorem answer_of_mem_issued (hrun : s.run ms = some t) (hmem : token ∈ s.issued ms) :
    ∃ j grant, token.value = grant.token ∧ token.lease = grant.lease ∧
      (s.callers j = .counted (.ok grant) ∨ .answer j (.ok grant) ∈ ms) := by
  induction ms using List.reverseRecOn generalizing t with
  | nil => cases hmem
  | append_singleton ms m ih =>
    obtain ⟨u, hu, h⟩ := run_concat_eq_some.1 hrun
    rw [issued_concat hu (step_eq_some_iff.2 h), List.mem_append, Option.mem_toList] at hmem
    rcases hmem with hmem | hnew
    · obtain ⟨j, grant, hvalue, hlease, hended⟩ := ih hu hmem
      exact ⟨j, grant, hvalue, hlease, hended.imp_right (List.mem_append_left _)⟩
    · obtain ⟨j, grant, -, hphase, rfl⟩ := issued?_eq_some_iff.1 hnew
      exact ⟨j, grant, rfl, rfl, (counted_run_cases hu hphase).imp_right (List.mem_append_left _)⟩

/-! ### What is kept, and who gets it -/

/-- A step that issues a token keeps it. -/
theorem Transition.token_eq_issued (h : Transition s m s') (hissued : s.issued? m = some token) :
    s'.session.token = some token := by
  obtain ⟨i, grant, rfl, hphase, rfl⟩ := issued?_eq_some_iff.1 hissued
  cases h with
  | settled hphase' =>
    obtain rfl := Phase.counted.inj (hphase'.symm.trans hphase)
    rfl

/-- A step that issues no token leaves the one that is kept, or makes the session forget it. -/
theorem Transition.token_eq_or_none (h : Transition s m s') (hissued : s.issued? m = none) :
    s'.session.token = s.session.token ∨ s'.session.token = none := by
  by_cases hinv : m = .invalidate
  · obtain rfl := hinv
    cases h
    exact .inr rfl
  · refine .inl (h.token_eq hinv fun j grant hm hphase ↦ ?_)
    rw [issued?_eq_some_iff.2 ⟨j, grant, hm, hphase, rfl⟩] at hissued
    cases hissued

/-- The grant of the last login that has succeeded, of a row of outcomes with the newest first. -/
def lastGrant? (outcomes : List (Except Failure Grant)) : Option Grant :=
  outcomes.findSome? Except.toOption

/-- What is kept is the token of the last successful login, unless the outcome of that login is not
noted yet. -/
def Kept (s : System) : Prop :=
  ∀ token, s.session.token = some token →
    (∃ j grant, s.callers j = .counted (.ok grant)) ∨
      ∃ grant, lastGrant? s.outcomes = some grant ∧ token.value = grant.token ∧
        token.lease = grant.lease

theorem Kept.step (hs : s.Coherent) (hkept : s.Kept) (h : Transition s m s') : s'.Kept := by
  intro token htoken
  cases hissued : s.issued? m with
  | some issued =>
    obtain rfl := Option.some.inj ((h.token_eq_issued hissued).symm.trans htoken)
    obtain ⟨i, grant, rfl, hphase, rfl⟩ := issued?_eq_some_iff.1 hissued
    obtain ⟨earlier, houtcomes, -⟩ := hs.counted i _ hphase
    refine .inr ⟨grant, ?_, rfl, rfl⟩
    cases h with
    | settled => exact congrArg lastGrant? houtcomes
  | none =>
    have hold : s.session.token = some token := by
      rcases h.token_eq_or_none hissued with hsame | hnone
      · exact hsame.symm.trans htoken
      · rw [hnone] at htoken
        cases htoken
    rcases hkept token hold with ⟨j, grant, hcounted⟩ | hlast
    · -- noting that outcome would have issued a token
      refine .inl ⟨j, grant, (h.callers_eq fun hm ↦ ?_).trans hcounted⟩
      have hallowed := h.allowed hm
      rw [hcounted] at hallowed
      obtain rfl : m = .settle j := hallowed
      rw [issued?_eq_some_iff.2 ⟨j, grant, rfl, hcounted, rfl⟩] at hissued
      cases hissued
    · cases h with
      | @answered i _ outcome =>
        cases outcome with
        | ok grant => exact .inl ⟨i, grant, put_callers_self⟩
        | error f => exact .inr hlast
      | _ => exact .inr hlast

/-- A caller gets a token by noting the outcome of its login or by finding the one that is kept. -/
theorem Transition.granted_cases (h : Transition s m s')
    (hold : (s.callers i).result? ≠ some (.ok token))
    (hnew : (s'.callers i).result? = some (.ok token)) :
    m = .settle i ∧ s.issued? m = some token ∨ s.session.valid? s.now = some token := by
  cases h.gets hold hnew with
  | found hvalid | used _ hvalid => exact .inr hvalid
  | granted hphase => exact .inl ⟨rfl, issued?_eq_some_iff.2 ⟨i, _, rfl, hphase, rfl⟩⟩

/-! ### Runs -/

/-- The token that is kept is the last one that was issued, unless it has been forgotten. -/
theorem token_eq_none_or_last (hrun : s.run ms = some t) (hs : s.session.token = none) :
    t.session.token = none ∨ t.session.token = (s.issued ms).getLast? := by
  induction ms using List.reverseRecOn generalizing t with
  | nil =>
    obtain rfl := Option.some.inj hrun
    exact .inl hs
  | append_singleton ms m ih =>
    obtain ⟨u, hu, h⟩ := run_concat_eq_some.1 hrun
    rw [issued_concat hu (step_eq_some_iff.2 h)]
    rcases hissued : u.issued? m with - | token
    · rw [Option.toList_none, List.append_nil]
      rcases h.token_eq_or_none hissued with hkept | hnone
      · rw [hkept]
        exact ih hu
      · exact .inl hnone
    · rw [h.token_eq_issued hissued]
      simp

theorem kept_run (hrun : ({ now } : System).run ms = some s) : s.Kept :=
  (run_preserves (P := fun u ↦ u.Coherent ∧ u.Kept)
    (fun _ _ _ _ h hu ↦ ⟨hu.1.step h, hu.2.step hu.1 h⟩) hrun ⟨coherent_init now, nofun⟩).2

/-- Whoever has no token when none is kept gets one that is issued from then on. -/
theorem mem_issued_of_granted (hrun : s.run ms = some t) (hs : s.session.token = none)
    (hi : (s.callers i).result? ≠ some (.ok token))
    (ht : (t.callers i).result? = some (.ok token)) : token ∈ s.issued ms := by
  induction ms using List.reverseRecOn generalizing t with
  | nil =>
    obtain rfl := Option.some.inj hrun
    exact absurd ht hi
  | append_singleton ms m ih =>
    obtain ⟨u, hu, h⟩ := run_concat_eq_some.1 hrun
    rw [issued_concat hu (step_eq_some_iff.2 h), List.mem_append]
    by_cases hold : (u.callers i).result? = some (.ok token)
    · exact .inl (ih hu hold)
    · rcases h.granted_cases hold ht with ⟨-, hissued⟩ | hvalid
      · exact .inr (Option.mem_toList.2 hissued)
      · -- what is found is what is kept, and that has been issued since
        have hkept : u.session.token = some token := (valid?_eq_some_iff.1 hvalid).1
        rcases token_eq_none_or_last hu hs with hnone | hlast
        · rw [hnone] at hkept
          cases hkept
        · exact .inl (List.mem_of_getLast? (hlast.symm.trans hkept))

/-! ### Tokens are fresh -/

/-- However callers, logins, time and the forgetting of tokens interleave: what is kept is nothing
or the token that was issued last, which is that of the last successful login unless the outcome of
that login is not noted yet; a caller that gets a token gets that of its own login, or finds one
that has no lease or more than five seconds of it left at that instant; a token that has expired
stays so; and a caller that has no result when the token is forgotten, as one that has not begun,
gets only a token that is issued later, by a login that ends later or one that has ended when the
token is forgotten and whose outcome is not noted yet. -/
theorem tokens_fresh {past : List Move} (hpast : ({ now } : System).run past = some s) :
    (s.session.token = none ∨ s.session.token = (({ now } : System).issued past).getLast?) ∧
      (∀ token, s.session.token = some token →
        (∃ j grant, s.callers j = .counted (.ok grant)) ∨
          ∃ grant, lastGrant? s.outcomes = some grant ∧ token.value = grant.token ∧
            token.lease = grant.lease) ∧
      (∀ m s' i token, s.step m = some s' → (s.callers i).result? ≠ some (.ok token) →
        (s'.callers i).result? = some (.ok token) →
          m = .settle i ∧ s.issued? m = some token ∨
            s.session.token = some token ∧
              ∀ lease, token.lease = some lease → s.now.since token.issuedAt + 5000 < lease) ∧
      (∀ (token : SessionToken) (t t' : Instant), t.millis ≤ t'.millis →
        token.isExpiredAt t = true → token.isExpiredAt t' = true) ∧
      ∀ before after u u' i token, past = before ++ .invalidate :: after →
        ({ now } : System).run before = some u → u.step .invalidate = some u' →
        (u.callers i).result? = none → (s.callers i).result? = some (.ok token) →
          token ∈ u'.issued after ∧
            ∃ j grant, token.value = grant.token ∧ token.lease = grant.lease ∧
              (.answer j (.ok grant) ∈ after ∨ u.callers j = .counted (.ok grant)) := by
  refine ⟨token_eq_none_or_last hpast rfl, kept_run hpast, fun m s' i token hm hold hnew ↦ ?_,
    fun token t t' hle ↦ SessionToken.isExpiredAt_of_le hle, ?_⟩
  · refine (step_eq_some_iff.1 hm).granted_cases hold hnew |>.imp_right fun hvalid ↦ ?_
    obtain ⟨htoken, hfresh⟩ := valid?_eq_some_iff.1 hvalid
    exact ⟨htoken, fun lease hlease ↦ SessionToken.lease_gt_of_fresh hfresh hlease⟩
  · rintro before after u u' i token rfl hbefore hinv hi hs
    obtain ⟨v, hv, hrest⟩ := run_append_eq_some.1 hpast
    obtain rfl := Option.some.inj (hbefore.symm.trans hv)
    obtain ⟨v', hinv', hafter⟩ := run_cons_eq_some.1 hrest
    obtain rfl := Option.some.inj (hinv.symm.trans hinv')
    have hu' : u'.session.token = none ∧ u'.callers = u.callers := by
      cases step_eq_some_iff.1 hinv with
      | invalidated => exact ⟨rfl, rfl⟩
    have hmem : token ∈ u'.issued after :=
      mem_issued_of_granted hafter hu'.1 (by rw [hu'.2, hi]; nofun) hs
    obtain ⟨j, grant, hvalue, hlease, hended⟩ := answer_of_mem_issued hafter hmem
    rw [hu'.2] at hended
    exact ⟨hmem, j, grant, hvalue, hlease, hended.symm⟩

/-- A caller logs in. -/
def loggedIn : List Move :=
  [.look 0, .queue 0, .enter 0, .choose 0, .answer 0 (.ok ⟨⟨"old"⟩, some 60000⟩), .settle 0,
    .leave 0, .tick 1000]

/-- Another one does so. -/
def renewing : List Move :=
  [.look 1, .queue 1, .enter 1, .choose 1, .answer 1 (.ok ⟨⟨"new"⟩, some 60000⟩), .tick 2000,
    .settle 1, .leave 1, .tick 3000]

/-- A token is forgotten while 59 seconds of its lease are left. The next caller gets another one,
whose login ends later, and 3 seconds after it was issued a third caller finds that one. -/
theorem tokens_fresh_of_forgotten :
    ∃ s, ({} : System).run (loggedIn ++ .invalidate :: renewing) = some s ∧
      s.session.token = some ⟨⟨"new"⟩, ⟨3000⟩, some 60000⟩ ∧
      (s.callers 1).result? = some (.ok ⟨⟨"new"⟩, ⟨3000⟩, some 60000⟩) ∧
      (∃ j grant, .answer j (.ok grant) ∈ renewing ∧ grant.token = ⟨"new"⟩) ∧
      (∃ s', s.step (.look 2) = some s' ∧
        (s'.callers 2).result? = some (.ok ⟨⟨"new"⟩, ⟨3000⟩, some 60000⟩)) ∧
      s.now.since ⟨3000⟩ + 5000 < 60000 := by
  have hpast : ({} : System).run (loggedIn ++ .invalidate :: renewing) = some _ := rfl
  obtain ⟨-, -, hgranted, -, hforgotten⟩ := tokens_fresh hpast
  have hbefore : ({} : System).run loggedIn = some _ := rfl
  obtain ⟨-, j, grant, hvalue, -, hended⟩ :=
    hforgotten loggedIn renewing _ _ 1 ⟨⟨"new"⟩, ⟨3000⟩, some 60000⟩ rfl hbefore rfl rfl rfl
  have hanswer : .answer j (.ok grant) ∈ renewing :=
    hended.resolve_right ((coherent_of_run hbefore).not_counted_of_free rfl j _)
  refine ⟨_, hpast, rfl, rfl, ⟨j, grant, hanswer, hvalue.symm⟩, ⟨_, rfl, rfl⟩, ?_⟩
  have hfound := hgranted (.look 2) _ 2 ⟨⟨"new"⟩, ⟨3000⟩, some 60000⟩ rfl nofun rfl
  exact (hfound.resolve_left fun hown ↦ nomatch hown.1).2 60000 rfl

/-- A login is counted before its token is kept. If the token is forgotten in between, a caller that
begins afterwards gets one although no login ends afterwards; and until the token is kept there may
be an older one in its place. -/
theorem counted_before_kept :
    (¬ ∀ (before after : List Move) (u s : System) (i : Nat) (token : SessionToken),
      ({} : System).run before = some u → u.callers i = .idle →
      ({} : System).run (before ++ .invalidate :: after) = some s →
      (s.callers i).result? = some (.ok token) →
        ∃ j grant, .answer j (.ok grant) ∈ after ∧ token.value = grant.token) ∧
      ¬ ∀ (past : List Move) (s : System) (token : SessionToken),
        ({} : System).run past = some s → s.session.token = some token →
          ∃ grant, lastGrant? s.outcomes = some grant ∧ token.value = grant.token := by
  constructor
  · intro h
    have hbefore : ({} : System).run
        [.look 0, .queue 0, .enter 0, .choose 0, .answer 0 (.ok ⟨⟨"new"⟩, some 60000⟩)] = some _ :=
      rfl
    obtain ⟨j, grant, hanswer, -⟩ := h _ [.settle 0, .look 1] _ _ 1
      ⟨⟨"new"⟩, ⟨0⟩, some 60000⟩ hbefore rfl rfl rfl
    simp at hanswer
  · intro h
    -- a minute after the first login, the next one has ended and is not noted yet
    have hpast : ({} : System).run (loggedIn ++ [.tick 60000, .look 1, .queue 1, .enter 1, .choose 1,
        .answer 1 (.ok ⟨⟨"new"⟩, some 60000⟩)]) = some _ := rfl
    obtain ⟨grant, hlast, hvalue⟩ := h _ _ ⟨⟨"old"⟩, ⟨0⟩, some 60000⟩ hpast rfl
    cases hlast
    exact absurd hvalue (by decide)

end Session.System

end VaultAccess
