import VaultAccess.Proofs.Actions
import VaultAccess.Proofs.Session.Refusals
import VaultAccess.Session.Obtain

/-!
# Callers that take turns

`Link.obtain` serves a caller that comes alone, and `Link.obtainTogether` serves callers that all
look at the session before one after the other takes its turn. Both are runs of the callers of a
session, in which only some orders of steps occur: whatever holds of every run holds of them.

A run shows what the actions do if it starts with the same session and at the same instant as they
do (`Shows`); then it ends so too, and what the callers return in it is what the actions yield.
-/

namespace VaultAccess

theorem Instant.after_of_le {t u : Instant} (h : t.millis ≤ u.millis) :
    t.after (u.millis - t.millis).toNat = u := by
  have hmillis : t.millis + ((u.millis - t.millis).toNat : Int) = u.millis := by omega
  exact congrArg Instant.mk hmillis

/-- Logging in does not set the clock back. -/
def Authenticator.Forward {ν : Type} (auth : Authenticator ν) : Prop :=
  ∀ scene, (auth.now scene.state).millis ≤ (auth.now (auth.login.perform scene).2.state).millis

/-! ### What the actions do -/

namespace Link

variable {ν : Type} {auth : Authenticator ν} {scene : Scene (Link ν)} {observed : Nat}

theorem logIn_perform :
    (logIn auth).perform scene =
      let login := auth.login.perform ⟨scene.state.outside, scene.log⟩
      let settled := scene.state.session.count.settle (auth.now login.2.state) login.1
      (settled.2.mapError .authentication,
        ⟨⟨settled.1, login.2.state⟩, loginEvent settled.2 :: login.2.log⟩) :=
  rfl

theorem takeTurn_perform :
    (takeTurn auth observed).perform scene =
      match scene.state.session.decision (auth.now scene.state.outside) observed with
      | .use token => (.ok token, scene)
      | .share fault => (.error (.authentication fault), scene)
      | .logIn => (logIn auth).perform scene := by
  show Action.perform
    (match scene.state.session.decision (auth.now scene.state.outside) observed with
      | .use token => return token
      | .share fault => throw (.authentication fault)
      | .logIn => logIn auth) scene = _
  cases scene.state.session.decision (auth.now scene.state.outside) observed <;> rfl

theorem obtain_perform :
    (obtain auth).perform scene =
      match scene.state.session.valid? (auth.now scene.state.outside) with
      | some token => (.ok token, scene)
      | none => (takeTurn auth scene.state.session.attempts).perform scene := by
  show Action.perform
    (match scene.state.session.valid? (auth.now scene.state.outside) with
      | some token => return token
      | none => takeTurn auth scene.state.session.attempts) scene = _
  cases scene.state.session.valid? (auth.now scene.state.outside) <;> rfl

theorem obtainTogether_perform {callers : Nat} :
    (obtainTogether auth callers).perform scene =
      match scene.state.session.valid? (auth.now scene.state.outside) with
      | some token => (.ok (List.replicate callers (.ok token)), scene)
      | none => ((List.range callers).mapM fun _ ↦
          (takeTurn auth scene.state.session.attempts).attempt).perform scene := by
  show Action.perform
    (match scene.state.session.valid? (auth.now scene.state.outside) with
      | some token => return List.replicate callers (.ok token)
      | none => (List.range callers).mapM fun _ ↦
          (takeTurn auth scene.state.session.attempts).attempt) scene = _
  cases scene.state.session.valid? (auth.now scene.state.outside) <;> rfl

end Link

/-! ### The same in a run -/

namespace Session.System

variable {ν : Type} {auth : Authenticator ν} {scene : Scene (Link ν)} {l : Link ν} {s s' t : System}
  {m : Move} {ms : List Move} {i n : Nat}

/-- A system shows a link: the session is the same, the clock is at the same instant, and nobody
holds the lock. -/
structure Shows (auth : Authenticator ν) (s : System) (l : Link ν) : Prop where
  session : s.session = l.session
  now : s.now = auth.now l.outside
  holder : s.holder = none

theorem run_cons (h : Transition s m s') (hrest : s'.run ms = some t) : s.run (m :: ms) = some t :=
  run_cons_eq_some.2 ⟨s', step_eq_some_iff.2 h, hrest⟩

/-- A caller with a settled result gives the lock back. -/
theorem leave_run {result : Except AuthenticationFault SessionToken}
    (hi : s.callers i = .leaving result) :
    ∃ t, s.run [.leave i] = some t ∧
      (t.callers i).returned? = some (result.mapError .authentication) ∧ t.holder = none ∧
      t.session = s.session ∧ t.now = s.now ∧ ∀ j, j ≠ i → t.callers j = s.callers j :=
  ⟨_, run_cons (.left hi) rfl, by rw [put_callers_self]; rfl, rfl, rfl, rfl,
    fun _ hj ↦ put_callers_of_ne hj⟩

/-- A login is a run from the decision to log in. -/
theorem logIn_run (hauth : auth.Forward) (hsession : s.session = scene.state.session)
    (hnow : s.now = auth.now scene.state.outside) (hi : s.callers i = .loggingIn n) :
    ∃ ms t, s.run ms = some t ∧
      (t.callers i).returned? = some ((Link.logIn auth).perform scene).1 ∧
      t.Shows auth ((Link.logIn auth).perform scene).2.state ∧
      ∀ j, j ≠ i → t.callers j = s.callers j := by
  have hforward := hauth ⟨scene.state.outside, scene.log⟩
  rw [Link.logIn_perform]
  rcases hlogin : auth.login.perform ⟨scene.state.outside, scene.log⟩ with ⟨outcome, after⟩
  rw [hlogin] at hforward
  -- the clock goes on while the caller logs in
  let millis := ((auth.now after.state).millis - s.now.millis).toNat
  have hlater : s.now.after millis = auth.now after.state :=
    Instant.after_of_le (by rw [hnow]; exact hforward)
  let counted : System := { put { s with now := s.now.after millis } i (.counted outcome) with
    session := s.session.count
    outcomes := outcome :: s.outcomes }
  let noted : System := {
    counted.put i (.leaving (counted.session.settle counted.now outcome).2) with
    session := (counted.session.settle counted.now outcome).1 }
  obtain ⟨t, hleave, hreturned, hholder, htsession, htnow, hothers⟩ :=
    leave_run (s := noted) (i := i) put_callers_self
  have hsettled : counted.session.settle counted.now outcome =
      scene.state.session.count.settle (auth.now after.state) outcome := by
    show s.session.count.settle (s.now.after millis) outcome = _
    rw [hlater, hsession]
  refine ⟨[.tick millis, .answer i outcome, .settle i, .leave i], t,
    run_cons .ticked (run_cons (.answered hi) (run_cons (.settled put_callers_self) hleave)),
    ?_, ⟨?_, htnow.trans hlater, hholder⟩, fun j hj ↦ ?_⟩
  · rw [hreturned, hsettled]
  · rw [htsession]
    exact congrArg Prod.fst hsettled
  · rw [hothers j hj]
    exact (put_callers_of_ne hj).trans (put_callers_of_ne hj)

/-- A caller that waits takes its turn in a run. -/
theorem takeTurn_run (hauth : auth.Forward) (hs : s.Shows auth scene.state)
    (hi : s.callers i = .waiting n) :
    ∃ ms t, s.run ms = some t ∧
      (t.callers i).returned? = some ((Link.takeTurn auth n).perform scene).1 ∧
      t.Shows auth ((Link.takeTurn auth n).perform scene).2.state ∧
      ∀ j, j ≠ i → t.callers j = s.callers j := by
  let entered : System := { s.put i (.deciding n) with holder := some i }
  let chosen : System := entered.put i (Phase.afterDecision n (s.session.decision s.now n))
  have hchosen : ∀ {ms t}, chosen.run ms = some t → s.run (.enter i :: .choose i :: ms) = some t :=
    fun hrest ↦ run_cons (.entered hi hs.holder) (run_cons (.chose put_callers_self) hrest)
  have hphase : chosen.callers i =
      Phase.afterDecision n (scene.state.session.decision (auth.now scene.state.outside) n) := by
    rw [← hs.session, ← hs.now]
    exact put_callers_self
  have hothers : ∀ j, j ≠ i → chosen.callers j = s.callers j := fun j hj ↦
    (put_callers_of_ne hj).trans (put_callers_of_ne hj)
  rw [Link.takeTurn_perform]
  cases hd : scene.state.session.decision (auth.now scene.state.outside) n with
  | use token | share fault =>
    rw [hd] at hphase
    obtain ⟨t, hleave, hreturned, hholder, htsession, htnow, hrest⟩ := leave_run hphase
    exact ⟨_, t, hchosen hleave, hreturned,
      ⟨htsession.trans hs.session, htnow.trans hs.now, hholder⟩,
      fun j hj ↦ (hrest j hj).trans (hothers j hj)⟩
  | logIn =>
    rw [hd] at hphase
    obtain ⟨ms, t, hrun, hreturned, hshows, hrest⟩ :=
      logIn_run hauth (s := chosen) hs.session hs.now hphase
    exact ⟨_, t, hchosen hrun, hreturned, hshows, fun j hj ↦ (hrest j hj).trans (hothers j hj)⟩

/-- A caller that comes alone gets its token in a run. -/
theorem obtain_run (hauth : auth.Forward) (hs : s.Shows auth scene.state)
    (hi : s.callers i = .idle) :
    ∃ ms t, s.run ms = some t ∧
      (t.callers i).returned? = some ((Link.obtain auth).perform scene).1 ∧
      t.Shows auth ((Link.obtain auth).perform scene).2.state ∧
      ∀ j, j ≠ i → t.callers j = s.callers j := by
  rw [Link.obtain_perform]
  rcases hvalid : scene.state.session.valid? (auth.now scene.state.outside) with - | token
  · have hmissed : s.session.valid? s.now = none := by rw [hs.session, hs.now, hvalid]
    let queued : System := put (s.put i .missed) i (.waiting s.session.attempts)
    have hshows : queued.Shows auth scene.state := ⟨hs.session, hs.now, hs.holder⟩
    obtain ⟨ms, t, hrun, hreturned, hshows', hothers⟩ :=
      takeTurn_run hauth hshows (i := i) put_callers_self
    rw [hs.session] at hreturned hshows'
    exact ⟨_, t, run_cons (.missed hi hmissed) (run_cons (.queued put_callers_self) hrun),
      hreturned, hshows', fun j hj ↦
        ((hothers j hj).trans (put_callers_of_ne hj)).trans (put_callers_of_ne hj)⟩
  · have hfound : s.session.valid? s.now = some token := by rw [hs.session, hs.now, hvalid]
    exact ⟨[.look i], _, run_cons (.found hi hfound) rfl, by rw [put_callers_self]; rfl,
      ⟨hs.session, hs.now, hs.holder⟩, fun j hj ↦ put_callers_of_ne hj⟩

/-! ### Callers that come together -/

/-- Nothing differs but the phases of some callers. -/
structure SameBut (cs : List Nat) (s t : System) : Prop where
  session : t.session = s.session
  now : t.now = s.now
  holder : t.holder = s.holder
  callers : ∀ j, j ∉ cs → t.callers j = s.callers j

/-- What one caller can do at its beginning without a trace, several can do one after the other. -/
theorem each_run {session : Session} {now : Instant} {p : Phase}
    (hone : ∀ (u : System) (i : Nat), u.session = session → u.now = now → u.callers i = .idle →
      ∃ ms v, u.run ms = some v ∧ v.callers i = p ∧ SameBut [i] u v)
    {cs : List Nat} (hnodup : cs.Nodup) (hsession : s.session = session) (hnow : s.now = now)
    (hcs : ∀ i ∈ cs, s.callers i = .idle) :
    ∃ ms t, s.run ms = some t ∧ (∀ i ∈ cs, t.callers i = p) ∧ SameBut cs s t := by
  induction cs generalizing s with
  | nil => exact ⟨[], s, rfl, nofun, rfl, rfl, rfl, fun _ _ ↦ rfl⟩
  | cons i cs ih =>
    obtain ⟨hi, hnodup⟩ := List.nodup_cons.1 hnodup
    obtain ⟨ms, u, hrun, hp, hu⟩ := hone s i hsession hnow (hcs i List.mem_cons_self)
    have hothers : ∀ j, j ≠ i → u.callers j = s.callers j := fun j hj ↦
      hu.callers j (List.mem_singleton.not.2 hj)
    obtain ⟨ns, t, hrest, hps, ht⟩ := ih hnodup (hu.session.trans hsession) (hu.now.trans hnow)
      fun j hj ↦ (hothers j (ne_of_mem_of_not_mem hj hi)).trans (hcs j (List.mem_cons_of_mem _ hj))
    refine ⟨ms ++ ns, t, run_append_eq_some.2 ⟨u, hrun, hrest⟩, fun j hj ↦ ?_,
      ht.session.trans hu.session, ht.now.trans hu.now, ht.holder.trans hu.holder, fun j hj ↦ ?_⟩
    · rcases List.mem_cons.1 hj with rfl | hj
      · exact (ht.callers j hi).trans hp
      · exact hps j hj
    · obtain ⟨hne, hj⟩ := not_or.1 (List.mem_cons.not.1 hj)
      exact (ht.callers j hj).trans (hothers j hne)

/-- Callers that find no token all get to wait before any of them goes on. -/
theorem gather (hvalid : s.session.valid? s.now = none) {cs : List Nat} (hnodup : cs.Nodup)
    (hcs : ∀ i ∈ cs, s.callers i = .idle) :
    ∃ ms t, s.run ms = some t ∧ (∀ i ∈ cs, t.callers i = .waiting s.session.attempts) ∧
      SameBut cs s t := by
  refine each_run (fun u i hsession hnow hi ↦ ?_) hnodup rfl rfl hcs
  have hmissed : u.session.valid? u.now = none := by rw [hsession, hnow, hvalid]
  refine ⟨[.look i, .queue i], _,
    run_cons (.missed hi hmissed) (run_cons (.queued put_callers_self) rfl), ?_, rfl, rfl, rfl,
    fun j hj ↦ ?_⟩
  · rw [put_callers_self, ← hsession]
    rfl
  · have hne : j ≠ i := List.mem_singleton.not.1 hj
    exact (put_callers_of_ne hne).trans (put_callers_of_ne hne)

/-- Callers that find a token all end with it. -/
theorem find {token : SessionToken} (hvalid : s.session.valid? s.now = some token) {cs : List Nat}
    (hnodup : cs.Nodup) (hcs : ∀ i ∈ cs, s.callers i = .idle) :
    ∃ ms t, s.run ms = some t ∧ (∀ i ∈ cs, t.callers i = .done (.ok token)) ∧ SameBut cs s t := by
  refine each_run (fun u i hsession hnow hi ↦ ?_) hnodup rfl rfl hcs
  have hfound : u.session.valid? u.now = some token := by rw [hsession, hnow, hvalid]
  exact ⟨[.look i], _, run_cons (.found hi hfound) rfl, put_callers_self, rfl, rfl, rfl,
    fun j hj ↦ put_callers_of_ne (List.mem_singleton.not.1 hj)⟩

/-- Callers that wait take their turns in a run, one after the other. -/
theorem turns_run (hauth : auth.Forward) {cs : List Nat} (hnodup : cs.Nodup)
    (hs : s.Shows auth scene.state) (hcs : ∀ i ∈ cs, s.callers i = .waiting n) :
    ∃ ms t results, s.run ms = some t ∧
      ((cs.mapM fun _ ↦ (Link.takeTurn auth n).attempt).perform scene).1 = .ok results ∧
      List.Forall₂ (fun i r ↦ (t.callers i).returned? = some r) cs results ∧
      t.Shows auth ((cs.mapM fun _ ↦ (Link.takeTurn auth n).attempt).perform scene).2.state ∧
      ∀ j, j ∉ cs → t.callers j = s.callers j := by
  induction cs generalizing s scene with
  | nil => exact ⟨[], s, [], rfl, rfl, .nil, hs, fun _ _ ↦ rfl⟩
  | cons i cs ih =>
    obtain ⟨hi, hnodup⟩ := List.nodup_cons.1 hnodup
    obtain ⟨ms, u, hrun, hreturned, hshows, hothers⟩ :=
      takeTurn_run hauth hs (hcs i List.mem_cons_self)
    obtain ⟨ns, t, results, hrest, hresults, hall, hshows', hothers'⟩ := ih hnodup hshows
      fun j hj ↦ (hothers j (ne_of_mem_of_not_mem hj hi)).trans (hcs j (List.mem_cons_of_mem _ hj))
    rw [List.mapM_cons, Action.perform_bind_of_ok Action.perform_attempt,
      Action.perform_bind_of_ok (Prod.ext hresults rfl), Action.perform_pure]
    refine ⟨ms ++ ns, t, _ :: results, run_append_eq_some.2 ⟨u, hrun, hrest⟩, rfl,
      .cons ?_ hall, hshows', fun j hj ↦ ?_⟩
    · rw [hothers' i hi, hreturned]
    · obtain ⟨hne, hj⟩ := not_or.1 (List.mem_cons.not.1 hj)
      exact (hothers' j hj).trans (hothers j hne)

/-- Callers that come together get their tokens in a run. -/
theorem obtainTogether_run (hauth : auth.Forward) (hs : s.Shows auth scene.state) {callers : Nat}
    (hidle : ∀ i < callers, s.callers i = .idle) :
    ∃ ms t results, s.run ms = some t ∧
      ((Link.obtainTogether auth callers).perform scene).1 = .ok results ∧
      List.Forall₂ (fun i r ↦ (t.callers i).returned? = some r) (List.range callers) results ∧
      t.Shows auth ((Link.obtainTogether auth callers).perform scene).2.state := by
  have hcs : ∀ i ∈ List.range callers, s.callers i = .idle := fun i hi ↦
    hidle i (List.mem_range.1 hi)
  rw [Link.obtainTogether_perform]
  rcases hvalid : scene.state.session.valid? (auth.now scene.state.outside) with - | token
  · have hmissed : s.session.valid? s.now = none := by rw [hs.session, hs.now, hvalid]
    obtain ⟨ms, u, hrun, hwait, hu⟩ := gather hmissed List.nodup_range hcs
    have hshows : u.Shows auth scene.state :=
      ⟨hu.session.trans hs.session, hu.now.trans hs.now, hu.holder.trans hs.holder⟩
    rw [hs.session] at hwait
    obtain ⟨ns, t, results, hrest, hresults, hall, hshows', -⟩ :=
      turns_run hauth List.nodup_range hshows hwait
    exact ⟨ms ++ ns, t, results, run_append_eq_some.2 ⟨u, hrun, hrest⟩, hresults, hall, hshows'⟩
  · have hfound : s.session.valid? s.now = some token := by rw [hs.session, hs.now, hvalid]
    obtain ⟨ms, t, hrun, hdone, ht⟩ := find hfound List.nodup_range hcs
    refine ⟨ms, t, _, hrun, rfl, ?_,
      ⟨ht.session.trans hs.session, ht.now.trans hs.now, ht.holder.trans hs.holder⟩⟩
    rw [List.forall₂_iff_get]
    refine ⟨by simp, fun k hk _ ↦ ?_⟩
    simp only [List.get_eq_getElem, List.getElem_range, List.getElem_replicate]
    rw [hdone k (by simpa using hk)]
    rfl

end Session.System

end VaultAccess
