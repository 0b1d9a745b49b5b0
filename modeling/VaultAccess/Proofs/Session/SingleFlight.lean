import Mathlib.Data.Finset.Insert
import VaultAccess.Proofs.Session.Sharing

/-!
# One login for all who come together

When several callers come together, the one that gets the lock first logs in for all of them.
`Crowd` cuts a run of such callers where the first login ends and where its outcome is noted; the
stages between the cuts are those of `Sharing`. Everyone attends to the outcome of the one login
(`Crowd.attends`), and when nobody has a step left, everyone has it (`Crowd.done`).

The last section puts this next to what holds of callers that come and go as they like.
-/

namespace VaultAccess.Session

/-- Whether a caller has begun and not ended. -/
def Phase.isActive : Phase → Bool
  | .idle => false
  | .done _ => false
  | .cancelled => false
  | _ => true

namespace System

variable {s u : System} {ms : List Move} {i k n bound : Nat} {cs : Finset Nat}
  {outcome : Except Failure Grant} {result : Except AuthenticationFault SessionToken}

/-! ### Callers that come together -/

/-- The callers `cs` come together, the only ones active, and none of them is given up: they start
from `s₀`; all of them have found no token and have seen the count by `s₁`, when the login of `k`,
the first to end, ends; its outcome is noted in `s₂`; and in `s` none of them has a step left to
take. -/
structure Crowd (cs : Finset Nat) (s₀ s₁ s₂ s : System) (before between after : List Move) (k : Nat)
    (outcome : Except Failure Grant) : Prop where
  quiet : ∀ i, (s₀.callers i).isActive = false
  idle : ∀ i ∈ cs, s₀.callers i = .idle
  only : ∀ m ∈ before ++ .answer k outcome :: between ++ .settle k :: after, m.IsOf cs
  begins : s₀.run before = some s₁
  seen : ∀ i ∈ cs, (s₁.callers i).observed?.isSome = true
  ends : s₁.run (.answer k outcome :: between) = some s₂
  notes : s₂.run (.settle k :: after) = some s
  /-- A token that the login yields is good when the last caller, with the lock in hand, looks at
  it, and nobody has made the session forget it by then. -/
  fresh : ∀ grant, outcome = .ok grant → ∀ pre j post u, after = pre ++ .choose j :: post →
    (∀ i, .choose i ∉ post) → s₂.run (.settle k :: pre) = some u →
      .invalidate ∉ pre ∧ (SessionToken.issue s₂.now grant).isExpiredAt u.now = false
  exhausted : ∀ m, m.caller?.isSome = true → m.IsOf cs → s.step m = none

namespace Crowd

variable {s₀ s₁ s₂ : System} {before between after : List Move}

theorem run (h : Crowd cs s₀ s₁ s₂ s before between after k outcome) :
    s₀.run (before ++ .answer k outcome :: between ++ .settle k :: after) = some s :=
  run_append_eq_some.2 ⟨s₂, run_append_eq_some.2 ⟨s₁, h.begins, h.ends⟩, h.notes⟩

/-- When the first login ends the others wait for the lock. -/
theorem waits (h : Crowd cs s₀ s₁ s₂ s before between after k outcome) (hs : s₁.Coherent)
    (hk : (s₁.callers k).holdsLock = true) (hi : i ∈ cs) (hne : i ≠ k) :
    ∃ n, s₁.callers i = .waiting n ∧ n ≤ s₁.outcomes.length := by
  have hfree : (s₁.callers i).holdsLock ≠ true := fun hlock ↦ hne (hs.eq_of_holdsLock hlock hk)
  have hseen := h.seen i hi
  cases hphase : s₁.callers i with
  | waiting n => exact ⟨n, rfl, hs.observed_le i n (by rw [hphase]; rfl)⟩
  | deciding | loggingIn =>
    rw [hphase] at hfree
    exact absurd rfl hfree
  | _ => simp [hphase, Phase.observed?] at hseen

/-- Only the login of `k` is begun before it ends. -/
theorem logins_before (h : Crowd cs s₀ s₁ s₂ s before between after k outcome) (hs : s₀.Coherent)
    (hk : s₁.callers k = .loggingIn n) : s₀.logins before = [k] := by
  refine gather_run hs h.begins (fun m hm ↦ h.only m (by simp [hm])) (fun i ↦ ?_) (fun i hi ↦ ?_) hk
  · have hquiet := h.quiet i
    cases hphase : s₀.callers i <;> simp_all [Phase.isActive, Phase.isLoggingIn]
  · have hseen := h.seen i hi
    cases hphase : s₁.callers i <;> simp_all [Phase.observed?, Phase.isPast]

/-- The login that ends is one of `k`, which had seen some count. -/
theorem loggingIn (h : Crowd cs s₀ s₁ s₂ s before between after k outcome) :
    ∃ n, s₁.callers k = .loggingIn n := by
  obtain ⟨u, hanswer, -⟩ := run_cons_eq_some.1 h.ends
  cases step_eq_some_iff.1 hanswer with
  | answered hphase => exact ⟨_, hphase⟩

/-- When the outcome is noted the others still wait, and it is newer than the counts that they have
seen. -/
theorem counted (h : Crowd cs s₀ s₁ s₂ s before between after k outcome) (hs : s₀.Coherent) :
    s₂.callers k = .counted outcome ∧
      (∀ i ∈ cs, i ≠ k → ∃ n, s₂.callers i = .waiting n ∧ n ≤ s₁.outcomes.length) ∧
      s₁.outcomes.length < s₂.outcomes.length ∧ s₁.logins (.answer k outcome :: between) = [] := by
  have hs₁ : s₁.Coherent := hs.run h.begins
  obtain ⟨n, hk⟩ := h.loggingIn
  have hlock : (s₁.callers k).holdsLock = true := by rw [hk]; rfl
  obtain ⟨u, hanswer, hbetween⟩ := run_cons_eq_some.1 h.ends
  have hanswer' := step_eq_some_iff.1 hanswer
  have hnone : beginner? s₁ u (.answer k outcome) = none :=
    hs₁.beginner?_eq_none hanswer' hlock (by simp [hk])
  have hcounted : u.callers k = .counted outcome ∧ u.outcomes = outcome :: s₁.outcomes := by
    cases hanswer' with
    | answered => exact ⟨put_callers_self, rfl⟩
  have hwait : ∀ i ∈ cs, i ≠ k → ∃ n, u.callers i = .waiting n ∧ n ≤ s₁.outcomes.length := by
    intro i hi hne
    rw [hanswer'.callers_eq fun hc ↦ hne (Option.some.inj hc).symm]
    exact h.waits hs₁ hlock hi hne
  -- the outcome is not noted before `s₂`, because it is noted in the step after it
  have hunsettled : (s₂.callers k).result? = none := by
    obtain ⟨v, hsettle, -⟩ := run_cons_eq_some.1 h.notes
    cases step_eq_some_iff.1 hsettle with
    | settled hphase =>
      rw [hphase]
      rfl
  obtain ⟨⟨hk₂, hwait₂⟩, hlogins⟩ := hold_run (hs₁.step hanswer') hbetween
    (fun m hm ↦ h.only m (by simp [hm])) hcounted.1 hunsettled hwait
  have hlonger : s₁.outcomes.length < s₂.outcomes.length := by
    have hle := (outcomes_suffix_run hbetween).length_le
    rwa [hcounted.2] at hle
  refine ⟨hk₂, hwait₂, hlonger, ?_⟩
  rw [logins_cons hanswer, hnone, hlogins]
  rfl

/-- Once the outcome is noted everyone attends to it. -/
theorem shared (h : Crowd cs s₀ s₁ s₂ s before between after k outcome) (hs : s₀.Coherent) :
    (∀ i ∈ cs, (s.callers i).Attends s₁.outcomes.length (s₂.session.settle s₂.now outcome).2) ∧
      s₂.logins (.settle k :: after) = [] := by
  have hs₂ : s₂.Coherent := (hs.run h.begins).run h.ends
  obtain ⟨hk, hwait, hnewer, -⟩ := h.counted hs
  obtain ⟨u, hsettle, hafter⟩ := run_cons_eq_some.1 h.notes
  have hsettle' := step_eq_some_iff.1 hsettle
  have hnone : beginner? s₂ u (.settle k) = none :=
    hs₂.beginner?_eq_none hsettle' (k := k) (by rw [hk]; rfl) (by simp [hk])
  have hu : u.session = (s₂.session.settle s₂.now outcome).1 ∧
      u.callers k = .leaving (s₂.session.settle s₂.now outcome).2 ∧ u.now = s₂.now := by
    cases hsettle' with
    | settled hphase =>
      obtain rfl := Phase.counted.inj (hphase.symm.trans hk)
      exact ⟨rfl, put_callers_self, rfl⟩
  have hatt : ∀ i ∈ cs,
      (u.callers i).Attends s₁.outcomes.length (s₂.session.settle s₂.now outcome).2 := by
    intro i hi
    by_cases hne : i = k
    · rw [hne, hu.2.1]
      exact rfl
    · obtain ⟨n, hn, hle⟩ := hwait i hi hne
      rw [hsettle'.callers_eq fun hc ↦ hne (Option.some.inj hc).symm, hn]
      exact hle
  have honly : ∀ m ∈ after, m.IsOf cs := fun m hm ↦ h.only m (by simp [hm])
  rw [logins_cons hsettle, hnone]
  cases outcome with
  | ok grant =>
    refine attend_run hafter honly (by rw [hu.1]; rfl) ?_ hatt
    intro pre j post v hsplit hpost hv
    exact h.fresh grant rfl pre j post v hsplit hpost (run_cons_eq_some.2 ⟨u, hsettle, hv⟩)
  | error f =>
    refine refuse_run hafter honly ?_ (by rw [hu.1]; rfl) (by rwa [hs₂.attempts_eq]) hatt
    rw [hu.1, hu.2.2]
    exact valid?_reject.trans (hs₂.valid?_eq_none k (by rw [hk]; rfl))

/-- Everyone attends to the outcome of the one login. -/
theorem attends (h : Crowd cs s₀ s₁ s₂ s before between after k outcome) (hs : s₀.Coherent) :
    (∀ i ∈ cs, (s.callers i).Attends s₁.outcomes.length (s₂.session.settle s₂.now outcome).2) ∧
      s₀.logins (before ++ .answer k outcome :: between ++ .settle k :: after) = [k] := by
  obtain ⟨n, hk⟩ := h.loggingIn
  obtain ⟨-, -, -, hcounted⟩ := h.counted hs
  obtain ⟨hatt, hshared⟩ := h.shared hs
  refine ⟨hatt, ?_⟩
  rw [logins_append (run_append_eq_some.2 ⟨s₁, h.begins, h.ends⟩), logins_append h.begins,
    h.logins_before hs hk, hcounted, hshared]
  rfl

/-- Callers that are not of the crowd stay as they were. -/
theorem callers_eq (h : Crowd cs s₀ s₁ s₂ s before between after k outcome) (hi : i ∉ cs) :
    s.callers i = s₀.callers i :=
  run_preserves (P := fun u ↦ u.callers i = s₀.callers i)
    (fun _ m _ hm ht hu ↦ by
      rw [ht.callers_eq fun hc ↦ hi ((h.only m hm).1 i hc), hu]) h.run rfl

/-- When nobody of the crowd has a step left, everybody has ended: whoever holds the lock can go on,
and if nobody does, whoever waits is let in. -/
theorem done (h : Crowd cs s₀ s₁ s₂ s before between after k outcome) (hs : s₀.Coherent)
    (hatt : ∀ i ∈ cs, (s.callers i).Attends bound result) (hi : i ∈ cs) :
    s.callers i = .done result := by
  have hcoherent : s.Coherent := hs.run h.run
  have hmove : ∀ j ∈ cs, ∀ m, m.caller? = some j → m ≠ .cancel j → s.step m = none := by
    intro j hj m hm hcancel
    refine h.exhausted m (by rw [hm]; rfl) ⟨fun i hi ↦ Option.some.inj (hm.symm.trans hi) ▸ hj, ?_⟩
    rintro i rfl
    obtain rfl := Option.some.inj hm
    exact hcancel rfl
  -- nobody of the crowd holds the lock, since whoever does can go on
  have hout : ∀ j ∈ cs, (s.callers j).holdsLock ≠ true := by
    intro j hj hlock
    have hattj := hatt j hj
    cases hphase : s.callers j with
    | deciding n => simpa [step, hphase] using hmove j hj (.choose j) rfl (by simp)
    | leaving result' => simpa [step, hphase] using hmove j hj (.leave j) rfl (by simp)
    | _ => simp [hphase, Phase.Attends, Phase.holdsLock] at hattj hlock
  -- nor does a caller that is not of the crowd hold the lock, since none of them was active
  have hfree : s.holder = none := by
    rw [Option.eq_none_iff_forall_ne_some]
    intro j hj
    have hlock := (hcoherent.holdsLock_iff j).2 hj
    by_cases hmem : j ∈ cs
    · exact hout j hmem hlock
    · rw [h.callers_eq hmem] at hlock
      have hquiet := h.quiet j
      cases hphase : s₀.callers j <;> simp [hphase, Phase.isActive, Phase.holdsLock] at hquiet hlock
  have hatti := hatt i hi
  cases hphase : s.callers i with
  | waiting n => simpa [step, hphase, hfree] using hmove i hi (.enter i) rfl (by simp)
  | deciding n => exact absurd (by rw [hphase]; rfl) (hout i hi)
  | leaving result' => exact absurd (by rw [hphase]; rfl) (hout i hi)
  | done result' =>
    rw [hphase] at hatti
    exact congrArg Phase.done hatti
  | _ =>
    rw [hphase] at hatti
    exact hatti.elim

/-- A token that is good at the end of a run, and that nobody forgets, is good whenever somebody
looks at it. -/
theorem fresh_of_end {token : SessionToken} (hrun : s₂.run (.settle k :: after) = some s)
    (hinv : .invalidate ∉ after) (hgood : token.isExpiredAt s.now = false)
    {pre post : List Move} {j : Nat}
    (hsplit : after = pre ++ .choose j :: post) (hu : s₂.run (.settle k :: pre) = some u) :
    .invalidate ∉ pre ∧ token.isExpiredAt u.now = false := by
  subst hsplit
  refine ⟨fun hmem ↦ hinv (List.mem_append_left _ hmem), ?_⟩
  have hall : s₂.run ((.settle k :: pre) ++ .choose j :: post) = some s := hrun
  obtain ⟨v, hv, hrest⟩ := run_append_eq_some.1 hall
  obtain rfl := Option.some.inj (hu.symm.trans hv)
  by_contra hexp
  rw [SessionToken.isExpiredAt_of_le (now_le_run hrest) (by simpa using hexp)] at hgood
  cases hgood

end Crowd

/-! ### Single flight -/

/-- However callers, time and the forgetting of tokens interleave: no two callers are logging in;
whoever begins to log in holds the lock, finds the token absent or expired, and has queued, and the
last of the logins that ended since then, if any did, has not failed; and callers that come together
log in once and all leave with the outcome of that login. -/
theorem login_single_flight {now : Instant} {past : List Move}
    (hpast : ({ now } : System).run past = some s) :
    (∀ i j, (s.callers i).isLoggingIn = true → (s.callers j).isLoggingIn = true → i = j) ∧
      (∀ m s' i, s.step m = some s' → beginner? s s' m = some i →
        s.holder = some i ∧
          (∀ token, s.session.token = some token → token.isExpiredAt s.now = true) ∧
          .queue i ∈ past ∧
          ∀ before between q, past = before ++ .queue i :: between →
            ({ now } : System).run before = some q →
              ∃ since, s.outcomes = since ++ q.outcomes ∧ ∀ f, since.head? ≠ some (.error f)) ∧
      ∀ cs s₁ s₂ t before between after k outcome,
        Crowd cs s s₁ s₂ t before between after k outcome →
          s.logins (before ++ .answer k outcome :: between ++ .settle k :: after) = [k] ∧
            ∀ i ∈ cs, t.callers i = .done (s₂.session.settle s₂.now outcome).2 := by
  have hs : s.Coherent := coherent_of_run hpast
  refine ⟨fun i j hi hj ↦ ?_, fun m s' i hm hbegin ↦ ?_, ?_⟩
  · exact hs.eq_of_holdsLock (Phase.holdsLock_of_isLoggingIn hi) (Phase.holdsLock_of_isLoggingIn hj)
  · have h := step_eq_some_iff.1 hm
    obtain ⟨-, n, hphase, hd⟩ := h.beginner?_eq_some_iff.1 hbegin
    have hseen : (s.callers i).observed? = some n := by rw [hphase]; rfl
    refine ⟨(hs.holdsLock_iff i).1 (h.holdsLock_of_beginner? hbegin),
      valid?_eq_none_iff.1 (decision_eq_logIn_iff.1 hd).1, queue_mem_of_observed? hpast hseen, ?_⟩
    rintro before between q rfl hq
    obtain rfl := observed?_eq_of_queue (coherent_init now) hq hpast hseen
    obtain ⟨u, hu, hrest⟩ := run_append_eq_some.1 hpast
    obtain rfl := Option.some.inj (hq.symm.trans hu)
    exact hs.no_newer_failure hphase hd (outcomes_suffix_run hrest)
  · intro cs s₁ s₂ t before between after k outcome h
    obtain ⟨hatt, hlogins⟩ := h.attends hs
    exact ⟨hlogins, fun i hi ↦ h.done hs hatt hi⟩

/-- A caller that looks at the count only after a login has failed logs in itself; and of two
callers that come together the second looks at the token 54 seconds after it was issued for 60. -/
theorem login_single_flight_pair :
    (∃ s s', ({} : System).run
          [.look 0, .look 1, .queue 0, .enter 0, .choose 0, .answer 0 (.error .rateLimited),
            .settle 0, .queue 1, .leave 0, .enter 1] = some s ∧
        s.step (.choose 1) = some s' ∧ beginner? s s' (.choose 1) = some 1 ∧ s.holder = some 1) ∧
      ∃ s₁ s₂ t,
        Crowd {0, 1} {} s₁ s₂ t [.look 0, .look 1, .queue 1, .queue 0, .enter 0, .choose 0]
            [.tick 1000] [.leave 0, .tick 54000, .enter 1, .choose 1, .leave 1] 0
            (.ok ⟨⟨"token"⟩, some 60000⟩) ∧
          ∀ i ∈ ({0, 1} : Finset Nat),
            t.callers i = .done (.ok ⟨⟨"token"⟩, ⟨1000⟩, some 60000⟩) := by
  constructor
  · have hpast : ({} : System).run
        [.look 0, .look 1, .queue 0, .enter 0, .choose 0, .answer 0 (.error .rateLimited),
          .settle 0, .queue 1, .leave 0, .enter 1] = some _ := rfl
    obtain ⟨hholder, -⟩ := (login_single_flight hpast).2.1 (.choose 1) _ 1 rfl rfl
    exact ⟨_, _, hpast, rfl, rfl, hholder⟩
  · have h : Crowd {0, 1} {} _ _ _ [.look 0, .look 1, .queue 1, .queue 0, .enter 0, .choose 0]
        [.tick 1000] [.leave 0, .tick 54000, .enter 1, .choose 1, .leave 1] 0
        (.ok ⟨⟨"token"⟩, some 60000⟩) := {
      quiet := fun _ ↦ rfl
      idle := fun _ _ ↦ rfl
      only := by simp [Move.IsOf, Move.caller?]
      begins := rfl
      seen := by
        intro i hi
        obtain rfl | rfl : i = 0 ∨ i = 1 := by simpa using hi
        all_goals rfl
      ends := rfl
      notes := rfl
      fresh := by
        rintro grant hgrant pre j post u hsplit - hu
        obtain rfl := Except.ok.inj hgrant
        exact Crowd.fresh_of_end rfl (by simp) rfl hsplit hu
      exhausted := by
        intro m hm hof
        obtain ⟨i, hi⟩ := Option.isSome_iff_exists.1 hm
        obtain rfl | rfl : i = 0 ∨ i = 1 := by simpa using hof.1 i hi
        all_goals exact step_eq_none_of_done rfl hi }
    have hpast : ({} : System).run [] = some {} := rfl
    obtain ⟨-, hdone⟩ := (login_single_flight hpast).2.2 _ _ _ _ _ _ _ _ _ h
    exact ⟨_, _, _, h, hdone⟩

end System

end VaultAccess.Session
