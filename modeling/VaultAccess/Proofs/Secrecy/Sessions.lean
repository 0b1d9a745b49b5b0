import VaultAccess.Proofs.Secrecy.Requests
import VaultAccess.Session.Obtain

/-!
# Sessions that are alike

Two sessions are alike if they differ at most in the token that they keep. What a session decides
depends on whether there is a token, when it was issued and how long it holds, so sessions that are
alike decide alike, and obtaining a token in them acts alike: the same logins are made, the same is
logged, and the tokens that are obtained are alike again.
-/

namespace VaultAccess

/-- Two tokens of a session are alike: they hold for the same time. -/
structure SessionToken.Alike (t t' : SessionToken) : Prop where
  value : t.value.Alike t'.value
  issuedAt : t.issuedAt = t'.issuedAt
  lease : t.lease = t'.lease

/-- What two logins yield is alike. -/
structure Grant.Alike (g g' : Grant) : Prop where
  token : g.token.Alike g'.token
  lease : g.lease = g'.lease

/-- Two sessions are alike: they differ at most in the token. -/
structure Session.Alike (s s' : Session) : Prop where
  token : Option.Rel SessionToken.Alike s.token s'.token
  attempts : s.attempts = s'.attempts
  lastFailure : s.lastFailure = s'.lastFailure

/-- Two links are alike: their sessions are, and the states outside are. -/
structure Link.Alike {ν μ : Type} (R : ν → μ → Prop) (l : Link ν) (l' : Link μ) : Prop where
  session : l.session.Alike l'.session
  outside : R l.outside l'.outside

/-! ### Decisions -/

/-- When a token expires is told by its lease and by when it was issued. -/
theorem SessionToken.Alike.isExpiredAt_eq {t t' : SessionToken} {now : Instant} (h : t.Alike t') :
    t.isExpiredAt now = t'.isExpiredAt now := by
  rw [isExpiredAt, isExpiredAt, h.lease, h.issuedAt]

namespace Session

variable {s s' : Session} {outcome outcome' : Except Failure Grant}

/-- Two decisions are alike: they differ at most in a token. -/
inductive Decision.Alike : Decision → Decision → Prop
  | use {t t' : SessionToken} (h : t.Alike t') : Alike (.use t) (.use t')
  | share (fault : AuthenticationFault) : Alike (.share fault) (.share fault)
  | logIn : Alike .logIn .logIn

/-- Both sessions have a valid token, or neither has one. -/
theorem Alike.valid? (h : s.Alike s') (now : Instant) :
    Option.Rel SessionToken.Alike (s.valid? now) (s'.valid? now) := by
  rcases s with ⟨token, _, _⟩
  rcases s' with ⟨token', _, _⟩
  obtain ⟨htoken, -, -⟩ := h
  cases htoken with
  | none => exact .none
  | @some t t' h =>
    show Option.Rel _ (Option.filter _ (some t)) (Option.filter _ (some t'))
    rw [Option.filter_some, Option.filter_some, h.isExpiredAt_eq]
    split
    · exact .some h
    · exact .none

/-- Whoever holds the lock decides the same in both sessions. -/
theorem Alike.decision (h : s.Alike s') (now : Instant) (observed : Nat) :
    Decision.Alike (s.decision now observed) (s'.decision now observed) := by
  have hvalid : Option.Rel SessionToken.Alike (s.valid? now) (s'.valid? now) :=
    h.valid? now
  rw [Session.decision, Session.decision, failureAfter?, failureAfter?, h.lastFailure]
  generalize s.valid? now = o at hvalid ⊢
  generalize s'.valid? now = o' at hvalid ⊢
  cases hvalid with
  | some h => exact .use h
  | none =>
    dsimp only
    split
    · exact .share _
    · exact .logIn

/-- Noting the outcome of a login leaves sessions that are alike, with tokens that are alike. -/
theorem Alike.settle (h : s.Alike s') (now : Instant)
    (ho : AlikeOutcomes Grant.Alike outcome outcome') :
    (s.settle now outcome).1.Alike (s'.settle now outcome').1 ∧
      AlikeOutcomes SessionToken.Alike (s.settle now outcome).2 (s'.settle now outcome').2 := by
  cases ho with
  | ok hg =>
    have htoken : (SessionToken.issue now _).Alike (SessionToken.issue now _) :=
      ⟨hg.token, rfl, hg.lease⟩
    exact ⟨⟨.some htoken, h.attempts, rfl⟩, .ok htoken⟩
  | error f =>
    exact ⟨⟨h.token, h.attempts, congrArg (fun n ↦ some (n, faultOf f)) h.attempts⟩, .error _⟩

theorem Alike.count (h : s.Alike s') : s.count.Alike s'.count :=
  ⟨h.token, congrArg (· + 1) h.attempts, h.lastFailure⟩

end Session

/-! ### Obtaining a token -/

namespace Link

open VaultAccess.Action

variable {ν μ α β : Type} {R : ν → μ → Prop} {V : α → β → Prop} {auth : Authenticator ν}
  {auth' : Authenticator μ} {observed : Nat} {l : Link ν} {l' : Link μ}

theorem outsideAction_alike {a : Action ν α} {b : Action μ β} (h : Action.Alike R V a b) :
    Action.Alike (Link.Alike R) V (outsideAction a) (outsideAction b) :=
  h.within (fun _ _ hl ↦ hl.outside) fun _ _ _ _ hl hu ↦ ⟨hl.session, hu⟩

/-- A change that keeps sessions alike is an action that does so and yields nothing. -/
theorem changeSession_alike {f g : Session → Session}
    (h : ∀ s s', s.Alike s' → (f s).Alike (g s')) :
    Action.Alike (Link.Alike R) Eq (changeSession f) (changeSession g) :=
  alike_modifyState fun _ _ hl ↦ ⟨h _ _ hl.session, hl.outside⟩

/-- What is logged about a login does not depend on the token. -/
theorem loginEvent_eq {r r' : Except AuthenticationFault SessionToken}
    (h : AlikeOutcomes SessionToken.Alike r r') : loginEvent r = loginEvent r' := by
  cases h with
  | ok h => rw [loginEvent, loginEvent, h.lease]
  | error fault => rfl

/-- Logging in acts alike where the ways to log in do and the clocks agree. -/
theorem logIn_alike (hlogin : Action.Alike R Grant.Alike auth.login auth'.login)
    (hnow : ∀ s t, R s t → auth.now s = auth'.now t) :
    Action.Alike (Link.Alike R) SessionToken.Alike (logIn auth) (logIn auth') := by
  refine (outsideAction_alike hlogin).attempt.bind fun outcome outcome' houtcome ↦ ?_
  refine (changeSession_alike fun _ _ h ↦ h.count).then (alike_state.bind fun l l' hl ↦ ?_)
  have hsettled := hl.session.settle (auth.now l.outside) houtcome
  rw [hnow _ _ hl.outside] at hsettled ⊢
  -- settling is a pair on both sides, of which only what `hsettled` says is needed
  generalize l.session.settle _ outcome = r at hsettled ⊢
  generalize l'.session.settle _ outcome' = r' at hsettled ⊢
  obtain ⟨session, result⟩ := r
  obtain ⟨session', result'⟩ := r'
  obtain ⟨hsession, hresult⟩ := hsettled
  refine (changeSession_alike fun _ _ _ ↦ hsession).then ?_
  rw [loginEvent_eq hresult]
  exact (alike_emit _).then (alike_ofExcept (hresult.mapError _))

/-- So does a turn with the lock, of which logging in is one end. -/
theorem takeTurn_alike (hlogin : Action.Alike R Grant.Alike auth.login auth'.login)
    (hnow : ∀ s t, R s t → auth.now s = auth'.now t) :
    Action.Alike (Link.Alike R) SessionToken.Alike (takeTurn auth observed)
      (takeTurn auth' observed) := by
  refine alike_state.bind fun l l' hl ↦ ?_
  have hdecision := hl.session.decision (auth.now l.outside) observed
  rw [hnow _ _ hl.outside] at hdecision ⊢
  generalize l.session.decision _ observed = d at hdecision ⊢
  generalize l'.session.decision _ observed = d' at hdecision ⊢
  cases hdecision with
  | use h => exact alike_pure h
  | share fault => exact alike_throw _
  | logIn => exact logIn_alike hlogin hnow

/-- Obtaining a token acts alike, and the tokens are alike that are obtained. -/
theorem obtain_alike (hlogin : Action.Alike R Grant.Alike auth.login auth'.login)
    (hnow : ∀ s t, R s t → auth.now s = auth'.now t) :
    Action.Alike (Link.Alike R) SessionToken.Alike (obtain auth) (obtain auth') := by
  refine alike_state.bind fun l l' hl ↦ ?_
  have hvalid := hl.session.valid? (auth.now l.outside)
  rw [hnow _ _ hl.outside] at hvalid ⊢
  rw [hl.session.attempts]
  generalize l.session.valid? _ = o at hvalid ⊢
  generalize l'.session.valid? _ = o' at hvalid ⊢
  cases hvalid with
  | some h => exact alike_pure h
  | none => exact takeTurn_alike hlogin hnow

end Link

end VaultAccess
