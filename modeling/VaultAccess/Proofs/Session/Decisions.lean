import VaultAccess.Session.Basic

/-!
# The decisions of a session

What has to be known of a session for each decision that a caller with the lock may take, and how
the answers change when time passes or the token is forgotten: a token that has expired stays
expired, so a session without a valid token gets one only by a login.
-/

namespace VaultAccess

/-- The later it is, the more time has passed. -/
theorem Instant.since_le_of_le {earlier now later : Instant} (h : now.millis ≤ later.millis) :
    now.since earlier ≤ later.since earlier := by
  show (now.millis - earlier.millis).toNat ≤ (later.millis - earlier.millis).toNat
  omega

/-- Expiry is for good. -/
theorem SessionToken.isExpiredAt_of_le {t : SessionToken} {now later : Instant}
    (h : now.millis ≤ later.millis) (hnow : t.isExpiredAt now = true) :
    t.isExpiredAt later = true := by
  rcases hlease : t.lease with - | lease
  · simp [isExpiredAt, hlease] at hnow
  · simp only [isExpiredAt, hlease, decide_eq_true_eq] at hnow ⊢
    exact Nat.le_trans hnow (Nat.div_le_div_right (Instant.since_le_of_le h))

namespace Session

variable {s : Session} {token : SessionToken} {fault : AuthenticationFault} {now later : Instant}
  {observed : Nat}

/-! ### Valid tokens -/

/-- A valid token is the one that is kept, as long as it has not expired. -/
theorem valid?_eq_some_iff :
    s.valid? now = some token ↔ s.token = some token ∧ token.isExpiredAt now = false := by
  simp [valid?, Option.filter_eq_some_iff]

/-- There is no valid token if there is none at all or it has expired. -/
theorem valid?_eq_none_iff :
    s.valid? now = none ↔ ∀ token, s.token = some token → token.isExpiredAt now = true := by
  simp [valid?, Option.filter_eq_none_iff]

/-- A session without a valid token does not get one by waiting. -/
theorem valid?_eq_none_of_le (h : now.millis ≤ later.millis) (hnow : s.valid? now = none) :
    s.valid? later = none :=
  valid?_eq_none_iff.2 fun token htoken ↦
    SessionToken.isExpiredAt_of_le h (valid?_eq_none_iff.1 hnow token htoken)

@[simp] theorem valid?_invalidate : s.invalidate.valid? now = none := rfl

@[simp] theorem valid?_count : s.count.valid? now = s.valid? now := rfl

@[simp] theorem valid?_reject : (s.reject fault).valid? now = s.valid? now := rfl

/-! ### Failures that are shared -/

/-- A failure is shared if it is that of a login counted after the count that was seen. -/
theorem failureAfter?_eq_some_iff :
    s.failureAfter? observed = some fault ↔
      ∃ attempt, s.lastFailure = some (attempt, fault) ∧ observed < attempt := by
  rcases hlast : s.lastFailure with - | ⟨attempt, fault'⟩
  · simp [failureAfter?, hlast]
  · simp only [failureAfter?, hlast, Option.some.injEq, Prod.mk.injEq]
    constructor
    · intro h
      split at h
      next hlt => exact ⟨attempt, ⟨rfl, Option.some.inj h⟩, hlt⟩
      next => cases h
    · rintro ⟨_, ⟨rfl, rfl⟩, hlt⟩
      exact if_pos hlt

/-! ### Decisions -/

/-- A token is used whenever there is a valid one. -/
theorem decision_eq_use_iff :
    s.decision now observed = .use token ↔ s.valid? now = some token := by
  rcases hvalid : s.valid? now with - | t
  · rcases hfail : s.failureAfter? observed with - | f <;> simp [decision, hvalid, hfail]
  · simp [decision, hvalid]

/-- A failure is shared only in want of a token. -/
theorem decision_eq_share_iff :
    s.decision now observed = .share fault ↔
      s.valid? now = none ∧ s.failureAfter? observed = some fault := by
  rcases hvalid : s.valid? now with - | t
  · rcases hfail : s.failureAfter? observed with - | f <;> simp [decision, hvalid, hfail]
  · simp [decision, hvalid]

/-- Only without a valid token and without a failure to share does a caller log in. -/
theorem decision_eq_logIn_iff :
    s.decision now observed = .logIn ↔
      s.valid? now = none ∧ s.failureAfter? observed = none := by
  rcases hvalid : s.valid? now with - | t
  · rcases hfail : s.failureAfter? observed with - | f <;> simp [decision, hvalid, hfail]
  · simp [decision, hvalid]

end Session

end VaultAccess
