import VaultAccess.Action

/-!
# How actions go

What each of the parts that actions are made of does to its surroundings. `perform_bind` is the one
place where an action is taken apart: the second of two actions is performed in what the first has
left, unless the first fails.
-/

namespace VaultAccess.Action

variable {σ α β : Type} {s t : Scene σ} {a : Action σ α} {f : α → Action σ β} {g : α → β} {x : α}
  {e : Failure}

@[simp] theorem perform_pure : (pure x : Action σ α).perform s = (.ok x, s) := rfl

@[simp] theorem perform_emit {event : Event} :
    (emit event : Action σ Unit).perform s = (.ok (), { s with log := event :: s.log }) := rfl

@[simp] theorem perform_ofExcept {r : Except Failure α} :
    (ofExcept r : Action σ α).perform s = (r, s) := rfl

@[simp] theorem perform_orFail_some : (orFail e (some x) : Action σ α).perform s = (.ok x, s) := rfl

@[simp] theorem perform_orFail_none :
    (orFail e (none : Option α) : Action σ α).perform s = (.error e, s) := rfl

/-- Looking whether something is there leaves the surroundings as they are. -/
theorem perform_orFail_snd {o : Option α} : ((orFail e o : Action σ α).perform s).2 = s := by
  cases o <;> rfl

@[simp] theorem perform_attempt :
    a.attempt.perform s = (.ok (a.perform s).1, (a.perform s).2) := rfl

@[simp] theorem perform_mapFailure {wording : Failure → Failure} :
    (mapFailure wording a).perform s = ((a.perform s).1.mapError wording, (a.perform s).2) := rfl

/-- One action after another. -/
theorem perform_bind :
    (a >>= f).perform s =
      match a.perform s with
      | (.ok x, t) => (f x).perform t
      | (.error e, t) => (.error e, t) := by
  show ExceptT.bindCont f (a.perform s).1 (a.perform s).2 = _
  rcases a.perform s with ⟨e | x, t⟩ <;> rfl

/-- What comes after a value is done with it. -/
theorem perform_bind_of_ok (h : a.perform s = (.ok x, t)) :
    (a >>= f).perform s = (f x).perform t := by
  rw [perform_bind, h]

/-- Nothing comes after a failure. -/
theorem perform_bind_of_error (h : a.perform s = (.error e, t)) :
    (a >>= f).perform s = (.error e, t) := by
  rw [perform_bind, h]

/-- Of two actions one after the other both succeed, or there is no success. -/
theorem perform_bind_eq_ok_iff {y : β} :
    (a >>= f).perform s = (.ok y, t) ↔
      ∃ x u, a.perform s = (.ok x, u) ∧ (f x).perform u = (.ok y, t) := by
  constructor
  · intro h
    rcases ha : a.perform s with ⟨e | x, u⟩
    · rw [perform_bind_of_error ha] at h
      cases h
    · exact ⟨x, u, rfl, perform_bind_of_ok ha ▸ h⟩
  · rintro ⟨x, u, ha, hf⟩
    rw [perform_bind_of_ok ha, hf]

/-- An action whose value is made into another one. -/
theorem perform_bind_pure :
    (a >>= fun x ↦ pure (g x)).perform s = ((a.perform s).1.map g, (a.perform s).2) := by
  rw [perform_bind]
  rcases a.perform s with ⟨e | x, t⟩ <;> rfl

/-- An action after which nothing is done. -/
theorem perform_bind_snd (hf : ∀ x t, ((f x).perform t).2 = t) :
    ((a >>= f).perform s).2 = (a.perform s).2 := by
  rw [perform_bind]
  rcases a.perform s with ⟨e | x, t⟩
  · rfl
  · exact hf x t

/-- An action after which an event is logged. -/
theorem perform_bind_emit {a : Action σ Unit} {event : Event} :
    ((a >>= fun _ ↦ emit event).perform s).1 = (a.perform s).1 := by
  rw [perform_bind]
  rcases a.perform s with ⟨e | x, t⟩ <;> rfl

/-- Logging an event after an action keeps the outcome. -/
theorem perform_bind_emit_pure {event : Event} :
    ((a >>= fun x ↦ emit event >>= fun _ ↦ pure x).perform s).1 = (a.perform s).1 := by
  rw [perform_bind]
  rcases a.perform s with ⟨e | x, t⟩ <;> rfl

end VaultAccess.Action
