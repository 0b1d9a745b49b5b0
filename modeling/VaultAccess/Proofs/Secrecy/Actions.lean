import Mathlib.Data.Option.Basic
import VaultAccess.Proofs.Actions

/-!
# Actions that act alike

Two actions act alike if nothing that can be seen of them differs: performed in surroundings that
are alike they log the same, they both fail, and with the same failure, or both yield a value, and
then the values and the states that they leave are alike. What it means for states and for values
to be alike is said by two relations, so a value that is secret may differ while all others have to
be equal.

Acting alike goes along with the structure of actions (`Alike.bind`), so it is proved of an action
by proving it of its parts.
-/

namespace VaultAccess

/-- Two outcomes are alike: the same failure, or values that are alike. -/
inductive AlikeOutcomes {ε α β : Type} (V : α → β → Prop) : Except ε α → Except ε β → Prop
  | ok {x : α} {y : β} (h : V x y) : AlikeOutcomes V (.ok x) (.ok y)
  | error (e : ε) : AlikeOutcomes V (.error e) (.error e)

namespace AlikeOutcomes

variable {ε δ α β : Type} {V : α → β → Prop} {r : Except ε α} {r' : Except ε β}

theorem refl (r : Except ε α) : AlikeOutcomes Eq r r := by
  cases r with
  | ok x => exact .ok rfl
  | error e => exact .error e

/-- Outcomes that are alike in equal values are equal. -/
theorem eq {r r' : Except ε α} (h : AlikeOutcomes Eq r r') : r = r' := by
  cases h with
  | ok h => rw [h]
  | error e => rfl

/-- The same wording of failures keeps outcomes alike. -/
theorem mapError (h : AlikeOutcomes V r r') (w : ε → δ) :
    AlikeOutcomes V (r.mapError w) (r'.mapError w) := by
  cases h with
  | ok h => exact .ok h
  | error e => exact .error (w e)

/-- Outcomes stay alike where less is asked of their values. -/
theorem mono (h : AlikeOutcomes V r r') {V' : α → β → Prop} (hV : ∀ x y, V x y → V' x y) :
    AlikeOutcomes V' r r' := by
  cases h with
  | ok h => exact .ok (hV _ _ h)
  | error e => exact .error e

end AlikeOutcomes

/-- Two scenes are alike: their states are, and the same has been logged. -/
structure AlikeScenes {σ τ : Type} (R : σ → τ → Prop) (s : Scene σ) (t : Scene τ) : Prop where
  state : R s.state t.state
  log : s.log = t.log

namespace Action

variable {σ τ σ' τ' α β α' β' : Type} {R : σ → τ → Prop} {S : σ' → τ' → Prop} {V : α → β → Prop}
  {W : α' → β' → Prop} {a : Action σ α} {b : Action τ β} {f : α → Action σ α'}
  {g : β → Action τ β'} {x : α} {y : β} {s : Scene σ} {t : Scene τ}

/-- Two actions act alike. -/
def Alike (R : σ → τ → Prop) (V : α → β → Prop) (a : Action σ α) (b : Action τ β) : Prop :=
  ∀ s t, AlikeScenes R s t → AlikeOutcomes V (a.perform s).1 (b.perform t).1 ∧
    AlikeScenes R (a.perform s).2 (b.perform t).2

/-- Values that are alike are yielded alike, and nothing is done. -/
theorem alike_pure (h : V x y) : Alike R V (pure x) (pure y) :=
  fun _ _ hs ↦ ⟨.ok h, hs⟩

/-- An event that is the same is logged alike. -/
theorem alike_emit (event : Event) : Alike R Eq (emit event) (emit event) :=
  fun _ _ hs ↦ ⟨.ok rfl, hs.state, congrArg (event :: ·) hs.log⟩

/-- What was computed outside of an action acts as its outcome does. -/
theorem alike_ofExcept {r : Except Failure α} {r' : Except Failure β} (h : AlikeOutcomes V r r') :
    Alike R V (ofExcept r) (ofExcept r') :=
  fun _ _ hs ↦ ⟨h, hs⟩

theorem alike_throw (e : Failure) : Alike R V (throw e : Action σ α) (throw e : Action τ β) :=
  fun _ _ hs ↦ ⟨.error e, hs⟩

theorem alike_orFail {o : Option α} {o' : Option β} (h : Option.Rel V o o') (e : Failure) :
    Alike R V (orFail e o) (orFail e o') := by
  cases h with
  | some h => exact alike_pure h
  | none => exact alike_throw e

/-- An outcome that depends on no secret acts alike. -/
theorem alike_ofExcept_self (r : Except Failure α) :
    Alike R Eq (ofExcept r : Action σ α) (ofExcept r : Action τ α) :=
  alike_ofExcept (.refl r)

theorem alike_orFail_self (e : Failure) (o : Option α) :
    Alike R Eq (orFail e o : Action σ α) (orFail e o : Action τ α) := by
  cases o with
  | some x => exact alike_pure rfl
  | none => exact alike_throw e

/-- Looking at states that are alike yields them. -/
theorem alike_state : Alike R R state state :=
  fun _ _ hs ↦ ⟨.ok hs.state, hs⟩

/-- Changing states acts alike where the changes keep them alike. -/
theorem alike_modifyState {f : σ → σ} {g : τ → τ} (h : ∀ s t, R s t → R (f s) (g t)) :
    Alike R Eq (modifyState f) (modifyState g) :=
  fun _ _ hs ↦ ⟨.ok rfl, h _ _ hs.state, hs.log⟩

/-- One after the other: what follows acts alike on values that are alike. -/
theorem Alike.bind (ha : Alike R V a b) (hf : ∀ x y, V x y → Alike R W (f x) (g y)) :
    Alike R W (a >>= f) (b >>= g) := by
  intro s t hs
  obtain ⟨houtcome, hscene⟩ := ha s t hs
  rcases h : a.perform s with ⟨r, s'⟩
  rcases h' : b.perform t with ⟨r', t'⟩
  rw [h, h'] at houtcome hscene
  cases houtcome with
  | ok hxy =>
    rw [perform_bind_of_ok h, perform_bind_of_ok h']
    exact hf _ _ hxy _ _ hscene
  | error e =>
    rw [perform_bind_of_error h, perform_bind_of_error h']
    exact ⟨.error e, hscene⟩

/-- What follows does not look at the value. -/
theorem Alike.then (ha : Alike R V a b) {c : Action σ α'} {d : Action τ β'} (hc : Alike R W c d) :
    Alike R W (a >>= fun _ ↦ c) (b >>= fun _ ↦ d) :=
  ha.bind fun _ _ _ ↦ hc

/-- What follows acts alike on a value that is the same. -/
theorem Alike.bind_eq {f : α → Action σ α'} {g : α → Action τ β'} {b : Action τ α}
    (ha : Alike R Eq a b) (hf : ∀ x, Alike R W (f x) (g x)) : Alike R W (a >>= f) (b >>= g) :=
  ha.bind fun x _ h ↦ h ▸ hf x

/-- What is done in spite of failures acts alike, and yields outcomes that are alike. -/
theorem Alike.attempt (ha : Alike R V a b) :
    Alike R (AlikeOutcomes V) a.attempt b.attempt := by
  intro s t hs
  obtain ⟨houtcome, hscene⟩ := ha s t hs
  exact ⟨.ok houtcome, hscene⟩

theorem Alike.mono {V' : α → β → Prop} (ha : Alike R V a b) (hV : ∀ x y, V x y → V' x y) :
    Alike R V' a b := by
  intro s t hs
  obtain ⟨houtcome, hscene⟩ := ha s t hs
  exact ⟨houtcome.mono hV, hscene⟩

/-- A failure that is put into other words is the same failure in both. -/
theorem Alike.mapFailure (ha : Alike R V a b) (wording : Failure → Failure) :
    Alike R V (Action.mapFailure wording a) (Action.mapFailure wording b) := by
  intro s t hs
  obtain ⟨houtcome, hscene⟩ := ha s t hs
  exact ⟨houtcome.mapError wording, hscene⟩

/-- Acting alike on parts that are alike leaves wholes that are alike. -/
theorem Alike.within {get : σ' → σ} {set : σ → σ' → σ'} {get' : τ' → τ} {set' : τ → τ' → τ'}
    (ha : Alike R V a b) (hget : ∀ s t, S s t → R (get s) (get' t))
    (hset : ∀ s t u v, S s t → R u v → S (set u s) (set' v t)) :
    Alike S V (a.within get set) (b.within get' set') := by
  intro s t hs
  obtain ⟨houtcome, hscene⟩ := ha ⟨get s.state, s.log⟩ ⟨get' t.state, t.log⟩
    ⟨hget _ _ hs.state, hs.log⟩
  exact ⟨houtcome, hset _ _ _ _ hs.state hscene.state, hscene.log⟩

end Action

end VaultAccess
