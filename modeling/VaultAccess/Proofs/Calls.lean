import VaultAccess.Backend
import VaultAccess.Proofs.Actions

/-!
# The calls of an action

Services act on the world through the calls of a backend, and a backend can be anything. `b.Leads s
calls t` says that the calls, with their outcomes and the oldest first, lead from the scene `s` to
the scene `t`; what is logged in between does not matter. What can be expected of a backend is said
about such histories.

To say which calls an action makes, `Backend.watched` adds a record to any backend. Watching changes
nothing else: `b.Makes a' a s calls` says that an action `a'` on the watched backend does in the
scene `s` what `a` does on the backend itself, and that just these calls are recorded and lead to
where the action ends. `Makes` goes along with the structure of actions (`Makes.bind_ok`,
`Makes.bind_error`), so the calls of an action are put together from those of its parts.

Where it does not matter which calls an action makes, `b.Straight a` says no more than that it makes
calls, and that a call that has failed is the last: nothing is tried again.
-/

namespace VaultAccess.Backend

variable {σ α β : Type}

/-! ### Calls -/

/-- A call of a backend. -/
inductive Call where
  | read (engine name : String) (version : Option UInt32)
  | write (engine name : String) (fields : NameMap String)
  | encrypt (engine key plaintext : String)
  | decrypt (engine key ciphertext : String)
  | readCredentials (path : String)

/-- What a call yields if it succeeds. -/
abbrev Call.Answer : Call → Type
  | .read _ _ _ => Option (NameMap Json)
  | .write _ _ _ => Option UInt32
  | .encrypt _ _ _ => String
  | .decrypt _ _ _ => String
  | .readCredentials _ => Option Reply.Database

/-- Make a call. -/
def make (b : Backend σ) : (c : Call) → Action σ c.Answer
  | .read engine name version => b.read engine name version
  | .write engine name fields => b.write engine name fields
  | .encrypt engine key plaintext => b.encrypt engine key plaintext
  | .decrypt engine key ciphertext => b.decrypt engine key ciphertext
  | .readCredentials path => b.readCredentials path

/-- A call that was made, and its outcome. -/
structure Answered where
  call : Call
  outcome : Except Failure call.Answer

/-! ### Histories -/

/-- Calls lead from one scene to another. -/
inductive Leads (b : Backend σ) : Scene σ → List Answered → Scene σ → Prop
  | refl {s : Scene σ} : Leads b s [] s
  | call {s t : Scene σ} {calls : List Answered} (c : Call)
      (h : Leads b ((b.make c).perform s).2 calls t) :
      Leads b s (⟨c, ((b.make c).perform s).1⟩ :: calls) t
  | log {s t : Scene σ} {calls : List Answered} (log : List Event)
      (h : Leads b ⟨s.state, log⟩ calls t) : Leads b s calls t

/-! ### The record -/

/-- A state with a record of calls, the oldest first. -/
structure Watched (σ : Type) where
  state : σ
  calls : List Answered := []

/-- Make a call and record it. -/
def watch (b : Backend σ) (c : Call) : Action (Watched σ) c.Answer :=
  ExceptT.mk fun s ↦
    let (outcome, t) := (b.make c).perform ⟨s.state.state, s.log⟩
    (outcome, ⟨⟨t.state, s.state.calls ++ [⟨c, outcome⟩]⟩, t.log⟩)

/-- A backend with its calls recorded. -/
def watched (b : Backend σ) : Backend (Watched σ) where
  read engine name version := b.watch (.read engine name version)
  write engine name fields := b.watch (.write engine name fields)
  encrypt engine key plaintext := b.watch (.encrypt engine key plaintext)
  decrypt engine key ciphertext := b.watch (.decrypt engine key ciphertext)
  readCredentials path := b.watch (.readCredentials path)

/-- A scene with a record of the calls so far. -/
def recorded (s : Scene σ) (calls : List Answered) : Scene (Watched σ) :=
  ⟨⟨s.state, calls⟩, s.log⟩

/-- Watched, an action does what it does anyway, and these are the calls that it makes. -/
structure Makes (b : Backend σ) (a' : Action (Watched σ) α) (a : Action σ α) (s : Scene σ)
    (calls : List Answered) : Prop where
  leads : b.Leads s calls (a.perform s).2
  perform_recorded : ∀ before, a'.perform (recorded s before) =
    ((a.perform s).1, recorded (a.perform s).2 (before ++ calls))

/-! ### The calls of the parts of an action -/

variable {b : Backend σ} {s t u : Scene σ} {a : Action σ α} {a' : Action (Watched σ) α}
  {f : α → Action σ β} {f' : α → Action (Watched σ) β} {g : α → β} {x : α}
  {e : Failure} {calls more : List Answered}

theorem Leads.append (h : b.Leads s calls t) (hmore : b.Leads t more u) :
    b.Leads s (calls ++ more) u := by
  induction h with
  | refl => exact hmore
  | call c _ ih => exact .call c (ih hmore)
  | log log _ ih => exact .log log (ih hmore)

/-- What every call keeps is kept by a history. -/
theorem Leads.preserves {P : σ → Prop} (hcall : ∀ c s, P s.state → P ((b.make c).perform s).2.state)
    (h : b.Leads s calls t) (hs : P s.state) : P t.state := by
  induction h with
  | refl => exact hs
  | call c _ ih => exact ih (hcall c _ hs)
  | log _ _ ih => exact ih hs

/-- Every call in a history was answered by the backend. -/
theorem Leads.answered (h : b.Leads s calls t) {made : Answered} (hmade : made ∈ calls) :
    ∃ u, made = ⟨made.call, ((b.make made.call).perform u).1⟩ := by
  induction h with
  | refl => cases hmade
  | @call s _ _ c _ ih =>
    rcases List.mem_cons.1 hmade with rfl | hmade
    · exact ⟨s, rfl⟩
    · exact ih hmade
  | log _ _ ih => exact ih hmade

/-- A call makes itself. -/
theorem makes_call (c : Call) :
    b.Makes (b.watch c) (b.make c) s [⟨c, ((b.make c).perform s).1⟩] :=
  ⟨.call c .refl, fun _ ↦ rfl⟩

theorem makes_pure : b.Makes (pure x) (pure x : Action σ α) s [] :=
  ⟨.refl, fun before ↦ by rw [List.append_nil]; rfl⟩

theorem makes_emit {event : Event} :
    b.Makes (Action.emit event) (Action.emit event : Action σ Unit) s [] :=
  ⟨.log (event :: s.log) .refl, fun before ↦ by rw [List.append_nil]; rfl⟩

theorem makes_orFail {o : Option α} :
    b.Makes (Action.orFail e o) (Action.orFail e o : Action σ α) s [] := by
  cases o with
  | none => exact ⟨.refl, fun before ↦ by rw [List.append_nil]; rfl⟩
  | some x => exact makes_pure

theorem makes_ofExcept {r : Except Failure α} :
    b.Makes (Action.ofExcept r) (Action.ofExcept r : Action σ α) s [] :=
  ⟨.refl, fun before ↦ by rw [List.append_nil]; rfl⟩

/-- Of two actions one after the other the first makes its calls first. -/
theorem Makes.bind_ok (h : b.Makes a' a s calls) (ha : a.perform s = (.ok x, t))
    (hf : b.Makes (f' x) (f x) t more) : b.Makes (a' >>= f') (a >>= f) s (calls ++ more) := by
  have hleads : b.Leads s calls t := by simpa only [ha] using h.leads
  constructor
  · rw [Action.perform_bind_of_ok ha]
    exact hleads.append hf.leads
  · intro before
    have ha' : a'.perform (recorded s before) = (.ok x, recorded t (before ++ calls)) := by
      rw [h.perform_recorded before, ha]
    rw [Action.perform_bind_of_ok ha', Action.perform_bind_of_ok ha, hf.perform_recorded,
      List.append_assoc]

/-- If the first fails, the second makes no calls. -/
theorem Makes.bind_error (h : b.Makes a' a s calls) (ha : a.perform s = (.error e, t)) :
    b.Makes (a' >>= f') (a >>= f) s calls := by
  constructor
  · rw [Action.perform_bind_of_error ha]
    simpa only [ha] using h.leads
  · intro before
    have ha' : a'.perform (recorded s before) = (.error e, recorded t (before ++ calls)) := by
      rw [h.perform_recorded before, ha]
    rw [Action.perform_bind_of_error ha', Action.perform_bind_of_error ha]

/-- Making another value of the one that an action yields takes no call. -/
theorem Makes.bind_pure (h : b.Makes a' a s calls) :
    b.Makes (a' >>= fun x ↦ pure (g x)) (a >>= fun x ↦ pure (g x)) s calls := by
  constructor
  · rw [Action.perform_bind_pure]
    exact h.leads
  · intro before
    rw [Action.perform_bind_pure, Action.perform_bind_pure, h.perform_recorded before]

/-- Wording a failure in another way takes no call. -/
theorem Makes.mapFailure {wording : Failure → Failure} (h : b.Makes a' a s calls) :
    b.Makes (Action.mapFailure wording a') (Action.mapFailure wording a) s calls := by
  constructor
  · rw [Action.perform_mapFailure]
    exact h.leads
  · intro before
    rw [Action.perform_mapFailure, Action.perform_mapFailure, h.perform_recorded before]

/-- Logging an event after an action takes no call. -/
theorem Makes.andEmit {event : Event} (h : b.Makes a' a s calls) :
    b.Makes (a' >>= fun x ↦ Action.emit event >>= fun _ ↦ pure x)
      (a >>= fun x ↦ Action.emit event >>= fun _ ↦ pure x) s calls := by
  rcases ha : a.perform s with ⟨e | x, t⟩
  · exact h.bind_error ha
  · rw [← List.append_nil calls]
    exact h.bind_ok ha (makes_emit.bind_ok Action.perform_emit makes_pure)

/-- Logging an encryption takes no call, and its outcome is that of the encryption. -/
theorem encryptLogged_makes (engine key plaintext : String) :
    b.Makes (b.watched.encryptLogged engine key plaintext) (b.encryptLogged engine key plaintext) s
      [⟨.encrypt engine key plaintext,
        ((b.encryptLogged engine key plaintext).perform s).1⟩] := by
  have houtcome : ((b.encryptLogged engine key plaintext).perform s).1 =
      ((b.encrypt engine key plaintext).perform s).1 := Action.perform_bind_emit_pure
  rw [houtcome]
  exact (makes_call (.encrypt engine key plaintext)).andEmit

/-- Logging a decryption takes no call, and its outcome is that of the decryption. -/
theorem decryptLogged_makes (engine key ciphertext : String) :
    b.Makes (b.watched.decryptLogged engine key ciphertext) (b.decryptLogged engine key ciphertext) s
      [⟨.decrypt engine key ciphertext,
        ((b.decryptLogged engine key ciphertext).perform s).1⟩] := by
  have houtcome : ((b.decryptLogged engine key ciphertext).perform s).1 =
      ((b.decrypt engine key ciphertext).perform s).1 := Action.perform_bind_emit_pure
  rw [houtcome]
  exact (makes_call (.decrypt engine key ciphertext)).andEmit

/-! ### Actions that go straight -/

/-- An action that comes about by calls alone and makes none after one that has failed. -/
def Straight (b : Backend σ) (a : Action σ α) : Prop :=
  ∀ s, ∃ (done : List Answered) (failed : Option Answered),
    b.Leads s (done ++ failed.toList) (a.perform s).2 ∧
      (∀ x ∈ done, x.outcome.isOk = true) ∧ (∀ x ∈ failed, x.outcome.isOk = false) ∧
      ((a.perform s).1.isOk = true → failed = none)

theorem straight_make (c : Call) : b.Straight (b.make c) := by
  intro s
  cases hok : ((b.make c).perform s).1.isOk with
  | true => exact ⟨[⟨c, _⟩], none, .call c .refl, by simpa using hok, nofun, fun _ ↦ rfl⟩
  | false => exact ⟨[], some ⟨c, _⟩, .call c .refl, nofun, by simpa using hok, nofun⟩

theorem straight_pure : b.Straight (pure x : Action σ α) :=
  fun _ ↦ ⟨[], none, .refl, nofun, nofun, fun _ ↦ rfl⟩

theorem straight_ofExcept {r : Except Failure α} : b.Straight (Action.ofExcept r) :=
  fun _ ↦ ⟨[], none, .refl, nofun, nofun, fun _ ↦ rfl⟩

theorem straight_orFail {o : Option α} : b.Straight (Action.orFail e o : Action σ α) := by
  cases o with
  | none => exact fun _ ↦ ⟨[], none, .refl, nofun, nofun, fun _ ↦ rfl⟩
  | some x => exact straight_pure

theorem straight_emit {event : Event} : b.Straight (Action.emit event : Action σ Unit) :=
  fun s ↦ ⟨[], none, .log (event :: s.log) .refl, nofun, nofun, fun _ ↦ rfl⟩

/-- After an action that fails nothing is called. -/
theorem Straight.bind (ha : b.Straight a) (hf : ∀ x, b.Straight (f x)) :
    b.Straight (a >>= f) := by
  intro s
  obtain ⟨done, failed, hleads, hdone, hfailed, hnone⟩ := ha s
  rcases h : a.perform s with ⟨e | x, t⟩
  · rw [h] at hleads
    rw [Action.perform_bind_of_error h]
    exact ⟨done, failed, hleads, hdone, hfailed, nofun⟩
  · rw [h] at hleads hnone
    obtain rfl := hnone rfl
    obtain ⟨later, failed, hlater, hok, hfailed, hnone⟩ := hf x t
    rw [Action.perform_bind_of_ok h]
    refine ⟨done ++ later, failed, ?_, ?_, hfailed, hnone⟩
    · simpa using hleads.append hlater
    · exact fun y hy ↦ (List.mem_append.1 hy).elim (hdone y) (hok y)

theorem Straight.mapFailure {wording : Failure → Failure} (ha : b.Straight a) :
    b.Straight (Action.mapFailure wording a) := by
  intro s
  obtain ⟨done, failed, hleads, hdone, hfailed, hnone⟩ := ha s
  rw [Action.perform_mapFailure]
  refine ⟨done, failed, hleads, hdone, hfailed, fun hok ↦ hnone ?_⟩
  rcases h : (a.perform s).1 with e | x
  · rw [h] at hok
    cases hok
  · rfl

end VaultAccess.Backend
