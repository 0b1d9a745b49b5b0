import VaultAccess.Proofs.Rotation.Steps

/-!
# Watching a pool

Pools are what their hooks do, and nothing says what they keep. `Pool.watched` is any pool with a
record of the calls of its hooks, in which each call stands with its text and with whether the pool
accepted it. The record is what statements about the pool's credentials are made about, so they hold
of every pool.

Watching a pool changes nothing: a run of a manager with the pool watched is a run without
(`run_unwatched`).

`update_watched` is the one place where the hooks of an update are taken apart. Whatever is said of
the calls of a rotation follows from it.
-/

namespace VaultAccess.Rotation

variable {π : Type} {pool : Pool π} {c : Credentials}

/-- One action after another. -/
theorem PoolAction.run_then (a b : PoolAction π Unit) (p : π) :
    (a >>= fun _ ↦ b).run p =
      match a.run p with
      | (.error e, p) => (.error e, p)
      | (.ok (), p) => b.run p := by
  show ExceptT.bindCont (fun _ ↦ b) (a.run p).1 (a.run p).2 = _
  rcases a.run p with ⟨e | ⟨⟩, q⟩ <;> rfl

/-- An update goes through the hooks up to the first that fails. -/
theorem Pool.update_run (p : π) :
    (pool.update c).run p =
      match (pool.setUsername c.username).run p with
      | (.error e, p) => (.error e, p)
      | (.ok (), p) =>
        match (pool.setPassword c.password).run p with
        | (.error e, p) => (.error e, p)
        | (.ok (), p) => pool.evict.run p := by
  rw [update, PoolAction.run_then]
  rcases (pool.setUsername c.username).run p with ⟨e | ⟨⟩, q⟩
  · rfl
  · exact PoolAction.run_then _ _ q

/-! ### The record -/

/-- A pool with a record of the calls of its hooks, the newest first. -/
structure Watched (π : Type) where
  pool : π
  calls : List HookCall := []

/-- Do something to a pool and record it. -/
def Watched.record (hook : Hook) (text : Option String) (a : PoolAction π Unit) :
    PoolAction (Watched π) Unit :=
  ExceptT.mk fun w ↦
    let (result, p) := a.run w.pool
    (result, ⟨p, ⟨hook, text, result.isOk⟩ :: w.calls⟩)

/-- A pool with its hooks recorded. -/
def Pool.watched (pool : Pool π) : Pool (Watched π) where
  setUsername name := Watched.record .setUsername (some name) (pool.setUsername name)
  setPassword password :=
    Watched.record .setPassword (some password.expose) (pool.setPassword password)
  evict := Watched.record .evict none pool.evict

/-- The calls of an update, the newest first, and whether it succeeds: it goes as far as the user
name, as far as the password, or all the way. -/
inductive Attempt (c : Credentials) : List HookCall → Bool → Prop
  | usernameRefused : Attempt c [⟨.setUsername, some c.username, false⟩] false
  | passwordRefused :
      Attempt c [⟨.setPassword, some c.password.expose, false⟩,
        ⟨.setUsername, some c.username, true⟩] false
  | accepted {evicted : Bool} :
      Attempt c [⟨.evict, none, evicted⟩, ⟨.setPassword, some c.password.expose, true⟩,
        ⟨.setUsername, some c.username, true⟩] evicted

/-- An update of a watched pool is an update of the pool, and its calls are recorded. -/
theorem Pool.update_watched (w : Watched π) :
    ∃ calls, (pool.watched.update c).run w =
        (((pool.update c).run w.pool).1, ⟨((pool.update c).run w.pool).2, calls ++ w.calls⟩) ∧
      Attempt c calls ((pool.update c).run w.pool).1.isOk := by
  rw [update_run, update_run]
  simp only [watched, Watched.record, ExceptT.run_mk]
  rcases (pool.setUsername c.username).run w.pool with ⟨e | ⟨⟩, p⟩
  · exact ⟨_, rfl, .usernameRefused⟩
  · dsimp only
    rcases (pool.setPassword c.password).run p with ⟨e | ⟨⟩, q⟩
    · exact ⟨_, rfl, .passwordRefused⟩
    · exact ⟨_, rfl, .accepted⟩

/-! ### Rotations of a watched pool -/

theorem deliver_ok (p : π) : Manager.deliver pool (.ok c) p =
    (((pool.update c).run p).1.map fun _ ↦ c.lease, ((pool.update c).run p).2) := rfl

/-- What is delivered to a watched pool is delivered to the pool. -/
theorem deliver_watched (pool : Pool π) (fetched : Except Failure Credentials) (w : Watched π) :
    (Manager.deliver pool.watched fetched w).1 = (Manager.deliver pool fetched w.pool).1 ∧
      (Manager.deliver pool.watched fetched w).2.pool =
        (Manager.deliver pool fetched w.pool).2 := by
  cases fetched with
  | error f => exact ⟨rfl, rfl⟩
  | ok c =>
    obtain ⟨calls, hupdate, -⟩ := pool.update_watched (c := c) w
    rw [deliver_ok, deliver_ok, hupdate]
    exact ⟨rfl, rfl⟩

namespace System

/-- The system without the record. -/
def unwatched (s : System (Watched π)) : System π where
  manager := s.manager
  pool := s.pool.pool
  now := s.now
  calls := s.calls
  log := s.log

variable {s t : System (Watched π)} {u v : System π} {m : Move} {ms : List Move}

theorem conclude_unwatched (pool : Pool π) (s : System (Watched π))
    (fetched : Except Failure Credentials) :
    conclude pool s.unwatched fetched =
      ((conclude pool.watched s fetched).1.unwatched, (conclude pool.watched s fetched).2) := by
  obtain ⟨hresult, hpool⟩ := deliver_watched pool fetched s.pool
  rw [conclude_eq, conclude_eq, hresult]
  simp only [unwatched, emit, hpool]

/-- A step without the record is a step with it. -/
theorem step_unwatched (m : Move) :
    s.unwatched.step pool m = (s.step pool.watched m).map unwatched := by
  -- whether a step can be taken depends on the manager, the clock and the number of calls alone
  cases m with
  | start | stop | drop | wait | call => rfl
  | listen | wake | begin | notice =>
    simp only [step, withManager, Option.map_map]
    rfl
  | finishCall fetched =>
    have hcalls : s.unwatched.calls = s.calls := rfl
    simp only [step, finishCall?, hcalls]
    rcases s.calls with - | n
    · rfl
    · exact congrArg (fun r ↦ some r.1) (conclude_unwatched pool { s with calls := n } fetched)
  | finish loop fetched =>
    have hloops : s.unwatched.manager.loops = s.manager.loops := rfl
    simp only [step, finish?, hloops, conclude_unwatched]
    rcases s.manager.loops[loop]? with - | (- | - | - | - | -) <;> rfl
  | tick millis =>
    have hloops : s.unwatched.manager.loops = s.manager.loops := rfl
    simp only [step, tick?]
    by_cases hlate : (0 < millis && s.manager.loops.any
      (Manager.Phase.isLate s.manager.stopped (s.now.after millis))) = true
    · rw [if_pos hlate]
      exact if_pos hlate
    · rw [if_neg hlate]
      exact if_neg hlate

/-- Every run of a manager is one with its pool watched, and the other way round. -/
theorem run_unwatched :
    s.unwatched.run pool ms = some u ↔ ∃ t, s.run pool.watched ms = some t ∧ t.unwatched = u := by
  induction ms generalizing s with
  | nil => simp [run]
  | cons m ms ih =>
    rw [run_cons_eq_some, step_unwatched]
    constructor
    · rintro ⟨s', hm, hrest⟩
      obtain ⟨s'', hm', rfl⟩ := Option.map_eq_some_iff.1 hm
      obtain ⟨t, ht, htu⟩ := ih.1 hrest
      exact ⟨t, run_cons_eq_some.2 ⟨s'', hm', ht⟩, htu⟩
    · rintro ⟨t, ht, htu⟩
      obtain ⟨s', hm, hrest⟩ := run_cons_eq_some.1 ht
      exact ⟨s'.unwatched, Option.map_eq_some_iff.2 ⟨s', hm, rfl⟩, ih.2 ⟨t, hrest, htu⟩⟩

/-- The system with a record that begins now. -/
def watched (s : System π) : System (Watched π) where
  manager := s.manager
  pool := ⟨s.pool, []⟩
  now := s.now
  calls := s.calls
  log := s.log

/-- The calls of the pool's hooks during a run, the newest first. -/
def hookCalls (pool : Pool π) (s : System π) (ms : List Move) : List HookCall :=
  ((s.watched.run pool.watched ms).map fun t ↦ t.pool.calls).getD []

/-- The record of a run that can be taken is that of the run with the pool watched. -/
theorem exists_watched (hrun : u.run pool ms = some v) :
    ∃ t, u.watched.run pool.watched ms = some t ∧ u.hookCalls pool ms = t.pool.calls := by
  obtain ⟨t, ht, -⟩ := (run_unwatched (s := u.watched)).1 hrun
  exact ⟨t, ht, by rw [hookCalls, ht]; rfl⟩

end System

end VaultAccess.Rotation
