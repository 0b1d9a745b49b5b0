import VaultAccess.Proofs.Rotation.Watching
import VaultAccess.Proofs.Secrecy.Services

/-!
# Rotations that are alike

A rotation hands a password to a pool, which belongs to the application. As long as the pool lets
nothing be seen of the password (`Pool.Discreet`), rotations that fetch different passwords go
alike: the manager schedules the same, counts the same and logs the same.
-/

namespace VaultAccess.Rotation

variable {π : Type} {R : π → π → Prop} {pool : Pool π}

/-! ### Pools -/

/-- Two things done to pools go alike: on pools that `R` relates both succeed, or fail for the same
reason, and they leave pools that it relates. -/
def PoolAction.Alike (R : π → π → Prop) (a b : PoolAction π Unit) : Prop :=
  ∀ p p', R p p' → (a.run p).1 = (b.run p').1 ∧ R (a.run p).2 (b.run p').2

/-- A pool lets nothing be seen of passwords: what its hooks end in does not depend on them, where
`R` relates pools that differ at most in passwords. -/
structure Pool.Discreet (pool : Pool π) (R : π → π → Prop) : Prop where
  setUsername : ∀ name, PoolAction.Alike R (pool.setUsername name) (pool.setUsername name)
  setPassword : ∀ password password',
    PoolAction.Alike R (pool.setPassword password) (pool.setPassword password')
  evict : PoolAction.Alike R pool.evict pool.evict

theorem PoolAction.Alike.then {a b c d : PoolAction π Unit} (hab : PoolAction.Alike R a b)
    (hcd : PoolAction.Alike R c d) :
    PoolAction.Alike R (a >>= fun _ ↦ c) (b >>= fun _ ↦ d) := by
  intro p p' hp
  obtain ⟨houtcome, hpool⟩ := hab p p' hp
  rw [run_then, run_then]
  rcases h : a.run p with ⟨r, q⟩
  rcases h' : b.run p' with ⟨r', q'⟩
  rw [h, h'] at houtcome hpool
  obtain rfl : r = r' := houtcome
  cases r with
  | error e => exact ⟨rfl, hpool⟩
  | ok _ => exact hcd q q' hpool

/-- A discreet pool takes credentials that are alike with the same result. -/
theorem Pool.Discreet.update (h : pool.Discreet R) {c c' : Credentials} (hc : c.Alike c') :
    PoolAction.Alike R (pool.update c) (pool.update c') := by
  rw [Pool.update, Pool.update, hc.username]
  exact (h.setUsername _).then ((h.setPassword _ _).then h.evict)

/-- Building a pool lets nothing be seen of passwords. -/
def DiscreetBuild (R : π → π → Prop) (build : Credentials → Except Chain π) : Prop :=
  ∀ c c', c.Alike c' → AlikeOutcomes R (build c) (build c')

/-- Two records of calls are alike: they differ at most in the passwords that were set. -/
structure HookCall.Alike (c c' : HookCall) : Prop where
  hook : c.hook = c'.hook
  accepted : c.accepted = c'.accepted
  text : c.hook ≠ .setPassword → c.text = c'.text

/-- Two pools that keep records are alike: their records are, and they refuse the same. -/
structure RecordedPool.Alike (p p' : RecordedPool) : Prop where
  calls : List.Forall₂ HookCall.Alike p.calls p'.calls
  refusal : p.refusal = p'.refusal

namespace RecordedPool

variable {p : RecordedPool} {hook : Hook} {text text' : Option String} {e : Chain}

/-- A call that is not told to fail is recorded as accepted. -/
theorem call_of_none (h : p.refusal hook = none) :
    (call hook text).run p = (.ok (), { p with calls := ⟨hook, text, true⟩ :: p.calls }) := by
  simp [call, h]

/-- A call that is told to fail is recorded as refused. -/
theorem call_of_some (h : p.refusal hook = some e) :
    (call hook text).run p = (.error e, { p with calls := ⟨hook, text, false⟩ :: p.calls }) := by
  simp [call, h]

/-- Calls of one hook are alike, also with other passwords. -/
theorem call_alike (htext : hook ≠ .setPassword → text = text') :
    PoolAction.Alike RecordedPool.Alike (call hook text) (call hook text') := by
  intro p p' hp
  cases h : p.refusal hook with
  | none =>
    rw [call_of_none h, call_of_none (hp.refusal ▸ h)]
    exact ⟨rfl, .cons ⟨rfl, rfl, htext⟩ hp.calls, hp.refusal⟩
  | some e =>
    rw [call_of_some h, call_of_some (hp.refusal ▸ h)]
    exact ⟨rfl, .cons ⟨rfl, rfl, htext⟩ hp.calls, hp.refusal⟩

/-- A pool that keeps a record is discreet. -/
theorem hooks_discreet : hooks.Discreet RecordedPool.Alike where
  setUsername _ := call_alike fun _ ↦ rfl
  setPassword _ _ := call_alike fun h ↦ absurd rfl h
  evict := call_alike fun _ ↦ rfl

end RecordedPool

/-! ### What happens to a manager -/

/-- Two systems are alike: they differ at most in what pools may differ in. -/
structure System.Alike (R : π → π → Prop) (s s' : System π) : Prop where
  manager : s.manager = s'.manager
  pool : R s.pool s'.pool
  now : s.now = s'.now
  calls : s.calls = s'.calls
  log : s.log = s'.log

/-- The same happens, but for the passwords that are fetched. -/
inductive Move.Alike : Move → Move → Prop
  | same {m : Move} (h : m.fetched? = none) : Alike m m
  | finishCall {fetched fetched' : Except Failure Credentials}
      (h : AlikeOutcomes Credentials.Alike fetched fetched') :
      Alike (.finishCall fetched) (.finishCall fetched')
  | finish (loop : Nat) {fetched fetched' : Except Failure Credentials}
      (h : AlikeOutcomes Credentials.Alike fetched fetched') :
      Alike (.finish loop fetched) (.finish loop fetched')

namespace System

variable {s s' : System π} {fetched fetched' : Except Failure Credentials} {m m' : Move}

/-- Handing over what was fetched has the same result, and leaves pools that are alike. -/
theorem deliver_alike (hpool : pool.Discreet R)
    (h : AlikeOutcomes Credentials.Alike fetched fetched') {p p' : π} (hp : R p p') :
    (Manager.deliver pool fetched p).1 = (Manager.deliver pool fetched' p').1 ∧
      R (Manager.deliver pool fetched p).2 (Manager.deliver pool fetched' p').2 := by
  cases h with
  | error f => exact ⟨rfl, hp⟩
  | @ok c c' h =>
    obtain ⟨houtcome, hpools⟩ := hpool.update h p p' hp
    refine ⟨?_, hpools⟩
    show ((pool.update c).run p).1.map _ = ((pool.update c').run p').1.map _
    rw [houtcome, h.lease]

/-- The end of a rotation schedules, counts and logs the same. -/
theorem Alike.conclude (hs : s.Alike R s') (hpool : pool.Discreet R)
    (h : AlikeOutcomes Credentials.Alike fetched fetched') :
    (s.conclude pool fetched).1.Alike R (s'.conclude pool fetched').1 ∧
      (s.conclude pool fetched).2 = (s'.conclude pool fetched').2 := by
  obtain ⟨houtcome, hpools⟩ := deliver_alike hpool h hs.pool
  rw [conclude_eq, conclude_eq, hs.manager, houtcome]
  exact ⟨⟨rfl, hpools, hs.now, hs.calls, congrArg (_ :: ·) hs.log⟩, rfl⟩

/-- A step of the manager's own does not look at the pool. -/
theorem Alike.withManager (hs : s.Alike R s') (r : Option (Manager × List Event)) :
    Option.Rel (System.Alike R) (s.withManager r) (s'.withManager r) := by
  cases r with
  | none => exact .none
  | some r => exact .some ⟨rfl, hs.pool, hs.now, hs.calls, congrArg (r.2.reverse ++ ·) hs.log⟩

theorem Alike.finishCall? (hs : s.Alike R s') (hpool : pool.Discreet R)
    (h : AlikeOutcomes Credentials.Alike fetched fetched') :
    Option.Rel (fun r r' ↦ r.1.Alike R r'.1 ∧ r.2 = r'.2) (s.finishCall? pool fetched)
      (s'.finishCall? pool fetched') := by
  rw [System.finishCall?, System.finishCall?, hs.calls]
  cases s'.calls with
  | zero => exact .none
  | succ n =>
    exact .some (Alike.conclude ⟨hs.manager, hs.pool, hs.now, rfl, hs.log⟩ hpool h)

theorem Alike.finish? (hs : s.Alike R s') (hpool : pool.Discreet R) (loop : Nat)
    (h : AlikeOutcomes Credentials.Alike fetched fetched') :
    Option.Rel (System.Alike R) (s.finish? pool loop fetched) (s'.finish? pool loop fetched') := by
  -- after the rotation the loop sleeps for the delay that was returned, which is the same
  have hconcluded := hs.conclude hpool h
  unfold System.finish?
  rw [hs.manager]
  generalize s.conclude pool fetched = r, s'.conclude pool fetched' = r' at hconcluded ⊢
  obtain ⟨t, delay⟩ := r
  obtain ⟨t', delay'⟩ := r'
  obtain ⟨ht, hdelay⟩ := hconcluded
  obtain rfl : delay = delay' := hdelay
  split
  · have hmanager : t.manager = t'.manager := ht.manager
    have hnow : t.now = t'.now := ht.now
    dsimp only
    rw [hmanager, hnow]
    exact .some ⟨rfl, ht.pool, rfl, ht.calls, ht.log⟩
  · exact .none

theorem Alike.start (hs : s.Alike R s') (lease : UInt64) :
    (s.start lease).Alike R (s'.start lease) := by
  unfold System.start
  rw [hs.manager, hs.now]
  rcases s'.manager.start lease s'.now with ⟨manager, events⟩
  exact ⟨rfl, hs.pool, rfl, hs.calls, congrArg (_ ++ ·) hs.log⟩

/-- Time may pass in both systems or in neither. -/
theorem Alike.tick? (hs : s.Alike R s') (millis : Nat) :
    Option.Rel (System.Alike R) (s.tick? millis) (s'.tick? millis) := by
  unfold System.tick?
  rw [hs.manager, hs.now]
  dsimp only
  split
  · exact .none
  · exact .some ⟨rfl, hs.pool, rfl, hs.calls, hs.log⟩

/-- Systems that are alike take the same steps and stay alike. -/
theorem Alike.step (hs : s.Alike R s') (hpool : pool.Discreet R) (hm : m.Alike m') :
    Option.Rel (System.Alike R) (s.step pool m) (s'.step pool m') := by
  cases hm with
  | finishCall h =>
    have hcall := hs.finishCall? hpool h
    rw [System.step, System.step]
    generalize s.finishCall? pool _ = o at hcall ⊢
    generalize s'.finishCall? pool _ = o' at hcall ⊢
    cases hcall with
    | none => exact .none
    | some h => exact .some h.1
  | finish loop h => exact hs.finish? hpool loop h
  | same h =>
    cases m with
    | start lease => exact .some (hs.start lease)
    | stop =>
      exact .some ⟨congrArg Manager.stop hs.manager, hs.pool, hs.now, hs.calls, hs.log⟩
    | drop =>
      exact .some ⟨congrArg Manager.stop hs.manager, hs.pool, hs.now, hs.calls, hs.log⟩
    | wait =>
      exact .some ⟨congrArg (·.takeHandle.2) hs.manager, hs.pool, hs.now, hs.calls, hs.log⟩
    | call =>
      exact .some ⟨hs.manager, hs.pool, hs.now, congrArg (· + 1) hs.calls,
        congrArg (Event.rotationBegun :: ·) hs.log⟩
    | finishCall fetched => cases h
    | wake loop =>
      rw [System.step, System.step, hs.manager, hs.now]
      exact hs.withManager _
    | listen loop | begin loop | notice loop =>
      rw [System.step, System.step, hs.manager]
      exact hs.withManager _
    | finish loop fetched => cases h
    | tick millis => exact hs.tick? millis

/-- Pools that are built with credentials that are alike get managers that are alike. -/
theorem create_alike (settings : Settings) (now : Instant) {build : Credentials → Except Chain π}
    (hbuild : DiscreetBuild R build) (h : AlikeOutcomes Credentials.Alike fetched fetched') :
    AlikeOutcomes (System.Alike R) (create settings now fetched build)
      (create settings now fetched' build) := by
  cases h with
  | error f => exact .error _
  | @ok c c' h =>
    have hpools := hbuild c c' h
    rw [create, create]
    dsimp only
    generalize build c = r at hpools ⊢
    generalize build c' = r' at hpools ⊢
    cases hpools with
    | error e => exact .error _
    | @ok p p' hp =>
      rw [h.username, h.lease]
      have hfresh : System.Alike R { manager := { settings }, pool := p, now }
          { manager := { settings }, pool := p', now } := ⟨rfl, hp, rfl, rfl, rfl⟩
      obtain ⟨hmanager, hpool, hnow, hcalls, hlog⟩ := hfresh.start c'.lease
      exact .ok ⟨hmanager, hpool, hnow, hcalls, congrArg (_ :: ·) hlog⟩

end System

end VaultAccess.Rotation
