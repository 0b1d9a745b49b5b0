import VaultAccess.Binary64
import VaultAccess.Decimal.Literal
import VaultAccess.Failure
import VaultAccess.Rotation.Backoff

/-!
# Settings of the rotation

The checked settings. `Settings.ofTunables` reads all five texts and reports every one that has no
usable value; `Settings.nextDelay` tells how long before the end of a lease the next rotation runs.
-/

namespace VaultAccess.Rotation

/-- Checked settings; durations are in seconds. -/
structure Settings where
  backoff : Backoff := .standard
  /-- The shortest delay after a success. -/
  minDelay : UInt64 := 10
  /-- The share of a lease that is left unused. -/
  factor : Float := 0.1
  /-- The longest part of a lease that is left unused. -/
  maxDuration : UInt64 := 300

namespace Settings

/-- The value of a setting in seconds, or what is wrong with its text. -/
def seconds (t : Tunable) (text : Option String) (default : UInt64) :
    Except TunableFault UInt64 :=
  match text with
  | none => .ok default
  | some s =>
    match Numeral.signed64 s with
    | .error _ => .error (.unreadable t s)
    | .ok n => if n ≤ 0 then .error (.notPositive t) else .ok n.toNat.toUInt64

/-- The value of a setting that is a share, or what is wrong with its text. -/
def share (t : Tunable) (text : Option String) (default : Float) : Except TunableFault Float :=
  match text with
  | none => .ok default
  | some s =>
    match (Decimal.read? s).filter Float.isFinite with
    | none => .error (.unreadable t s)
    | some x => if x ≤ 0 then .error (.notPositive t) else .ok x

/-- What is wrong, if anything. -/
def faultOf {α : Type} : Except TunableFault α → Option TunableFault
  | .ok _ => none
  | .error e => some e

/-- The settings that texts spell; those without a text keep their defaults. -/
def ofTunables (t : Tunables) : Except (List TunableFault) Settings :=
  let defaults : Settings := {}
  let retryDelay := seconds .retryDelay t.retryDelay defaults.backoff.base
  let maxRetryDelay := seconds .maxRetryDelay t.maxRetryDelay defaults.backoff.max
  let minDelay := seconds .minDelay t.minDelay defaults.minDelay
  let factor := share .factor t.factor defaults.factor
  let maxDuration := seconds .maxDuration t.maxDuration defaults.maxDuration
  match retryDelay, maxRetryDelay, minDelay, factor, maxDuration with
  | .ok base, .ok max, .ok minDelay, .ok factor, .ok maxDuration =>
    .ok ⟨⟨base, max⟩, minDelay, factor, maxDuration⟩
  | _, _, _, _, _ =>
    .error ([faultOf retryDelay, faultOf maxRetryDelay, faultOf minDelay, faultOf factor,
      faultOf maxDuration].filterMap id)

/-- The checked settings, or the failure that names every fault. -/
def check (t : Tunables) : Except Failure Settings :=
  (ofTunables t).mapError fun faults ↦ .configuration (.tunables faults)

/-- The share of a lease that would be left unused if there were no limit to it. -/
def headroom (s : Settings) (lease : UInt64) : UInt64 :=
  Binary64.roundUp (lease.toFloat * s.factor)

/-- The delay before the next rotation when a lease of some seconds has just begun. The subtraction
stops at zero. -/
def nextDelay (s : Settings) (lease : UInt64) : UInt64 :=
  (max (lease.toNat - (min (s.headroom lease) s.maxDuration).toNat) s.minDelay.toNat).toUInt64

end Settings

end VaultAccess.Rotation
