import VaultAccess.Proofs.Rotation.Backoff
import VaultAccess.Proofs.Rotation.Tunables

/-!
# Settings that were checked

A setting in seconds is the positive number that its text spells, or a default, which is positive
(`Settings.Seconds.pos`). So the bounds of the delays of checked settings are at least a second
(`Settings.Bounded`), and no arithmetic between them and a delay takes that away: the head-room is
taken from the lease and not from the shortest delay (`Settings.minDelay_le_nextDelay`), and doubling
a positive base leaves it positive, whatever the ceiling is (`Backoff.delay_pos`).
-/

namespace VaultAccess

/-! ### Delays after failures -/

namespace Backoff

variable {b : Backoff} {attempt : UInt32}

/-- Whatever the ceiling is, no delay is longer than the maximum. -/
theorem delay_le : (b.delay attempt).1.toNat ≤ b.max.toNat := by
  rw [delay_fst]
  split
  · exact Nat.min_le_right _ _
  · exact Nat.le_refl _

/-- Whatever the ceiling is, positive bounds leave no delay of zero. -/
theorem delay_pos (hbase : 0 < b.base.toNat) (hmax : 0 < b.max.toNat) :
    0 < (b.delay attempt).1.toNat := by
  rw [delay_fst]
  split
  · exact Nat.lt_min.2 ⟨Nat.mul_pos hbase (Nat.two_pow_pos _), hmax⟩
  · exact hmax

end Backoff

/-! ### Bounds of delays -/

namespace Rotation.Settings

variable {settings : Settings} {tunables : Tunables} {lease : UInt64}

/-- The bounds of the delays are at least a second. -/
structure Bounded (settings : Settings) : Prop where
  base : 0 < settings.backoff.base.toNat
  max : 0 < settings.backoff.max.toNat
  minDelay : 0 < settings.minDelay.toNat

theorem bounded_default : Bounded {} := ⟨by decide, by decide, by decide⟩

/-- A number of seconds is positive if the default is. -/
theorem Seconds.pos {text : Option String} {default value : UInt64}
    (h : Seconds default text value) (hdefault : 0 < default.toNat) : 0 < value.toNat := by
  cases h with
  | absent => exact hdefault
  | spelled _ hpos hvalue =>
    have hlt := Int64.lt_iff_toInt_lt.1 hpos
    rw [← hvalue] at hlt
    exact Int.natCast_pos.1 hlt

/-- Settings that were accepted are bounded. -/
theorem bounded_of_check (h : check tunables = .ok settings) : settings.Bounded :=
  have hspelled := spelled_of_check h
  ⟨hspelled.base.pos (by decide), hspelled.max.pos (by decide), hspelled.minDelay.pos (by decide)⟩

/-- The delay for a lease, as a natural number: nothing overflows. -/
theorem toNat_nextDelay : (settings.nextDelay lease).toNat =
    max (lease.toNat - min (settings.headroom lease).toNat settings.maxDuration.toNat)
      settings.minDelay.toNat := by
  have hmin : (min (settings.headroom lease) settings.maxDuration).toNat =
      min (settings.headroom lease).toNat settings.maxDuration.toNat :=
    UInt64.toNat_min _ _
  rw [nextDelay, hmin]
  refine UInt64.toNat_ofNat_of_lt' (Nat.max_lt.2 ⟨?_, settings.minDelay.toNat_lt⟩)
  exact Nat.lt_of_le_of_lt (Nat.sub_le _ _) lease.toNat_lt

/-- The delay for a lease is not shorter than the shortest delay, however much of the lease is left
unused. -/
theorem minDelay_le_nextDelay : settings.minDelay.toNat ≤ (settings.nextDelay lease).toNat := by
  rw [toNat_nextDelay]
  exact Nat.le_max_right _ _

/-- No delay is longer than both the lease that it is for and the shortest delay. -/
theorem nextDelay_le :
    (settings.nextDelay lease).toNat ≤ max lease.toNat settings.minDelay.toNat := by
  rw [toNat_nextDelay]
  omega

end Rotation.Settings

end VaultAccess
