import VaultAccess.Proofs.Rotation.Settings

/-!
# Refreshing before a lease ends

A rotation is due some time before the lease ends: the lease less a head-room, which is a share of the
lease and has a limit, but not less than the shortest delay. The three regimes (a share of the lease, the
limit, the shortest delay) are one expression in natural numbers (`Settings.toNat_nextDelay`), and what
holds across all of them is read off it here.

The share is a float. The head-room is the least whole number of seconds that is not below it, within
64 bits (`Binary64.toNat_roundUp_le_iff`).
-/

namespace VaultAccess

/-! ### Rounding up -/

namespace Binary64

/-- A float is not above a whole number; what is no number counts as zero. -/
def AtMost (x : Float) (n : Nat) : Prop :=
  match x.toModel.unpack with
  | .finite .positive m e _ => m * 2 ^ e.toNat ≤ n * 2 ^ (-e).toNat
  | .infinity .positive => False
  | _ => True

theorem wholeAbove_le_iff {m n : Nat} {e : Int} :
    wholeAbove m e ≤ n ↔ m * 2 ^ e.toNat ≤ n * 2 ^ (-e).toNat := by
  have hpos : 0 < 2 ^ (-e).toNat := Nat.two_pow_pos _
  show (m * 2 ^ e.toNat + (2 ^ (-e).toNat - 1)) / 2 ^ (-e).toNat ≤ n ↔ _
  rw [Nat.div_le_iff_le_mul_add_pred hpos, Nat.add_le_add_iff_right, Nat.mul_comm n]

/-- The rounded number is the least whole number that the float is not above, within 64 bits. -/
theorem toNat_roundUp_le_iff (x : Float) (n : Nat) :
    (roundUp x).toNat ≤ n ↔ AtMost x n ∨ UInt64.size - 1 ≤ n := by
  rw [roundUp, AtMost]
  match x.toModel.unpack with
  | .finite .positive .. =>
    show (UInt64.ofNatClamp _).toNat ≤ n ↔ _
    rw [toNat_ofNatClamp, min_le_iff, wholeAbove_le_iff]
  | .infinity .positive =>
    show (UInt64.ofNatClamp _).toNat ≤ n ↔ False ∨ _
    rw [toNat_ofNatClamp, Nat.min_eq_right (Nat.sub_le _ _), false_or]
  | .finite .negative .. | .infinity .negative | .zero _ | .notANumber =>
    exact iff_of_true (Nat.zero_le n) (.inl trivial)

end Binary64

/-! ### Delays of leases -/

namespace Rotation.Settings

variable {settings : Settings} {lease later : UInt64}

/-- The limit of the head-room is all of a lease that may be left unused. -/
theorem lease_le_nextDelay_add :
    lease.toNat ≤ (settings.nextDelay lease).toNat + settings.maxDuration.toNat := by
  rw [toNat_nextDelay]
  omega

/-- A lease is renewed before it ends if there is any head-room and the lease is not too short. -/
theorem nextDelay_lt_iff : (settings.nextDelay lease).toNat < lease.toNat ↔
    settings.minDelay.toNat < lease.toNat ∧ 0 < (settings.headroom lease).toNat ∧
      0 < settings.maxDuration.toNat := by
  rw [toNat_nextDelay]
  omega

/-- A longer lease is not renewed sooner if its head-room has grown by no more than the lease. -/
theorem nextDelay_le_nextDelay (hle : lease.toNat ≤ later.toNat)
    (hheadroom : (settings.headroom later).toNat ≤
      (settings.headroom lease).toNat + (later.toNat - lease.toNat)) :
    (settings.nextDelay lease).toNat ≤ (settings.nextDelay later).toNat := by
  rw [toNat_nextDelay, toNat_nextDelay]
  omega

/-- What the delays of all leases keep to, whatever the settings are. -/
theorem refresh_delays (settings : Settings) (lease : UInt64) :
    (∀ n, (settings.headroom lease).toNat ≤ n ↔
      Binary64.AtMost (lease.toFloat * settings.factor) n ∨ UInt64.size - 1 ≤ n) ∧
    (settings.nextDelay lease).toNat =
      max (lease.toNat - min (settings.headroom lease).toNat settings.maxDuration.toNat)
        settings.minDelay.toNat ∧
    settings.minDelay.toNat ≤ (settings.nextDelay lease).toNat ∧
    lease.toNat - settings.maxDuration.toNat ≤ (settings.nextDelay lease).toNat ∧
    (settings.nextDelay lease).toNat ≤ max lease.toNat settings.minDelay.toNat ∧
    ((settings.nextDelay lease).toNat < lease.toNat ↔
      settings.minDelay.toNat < lease.toNat ∧ 1 ≤ (settings.headroom lease).toNat ∧
        1 ≤ settings.maxDuration.toNat) ∧
    ∀ later : UInt64, lease.toNat ≤ later.toNat →
      (settings.headroom later).toNat ≤
        (settings.headroom lease).toNat + (later.toNat - lease.toNat) →
      (settings.nextDelay lease).toNat ≤ (settings.nextDelay later).toNat :=
  ⟨Binary64.toNat_roundUp_le_iff _, toNat_nextDelay, minDelay_le_nextDelay,
    Nat.sub_le_iff_le_add.2 lease_le_nextDelay_add, nextDelay_le, nextDelay_lt_iff,
    fun _ ↦ nextDelay_le_nextDelay⟩

/-- With the default settings a lease of an hour is renewed before it ends, and not sooner than a lease of
fifty minutes is. -/
theorem refresh_delays_default :
    (({} : Settings).nextDelay 3600).toNat < (3600 : UInt64).toNat ∧
      (({} : Settings).nextDelay 3000).toNat ≤ (({} : Settings).nextDelay 3600).toNat := by
  have hhour : (({} : Settings).headroom 3600).toNat = 360 := by decide +kernel
  have hless : (({} : Settings).headroom 3000).toNat = 300 := by decide +kernel
  obtain ⟨-, -, -, -, -, hbefore, -⟩ := refresh_delays {} 3600
  obtain ⟨-, -, -, -, -, -, hmono⟩ := refresh_delays {} 3000
  refine ⟨hbefore.2 ⟨by decide, by rw [hhour]; decide, by decide⟩, hmono 3600 (by decide) ?_⟩
  rw [hhour, hless]
  decide

end Rotation.Settings

end VaultAccess
