import Mathlib.Algebra.Order.Group.Nat
import VaultAccess.Proofs.Lists
import VaultAccess.Proofs.Text.Decimal
import VaultAccess.Rotation.Settings

/-!
# What is accepted as a tunable

Each tunable is checked by its own text alone: it is accepted if there is no text, or if the text
spells a value of the type of the tunable that is greater than zero, and then the setting is that
value or the default (`Verdict`). All texts are checked before anything is reported, and what is
reported are the faults of all tunables in their order (`ofTunables_cases`), so no fault depends on
the other texts.
-/

namespace VaultAccess.Rotation

/-! ### Texts of tunables -/

/-- A text spells a value of the type of a tunable. -/
def Tunable.Readable : Tunable → String → Prop
  | .factor, s => ∃ x : Float, Decimal.Spells s.toList x ∧ x.isFinite = true
  | _, s => ∃ v : Int64, Numeral.Spells s.toList v.toInt

/-- A text spells a value of the type of a tunable that is greater than zero. -/
def Tunable.Usable : Tunable → String → Prop
  | .factor, s => ∃ x : Float, Decimal.Spells s.toList x ∧ x.isFinite = true ∧ 0 < x
  | _, s => ∃ v : Int64, Numeral.Spells s.toList v.toInt ∧ 0 < v

/-- Whose fault it is. -/
def TunableFault.tunable : TunableFault → Tunable
  | .unreadable tunable _ => tunable
  | .notPositive tunable => tunable

/-- What is wrong with the text of a tunable. -/
inductive TunableFault.IsOf : Option String → TunableFault → Prop
  | unreadable {tunable : Tunable} {s : String} (h : ¬ tunable.Readable s) :
      IsOf (some s) (.unreadable tunable s)
  | notPositive {tunable : Tunable} {s : String} (h : tunable.Readable s)
      (hnot : ¬ tunable.Usable s) : IsOf (some s) (.notPositive tunable)

/-- A verdict on the text of a tunable: a value with some property, or a fault. -/
inductive Verdict {α : Type} (tunable : Tunable) (text : Option String) (P : α → Prop) :
    Except TunableFault α → Prop
  | accepted {value : α} (h : ∀ s ∈ text, tunable.Usable s) (hvalue : P value) :
      Verdict tunable text P (.ok value)
  | refused {fault : TunableFault} (h : fault.tunable = tunable) (hfault : fault.IsOf text) :
      Verdict tunable text P (.error fault)

variable {α : Type} {P : α → Prop} {result : Except TunableFault α} {value : α}
  {text : Option String} {s : String} {t : Tunables} {x : Float} {v : Int64}
  {fault fault' : TunableFault} {faults : List TunableFault} {settings : Settings}
  {tunable : Tunable}

/-- What can be used has been read. -/
theorem Tunable.Usable.readable (h : tunable.Usable s) : tunable.Readable s := by
  cases tunable with
  | factor =>
    obtain ⟨x, hx, hfinite, -⟩ := h
    exact ⟨x, hx, hfinite⟩
  | _ =>
    obtain ⟨v, hv, -⟩ := h
    exact ⟨v, hv⟩

/-- A text with a fault cannot be used. -/
theorem TunableFault.IsOf.not_usable (h : fault.IsOf (some s)) : ¬ fault.tunable.Usable s := by
  cases h with
  | unreadable h => exact mt Tunable.Usable.readable h
  | notPositive _ hnot => exact hnot

/-- A text has one fault at most. -/
theorem TunableFault.IsOf.unique (h : fault.IsOf text) (h' : fault'.IsOf text)
    (htunable : fault.tunable = fault'.tunable) : fault = fault' := by
  cases h with
  | unreadable h =>
    obtain rfl := htunable
    cases h' with
    | unreadable => rfl
    | notPositive h' => exact absurd h' h
  | notPositive h =>
    obtain rfl := htunable
    cases h' with
    | unreadable h' => exact absurd h h'
    | notPositive => rfl

/-- The verdict on a tunable has the faults of its text. -/
theorem Verdict.faultOf_eq_some_iff (h : Verdict tunable text P result) :
    Settings.faultOf result = some fault ↔ fault.tunable = tunable ∧ fault.IsOf text := by
  cases h with
  | accepted h =>
    refine ⟨nofun, ?_⟩
    rintro ⟨rfl, hfault⟩
    cases text with
    | none => cases hfault
    | some s => exact absurd (h s rfl) hfault.not_usable
  | refused h hfault =>
    constructor
    · intro heq
      obtain rfl := Option.some.inj heq
      exact ⟨h, hfault⟩
    · rintro ⟨rfl, hfault'⟩
      exact congrArg some (hfault.unique hfault' h)

/-- Without a fault there is a value, which is what the text says. -/
theorem Verdict.exists_of_faultOf_eq_none (h : Verdict tunable text P result)
    (hnone : Settings.faultOf result = none) :
    ∃ value, result = .ok value ∧ P value ∧ ∀ s ∈ text, tunable.Usable s := by
  cases h with
  | accepted h hvalue => exact ⟨_, rfl, hvalue, h⟩
  | refused => cases hnone

namespace Settings

/-! ### Seconds -/

/-- A number of seconds is what a text spells, or the default if there is no text. -/
inductive Seconds (default : UInt64) : Option String → UInt64 → Prop
  | absent : Seconds default none default
  | spelled {s : String} {v : Int64} {value : UInt64} (h : Numeral.Spells s.toList v.toInt)
      (hpos : 0 < v) (hvalue : (value.toNat : Int) = v.toInt) : Seconds default (some s) value

/-- All tunables but one are whole numbers. -/
theorem readable_iff (h : tunable ≠ .factor) :
    tunable.Readable s ↔ ∃ v : Int64, Numeral.Spells s.toList v.toInt := by
  cases tunable <;> first | rfl | contradiction

theorem usable_iff (h : tunable ≠ .factor) :
    tunable.Usable s ↔ ∃ v : Int64, Numeral.Spells s.toList v.toInt ∧ 0 < v := by
  cases tunable <;> first | rfl | contradiction

/-- A positive number of 64 bits with a sign is the same number without one. -/
theorem toNat_toUInt64 (h : 0 < v.toInt) : (v.toInt.toNat.toUInt64.toNat : Int) = v.toInt := by
  have hlt : v.toInt < 2 ^ 63 := v.toInt_lt
  rw [UInt64.toNat_ofNat_of_lt' (by simp only [UInt64.size]; omega)]
  omega

/-- The check of seconds comes to a verdict on their text alone. -/
theorem verdict_seconds (tunable : Tunable) (ht : tunable ≠ .factor) (text : Option String)
    (default : UInt64) :
    Verdict tunable text (Seconds default text) (seconds tunable text default) := by
  cases text with
  | none => exact .accepted nofun .absent
  | some s =>
    rw [seconds]
    cases hread : Numeral.signed64 s with
    | error e =>
      refine .refused rfl (.unreadable fun hreadable ↦ ?_)
      obtain ⟨v, hv⟩ := (readable_iff ht).1 hreadable
      rw [Numeral.signed64_eq_ok_iff.2 ⟨v, rfl, hv⟩] at hread
      cases hread
    | ok n =>
      obtain ⟨v, rfl, hv⟩ := Numeral.signed64_eq_ok_iff.1 hread
      dsimp only
      split
      next hle =>
        refine .refused rfl (.notPositive ((readable_iff ht).2 ⟨v, hv⟩) fun husable ↦ ?_)
        obtain ⟨w, hw, hpos⟩ := (usable_iff ht).1 husable
        rw [Numeral.signed64_eq_ok_iff.2 ⟨w, rfl, hw⟩, Except.ok.injEq] at hread
        have hlt : 0 < w.toInt := Int64.lt_iff_toInt_lt.1 hpos
        omega
      next hle =>
        have hlt : 0 < v.toInt := Int.not_le.1 hle
        have hpos : 0 < v := Int64.lt_iff_toInt_lt.2 hlt
        refine .accepted ?_ (.spelled hv hpos (toNat_toUInt64 hlt))
        intro s' hs'
        obtain rfl := Option.some.inj hs'
        exact (usable_iff ht).2 ⟨v, hv, hpos⟩

/-! ### Shares -/

/-- A share is what a text spells, or the default if there is no text. -/
inductive Share (default : Float) : Option String → Float → Prop
  | absent : Share default none default
  | spelled {s : String} {x : Float} (h : Decimal.Spells s.toList x) (hfinite : x.isFinite = true)
      (hpos : 0 < x) : Share default (some s) x

/-- A finite float is either positive or not. -/
theorem zero_lt_iff (h : x.isFinite = true) : 0 < x ↔ ¬ x ≤ 0 := by
  have hzero : (0 : Float).toModel.unpack = .zero .positive := by rfl
  have hlt : 0 < x ↔ (Float.Model.UnpackedFloat.zero .positive).lt x.toModel.unpack = true := by
    rw [← hzero]
    exact decide_eq_true_iff
  have hle : x ≤ 0 ↔ x.toModel.unpack.le (.zero .positive) = true := by
    rw [← hzero]
    exact decide_eq_true_iff
  have hfinite : x.toModel.unpack.isFinite = true := h
  rw [hlt, hle]
  cases hx : x.toModel.unpack with
  | infinity | notANumber =>
    rw [hx] at hfinite
    cases hfinite
  | zero sign => exact ⟨nofun, fun h ↦ absurd rfl h⟩
  | finite sign mantissa exponent hpos =>
    cases sign with
    | positive => exact ⟨nofun, fun _ ↦ rfl⟩
    | negative => exact ⟨nofun, fun h ↦ absurd rfl h⟩

/-- So does the check of the share of a lease. -/
theorem verdict_share (text : Option String) (default : Float) :
    Verdict .factor text (Share default text) (share .factor text default) := by
  cases text with
  | none => exact .accepted nofun .absent
  | some s =>
    rw [share]
    cases hread : (Decimal.read? s).filter Float.isFinite with
    | none =>
      refine .refused rfl (.unreadable ?_)
      rintro ⟨x, hx, hfinite⟩
      rw [Decimal.read?_eq_some_iff.2 hx, Option.filter_some, if_pos hfinite] at hread
      cases hread
    | some x =>
      obtain ⟨hx, hfinite⟩ := Option.filter_eq_some_iff.1 hread
      rw [Decimal.read?_eq_some_iff] at hx
      dsimp only
      split
      next hle =>
        refine .refused rfl (.notPositive ⟨x, hx, hfinite⟩ ?_)
        rintro ⟨y, hy, hyfinite, hpos⟩
        rw [Decimal.read?_eq_some_iff.2 hy, Option.filter_some, if_pos hyfinite,
          Option.some.injEq] at hread
        exact (zero_lt_iff hfinite).1 (hread ▸ hpos) hle
      next hle =>
        have hpos : 0 < x := (zero_lt_iff hfinite).2 hle
        refine .accepted ?_ (.spelled hx hfinite hpos)
        intro s' hs'
        obtain rfl := Option.some.inj hs'
        exact ⟨x, hx, hfinite, hpos⟩

/-! ### All tunables -/

/-- What is wrong with one of the tunables, if anything. -/
def faultIn (t : Tunables) : Tunable → Option TunableFault
  | .retryDelay => faultOf (seconds .retryDelay t.retryDelay 2)
  | .maxRetryDelay => faultOf (seconds .maxRetryDelay t.maxRetryDelay 60)
  | .minDelay => faultOf (seconds .minDelay t.minDelay 10)
  | .factor => faultOf (share .factor t.factor 0.1)
  | .maxDuration => faultOf (seconds .maxDuration t.maxDuration 300)

/-- The fault that is reported of a tunable is that of its own text. -/
theorem faultIn_eq_some_iff :
    faultIn t tunable = some fault ↔ fault.tunable = tunable ∧ fault.IsOf (t.get? tunable) := by
  cases tunable with
  | factor => exact (verdict_share _ _).faultOf_eq_some_iff
  | _ => exact (verdict_seconds _ (by decide) _ _).faultOf_eq_some_iff

/-- Each setting is what its text spells, or the default if there is no text. -/
structure Spelled (t : Tunables) (settings : Settings) : Prop where
  base : Seconds 2 t.retryDelay settings.backoff.base
  max : Seconds 60 t.maxRetryDelay settings.backoff.max
  minDelay : Seconds 10 t.minDelay settings.minDelay
  factor : Share 0.1 t.factor settings.factor
  maxDuration : Seconds 300 t.maxDuration settings.maxDuration

/-- Without a fault there are settings. -/
theorem ofTunables_of_forall_none (h : ∀ tunable, faultIn t tunable = none) :
    ∃ settings, ofTunables t = .ok settings ∧ Spelled t settings ∧
      ∀ tunable text, t.get? tunable = some text → tunable.Usable text := by
  obtain ⟨base, hbase, hbase', hretry⟩ :=
    (verdict_seconds .retryDelay (by decide) _ _).exists_of_faultOf_eq_none (h .retryDelay)
  obtain ⟨max, hmax, hmax', hmaxRetry⟩ :=
    (verdict_seconds .maxRetryDelay (by decide) _ _).exists_of_faultOf_eq_none (h .maxRetryDelay)
  obtain ⟨minDelay, hmin, hmin', hminDelay⟩ :=
    (verdict_seconds .minDelay (by decide) _ _).exists_of_faultOf_eq_none (h .minDelay)
  obtain ⟨factor, hfactor, hfactor', hshare⟩ :=
    (verdict_share _ _).exists_of_faultOf_eq_none (h .factor)
  obtain ⟨maxDuration, hduration, hduration', hmaxDuration⟩ :=
    (verdict_seconds .maxDuration (by decide) _ _).exists_of_faultOf_eq_none (h .maxDuration)
  refine ⟨⟨⟨base, max⟩, minDelay, factor, maxDuration⟩, ?_,
    ⟨hbase', hmax', hmin', hfactor', hduration'⟩, ?_⟩
  · rw [ofTunables]
    simp only [Backoff.standard, hbase, hmax, hmin, hfactor, hduration]
  · intro tunable text htext
    cases tunable with
    | retryDelay => exact hretry text htext
    | maxRetryDelay => exact hmaxRetry text htext
    | minDelay => exact hminDelay text htext
    | factor => exact hshare text htext
    | maxDuration => exact hmaxDuration text htext

/-- One fault is enough for all to be reported. -/
theorem ofTunables_of_exists (h : faultIn t tunable = some fault) :
    ofTunables t = .error (Tunable.all.filterMap (faultIn t)) := by
  rw [ofTunables]
  dsimp only
  split
  next hbase hmax hmin hfactor hduration =>
    have hnone : ∀ tunable, faultIn t tunable = none := by
      intro tunable
      cases tunable with
      | retryDelay => exact congrArg faultOf hbase
      | maxRetryDelay => exact congrArg faultOf hmax
      | minDelay => exact congrArg faultOf hmin
      | factor => exact congrArg faultOf hfactor
      | maxDuration => exact congrArg faultOf hduration
    rw [hnone tunable] at h
    cases h
  next => rfl

/-- Either every text is usable and there are settings, or the faults are reported. -/
theorem ofTunables_cases (t : Tunables) :
    (∃ settings, ofTunables t = .ok settings ∧ Spelled t settings ∧
      ∀ tunable text, t.get? tunable = some text → tunable.Usable text) ∨
    ∃ tunable text, ofTunables t = .error (Tunable.all.filterMap (faultIn t)) ∧
      t.get? tunable = some text ∧ ¬ tunable.Usable text := by
  by_cases h : ∀ tunable, faultIn t tunable = none
  · exact .inl (ofTunables_of_forall_none h)
  · obtain ⟨tunable, htunable⟩ := not_forall.1 h
    obtain ⟨fault, hfault⟩ := Option.ne_none_iff_exists'.1 htunable
    obtain ⟨rfl, hof⟩ := faultIn_eq_some_iff.1 hfault
    cases htext : t.get? fault.tunable with
    | none =>
      rw [htext] at hof
      cases hof
    | some text =>
      rw [htext] at hof
      exact .inr ⟨_, text, ofTunables_of_exists hfault, htext, hof.not_usable⟩

/-- The check accepts all texts, or it reports all faults. -/
theorem check_cases (t : Tunables) :
    (∃ settings, check t = .ok settings ∧ Spelled t settings ∧
      ∀ tunable text, t.get? tunable = some text → tunable.Usable text) ∨
    ∃ tunable text,
      check t = .error (.configuration (.tunables (Tunable.all.filterMap (faultIn t)))) ∧
        t.get? tunable = some text ∧ ¬ tunable.Usable text := by
  rw [check]
  rcases ofTunables_cases t with ⟨settings, hok, h⟩ | ⟨tunable, text, herror, h⟩
  · exact .inl ⟨settings, by rw [hok]; rfl, h⟩
  · exact .inr ⟨tunable, text, by rw [herror]; rfl, h⟩

theorem spelled_of_check (h : check t = .ok settings) : Spelled t settings := by
  rcases check_cases t with ⟨settings', hok, hspelled, -⟩ | ⟨_, _, herror, -⟩
  · obtain rfl := Except.ok.inj (h.symm.trans hok)
    exact hspelled
  · rw [h] at herror
    cases herror

end Settings

end VaultAccess.Rotation
