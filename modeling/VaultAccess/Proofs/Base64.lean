import Mathlib.Algebra.Order.Group.Nat
import Mathlib.Data.List.Basic
import VaultAccess.Base64
import VaultAccess.Proofs.Text.Utf8

/-!
# Base64 is the standard one

What the Base64 text of some bytes is can be said without groups: the bits of its symbols, six each, are
the bits of the bytes, eight each, followed by fewer than six zeros, and padding fills the text up to a
multiple of four (`Spells`). `encodeText` writes just this text (`spells_iff`).

Reading accepts what is written and nothing else (`decode_eq_ok_iff`). Whole groups are undone one by one.
In the last group padding counts as a symbol that is not there, so what matters is how many symbols come
before it (`lastValues_eq_ok`); the bits that stand for no byte are the ones that reading wants to be
zero.
-/

namespace VaultAccess.Base64

variable {a b c : UInt8} {v w x y n : Nat} {bytes symbols group : List UInt8} {vs : List Nat}

/-! ### Symbols -/

theorem value?_symbol (h : v < 64) : value? (symbol v) = some v := by
  have hall : ∀ v < 64, value? (symbol v) = some v := by decide
  exact hall v h

theorem symbol_ne_padding (h : v < 64) : (symbol v == padding) = false := by
  have hall : ∀ v < 64, (symbol v == padding) = false := by decide
  exact hall v h

theorem toNat_symbol_lt : (symbol v).toNat < 0x80 := by
  rcases Nat.lt_or_ge v 64 with h | h
  · have hall : ∀ v < 64, (symbol v).toNat < 0x80 := by decide
    exact hall v h
  · have hlast : symbol v = 0x2F := by
      simp only [symbol, beq_iff_eq]
      rw [if_neg (by omega), if_neg (by omega), if_neg (by omega), if_neg (by omega)]
    rw [hlast]
    decide

/-- Only a symbol has a number. -/
theorem eq_symbol_of_value? (h : value? a = some v) : v < 64 ∧ a = symbol v := by
  have hall : ∀ n < 256, ∀ v ∈ value? n.toUInt8, v < 64 ∧ n.toUInt8 = symbol v := by
    decide +kernel
  have ha := hall a.toNat a.toNat_lt v
  rw [show a.toNat.toUInt8 = a from UInt8.ofNat_toNat] at ha
  exact ha h

/-! ### Reading -/

theorem bind_eq_ok_iff {α β : Type} {r : Except Fault α} {f : α → Except Fault β} {z : β} :
    r >>= f = .ok z ↔ ∃ y, r = .ok y ∧ f y = .ok z := by
  rcases r with e | y
  · exact ⟨nofun, fun ⟨_, h, _⟩ ↦ nomatch h⟩
  · exact ⟨fun h ↦ ⟨y, rfl, h⟩, fun ⟨_, hy, h⟩ ↦ by cases hy; exact h⟩

theorem valueAt_eq_ok_iff {offset : Nat} : valueAt offset a = .ok v ↔ v < 64 ∧ a = symbol v := by
  rw [valueAt]
  cases hvalue : value? a with
  | none =>
    refine ⟨nofun, ?_⟩
    rintro ⟨hv, rfl⟩
    rw [value?_symbol hv] at hvalue
    cases hvalue
  | some u =>
    constructor
    · rintro ⟨⟩
      exact eq_symbol_of_value? hvalue
    · rintro ⟨hv, rfl⟩
      rw [value?_symbol hv] at hvalue
      cases hvalue
      rfl

/-- A group that is not the last one is read symbol by symbol, and then the groups after it. -/
theorem decodeFrom_eq_ok_iff {offset : Nat} {d e : UInt8} {rest : List UInt8} :
    decodeFrom offset (a :: b :: c :: d :: e :: rest) = .ok bytes ↔
      ∃ v w x y more, (v < 64 ∧ a = symbol v) ∧ (w < 64 ∧ b = symbol w) ∧
        (x < 64 ∧ c = symbol x) ∧ (y < 64 ∧ d = symbol y) ∧
        decodeFrom (offset + 4) (e :: rest) = .ok more ∧
        bytes = (v * 4 + w / 16).toUInt8 :: (w % 16 * 16 + x / 4).toUInt8 ::
          (x % 4 * 64 + y).toUInt8 :: more := by
  rw [decodeFrom]
  simp only [bind_eq_ok_iff, valueAt_eq_ok_iff]
  constructor
  · rintro ⟨v, hv, w, hw, x, hx, y, hy, more, hmore, h⟩
    exact ⟨v, w, x, y, more, hv, hw, hx, hy, hmore, (Except.ok.inj h).symm⟩
  · rintro ⟨v, w, x, y, more, hv, hw, hx, hy, hmore, rfl⟩
    exact ⟨v, hv, w, hw, x, hx, y, hy, more, hmore, rfl⟩

/-- Symbols in a last group, with padding behind them. -/
theorem lastValues_eq_ok {offset index : Nat} {firstPad : Option Nat}
    (h : lastValues offset index firstPad group = .ok vs) :
    (∀ v ∈ vs, v < 64) ∧ (firstPad.isSome = true → vs = []) ∧
      ∃ pads, group = vs.map symbol ++ List.replicate pads padding ∧
        (0 < pads → 2 ≤ index + vs.length) := by
  induction group generalizing index firstPad vs with
  | nil =>
    cases h
    exact ⟨List.forall_mem_nil _, fun _ ↦ rfl, 0, rfl, fun h ↦ absurd h (Nat.lt_irrefl 0)⟩
  | cons a group ih =>
    simp only [lastValues] at h
    split at h
    next hpad =>
      split at h
      next => cases h
      next hindex =>
        obtain ⟨hvs, hnone, pads, hgroup, -⟩ := ih h
        have hnil : vs = [] := hnone (by cases firstPad <;> rfl)
        subst hnil
        refine ⟨hvs, fun _ ↦ rfl, pads + 1, ?_, fun _ ↦ by omega⟩
        rw [hgroup, beq_iff_eq.1 hpad]
        rfl
    next =>
      cases firstPad with
      | some => cases h
      | none =>
        obtain ⟨v, hv, h⟩ := bind_eq_ok_iff.1 h
        obtain ⟨us, hus, h⟩ := bind_eq_ok_iff.1 h
        obtain rfl := Except.ok.inj h
        obtain ⟨hlt, rfl⟩ := valueAt_eq_ok_iff.1 hv
        obtain ⟨hall, -, pads, rfl, hpads⟩ := ih hus
        refine ⟨List.forall_mem_cons.2 ⟨hlt, hall⟩, nofun, pads, rfl, fun hpos ↦ ?_⟩
        have := hpads hpos
        rw [List.length_cons]
        omega

/-- What the numbers of a last group of some length stand for, where its unused bits are zero. -/
inductive Last : List Nat → Nat → List UInt8 → Prop
  | none : Last [] 0 []
  | one {v w : Nat} (hzero : w % 16 = 0) : Last [v, w] 4 [(v * 4 + w / 16).toUInt8]
  | two {v w x : Nat} (hzero : x % 4 = 0) :
      Last [v, w, x] 4 [(v * 4 + w / 16).toUInt8, (w % 16 * 16 + x / 4).toUInt8]
  | three {v w x y : Nat} : Last [v, w, x, y] 4
      [(v * 4 + w / 16).toUInt8, (w % 16 * 16 + x / 4).toUInt8, (x % 4 * 64 + y).toUInt8]

/-- A result behind two checks. -/
theorem checked_eq_ok_iff {p q : Prop} [Decidable p] [Decidable q] {e f : Fault}
    {result : List UInt8} :
    (if ¬ p then .error e else if ¬ q then .error f else .ok result) =
      (.ok bytes : Except Fault (List UInt8)) ↔ p ∧ q ∧ result = bytes := by
  by_cases hp : p <;> by_cases hq : q <;> simp [hp, hq]

theorem decodeLast_of_last {offset : Nat} (hvs : lastValues offset 0 none group = .ok vs)
    (h : Last vs group.length bytes) : decodeLast offset group = .ok bytes := by
  rw [decodeLast, hvs]
  generalize group.length = length at h
  cases h with
  | none | three => rfl
  | one hzero | two hzero =>
    exact (checked_eq_ok_iff (p := 4 = 4) (e := .invalidPadding)).2 ⟨rfl, hzero, rfl⟩

/-- A last group that is accepted has a number of symbols that stand for whole bytes. -/
theorem exists_last_of_decodeLast {offset : Nat} (hlength : group.length ≤ 4)
    (h : decodeLast offset group = .ok bytes) :
    ∃ vs, lastValues offset 0 none group = .ok vs ∧ Last vs group.length bytes := by
  obtain ⟨vs, hvs, h⟩ := bind_eq_ok_iff.1 h
  refine ⟨vs, hvs, ?_⟩
  obtain ⟨-, -, pads, hgroup, hpads⟩ := lastValues_eq_ok hvs
  have hsize : group.length = vs.length + pads := by
    rw [hgroup, List.length_append, List.length_map, List.length_replicate]
  rcases vs with _ | ⟨v, _ | ⟨w, _ | ⟨x, _ | ⟨y, rest⟩⟩⟩⟩ <;>
    simp only [List.length_cons, List.length_nil] at hsize hpads
  · obtain rfl := Except.ok.inj h
    rw [show group.length = 0 by omega]
    exact .none
  · cases h
  · obtain ⟨hfour, hzero, rfl⟩ := checked_eq_ok_iff.1 h
    rw [hfour]
    exact .one hzero
  · obtain ⟨hfour, hzero, rfl⟩ := checked_eq_ok_iff.1 h
    rw [hfour]
    exact .two hzero
  · obtain rfl := Except.ok.inj h
    obtain rfl := List.eq_nil_of_length_eq_zero (show rest.length = 0 by omega)
    rw [show group.length = 4 by omega]
    exact .three

theorem lastValues_padding {offset index pads : Nat} {firstPad : Option Nat}
    (h : 0 < pads → 2 ≤ index) :
    lastValues offset index firstPad (List.replicate pads padding) = .ok [] := by
  induction pads generalizing index firstPad with
  | zero => rfl
  | succ pads ih =>
    have hindex : 2 ≤ index := h (Nat.succ_pos _)
    rw [List.replicate_succ]
    simp only [lastValues, beq_self_eq_true, if_true, if_neg (Nat.not_lt.2 hindex)]
    exact ih fun _ ↦ Nat.le_succ_of_le hindex

/-- The symbols of a last group are read, if there are enough of them before the padding. -/
theorem lastValues_symbols {offset index pads : Nat} (hvs : ∀ v ∈ vs, v < 64)
    (hpads : 0 < pads → 2 ≤ index + vs.length) :
    lastValues offset index none (vs.map symbol ++ List.replicate pads padding) = .ok vs := by
  induction vs generalizing index with
  | nil => exact lastValues_padding hpads
  | cons v vs ih =>
    obtain ⟨hv, hvs⟩ := List.forall_mem_cons.1 hvs
    have hrest : lastValues offset (index + 1) none
        (vs.map symbol ++ List.replicate pads padding) = .ok vs :=
      ih hvs (by rw [List.length_cons] at hpads; omega)
    rw [List.map_cons, List.cons_append]
    simp only [lastValues, symbol_ne_padding hv, hrest, valueAt, value?_symbol hv]
    rfl

/-! ### Reading what was written -/

theorem toNat_toUInt8 (h : n < 256) : n.toUInt8.toNat = n := UInt8.toNat_ofNat_of_lt' h

theorem toUInt8_eq (h : n = a.toNat) : n.toUInt8 = a := Utf8.ofNat_eq h

/-- Three bytes are four numbers of six bits. -/
theorem exists_sextets (a b c : UInt8) : ∃ v w x y : Nat, v < 64 ∧ w < 64 ∧ x < 64 ∧ y < 64 ∧
    (v * 4 + w / 16).toUInt8 = a ∧ (w % 16 * 16 + x / 4).toUInt8 = b ∧
      (x % 4 * 64 + y).toUInt8 = c := by
  have ha := a.toNat_lt
  have hb := b.toNat_lt
  have hc := c.toNat_lt
  refine ⟨a.toNat / 4, a.toNat % 4 * 16 + b.toNat / 16, b.toNat % 16 * 4 + c.toNat / 64,
    c.toNat % 64, by omega, by omega, by omega, by omega, toUInt8_eq ?_, toUInt8_eq ?_,
    toUInt8_eq ?_⟩ <;> omega

/-- Four numbers of six bits are three bytes. -/
theorem encode_sextets (hv : v < 64) (hw : w < 64) (hx : x < 64) (hy : y < 64) :
    encode ((v * 4 + w / 16).toUInt8 :: (w % 16 * 16 + x / 4).toUInt8 ::
        (x % 4 * 64 + y).toUInt8 :: bytes) =
      symbol v :: symbol w :: symbol x :: symbol y :: encode bytes := by
  rw [encode, toNat_toUInt8 (by omega), toNat_toUInt8 (by omega), toNat_toUInt8 (by omega),
    show (v * 4 + w / 16) / 4 = v by omega,
    show (v * 4 + w / 16) % 4 * 16 + (w % 16 * 16 + x / 4) / 16 = w by omega,
    show (w % 16 * 16 + x / 4) % 16 * 4 + (x % 4 * 64 + y) / 64 = x by omega,
    show (x % 4 * 64 + y) % 64 = y by omega]

/-- The symbols of a last group are written for its bytes. -/
theorem Last.encode_eq {pads : Nat} (h : Last vs (vs.length + pads) bytes)
    (hvs : ∀ v ∈ vs, v < 64) :
    vs.map symbol ++ List.replicate pads padding = encode bytes := by
  generalize hlength : vs.length + pads = length at h
  cases h with
  | none =>
    obtain rfl : pads = 0 := by simpa using hlength
    rfl
  | @one v w hzero =>
    obtain rfl : pads = 2 := Nat.add_left_cancel hlength
    simp only [List.forall_mem_cons] at hvs
    obtain ⟨hv, hw, -⟩ := hvs
    rw [encode, toNat_toUInt8 (by omega), show (v * 4 + w / 16) / 4 = v by omega,
      show (v * 4 + w / 16) % 4 * 16 = w by omega]
    rfl
  | @two v w x hzero =>
    obtain rfl : pads = 1 := Nat.add_left_cancel hlength
    simp only [List.forall_mem_cons] at hvs
    obtain ⟨hv, hw, hx, -⟩ := hvs
    rw [encode, toNat_toUInt8 (by omega), toNat_toUInt8 (by omega),
      show (v * 4 + w / 16) / 4 = v by omega,
      show (v * 4 + w / 16) % 4 * 16 + (w % 16 * 16 + x / 4) / 16 = w by omega,
      show (w % 16 * 16 + x / 4) % 16 * 4 = x by omega]
    rfl
  | @three v w x y =>
    obtain rfl : pads = 0 := Nat.add_left_cancel hlength
    simp only [List.forall_mem_cons] at hvs
    obtain ⟨hv, hw, hx, hy, -⟩ := hvs
    rw [encode_sextets hv hw hx hy]
    rfl

/-- Fewer than four bytes make a last group. -/
theorem exists_last (h : bytes.length ≤ 3) : ∃ vs pads, (∀ v ∈ vs, v < 64) ∧
    (0 < pads → 2 ≤ vs.length) ∧ vs.length + pads ≤ 4 ∧ Last vs (vs.length + pads) bytes := by
  rcases bytes with _ | ⟨a, _ | ⟨b, _ | ⟨c, _ | ⟨d, rest⟩⟩⟩⟩
  · exact ⟨[], 0, List.forall_mem_nil _, nofun, Nat.zero_le 4, .none⟩
  · have ha := a.toNat_lt
    have hlast : Last [a.toNat / 4, a.toNat % 4 * 16] 4 _ := .one (by omega)
    rw [toUInt8_eq (a := a) (by omega)] at hlast
    refine ⟨[_, _], 2, ?_, fun _ ↦ Nat.le_refl 2, Nat.le_refl 4, hlast⟩
    simp only [List.forall_mem_cons]
    exact ⟨by omega, by omega, List.forall_mem_nil _⟩
  · have ha := a.toNat_lt
    have hb := b.toNat_lt
    have hlast : Last [a.toNat / 4, a.toNat % 4 * 16 + b.toNat / 16, b.toNat % 16 * 4] 4 _ :=
      .two (by omega)
    rw [toUInt8_eq (a := a) (by omega), toUInt8_eq (a := b) (by omega)] at hlast
    refine ⟨[_, _, _], 1, ?_, fun _ ↦ Nat.le_succ 2, Nat.le_refl 4, hlast⟩
    simp only [List.forall_mem_cons]
    exact ⟨by omega, by omega, by omega, List.forall_mem_nil _⟩
  · obtain ⟨v, w, x, y, hv, hw, hx, hy, rfl, rfl, rfl⟩ := exists_sextets a b c
    refine ⟨[v, w, x, y], 0, ?_, nofun, Nat.le_refl 4, .three⟩
    simp only [List.forall_mem_cons]
    exact ⟨hv, hw, hx, hy, List.forall_mem_nil _⟩
  · simp only [List.length_cons] at h
    omega

theorem decodeFrom_of_length_le {offset : Nat} (h : group.length ≤ 4) :
    decodeFrom offset group = decodeLast offset group := by
  refine decodeFrom.eq_2 offset group fun a b c d e rest hgroup ↦ ?_
  rw [hgroup] at h
  simp only [List.length_cons] at h
  omega

theorem decodeFrom_encode_of_length_le {offset : Nat} (h : bytes.length ≤ 3) :
    decodeFrom offset (encode bytes) = .ok bytes := by
  obtain ⟨vs, pads, hvs, hpads, hfour, hlast⟩ := exists_last h
  have hlength : (vs.map symbol ++ List.replicate pads padding).length = vs.length + pads := by
    rw [List.length_append, List.length_map, List.length_replicate]
  rw [← hlast.encode_eq hvs, decodeFrom_of_length_le (hlength ▸ hfour)]
  exact decodeLast_of_last (lastValues_symbols hvs fun h ↦ (Nat.zero_add _).symm ▸ hpads h)
    (hlength.symm ▸ hlast)

theorem exists_cons_encode (h : bytes ≠ []) : ∃ e more, encode bytes = e :: more := by
  match bytes, h with
  | [_], _ | [_, _], _ | _ :: _ :: _ :: _, _ => exact ⟨_, _, rfl⟩

/-- What was written is read. -/
theorem decodeFrom_encode {offset : Nat} : decodeFrom offset (encode bytes) = .ok bytes := by
  induction bytes using encode.induct generalizing offset with
  | case1 | case2 | case3 => exact decodeFrom_encode_of_length_le (by simp)
  | case4 a b c rest ih =>
    by_cases hrest : rest = []
    · obtain rfl := hrest
      exact decodeFrom_encode_of_length_le (Nat.le_refl 3)
    · obtain ⟨v, w, x, y, hv, hw, hx, hy, rfl, rfl, rfl⟩ := exists_sextets a b c
      have hmore : decodeFrom (offset + 4) (encode rest) = .ok rest := ih
      obtain ⟨e, more, hencode⟩ := exists_cons_encode hrest
      rw [encode_sextets hv hw hx hy, hencode]
      rw [hencode] at hmore
      exact decodeFrom_eq_ok_iff.2
        ⟨v, w, x, y, rest, ⟨hv, rfl⟩, ⟨hw, rfl⟩, ⟨hx, rfl⟩, ⟨hy, rfl⟩, hmore, rfl⟩

/-- What is read was written. -/
theorem eq_encode_of_decodeFrom {offset : Nat} (h : decodeFrom offset symbols = .ok bytes) :
    symbols = encode bytes := by
  induction offset, symbols using decodeFrom.induct generalizing bytes with
  | case1 offset a b c d e rest ih =>
    obtain ⟨v, w, x, y, more, ⟨hv, rfl⟩, ⟨hw, rfl⟩, ⟨hx, rfl⟩, ⟨hy, rfl⟩, hmore, rfl⟩ :=
      decodeFrom_eq_ok_iff.1 h
    rw [encode_sextets hv hw hx hy, ← ih hmore]
  | case2 offset group hgroup =>
    have hlength : group.length ≤ 4 := by
      match group, hgroup with
      | [], _ | [_], _ | [_, _], _ | [_, _, _], _ | [_, _, _, _], _ => simp
      | a :: b :: c :: d :: e :: rest, hgroup => exact (hgroup _ _ _ _ _ _ rfl).elim
    rw [decodeFrom_of_length_le hlength] at h
    obtain ⟨vs, hvs, hlast⟩ := exists_last_of_decodeLast hlength h
    obtain ⟨hlt, -, pads, rfl, -⟩ := lastValues_eq_ok hvs
    rw [List.length_append, List.length_map, List.length_replicate] at hlast
    exact hlast.encode_eq hlt

theorem length_encode : (encode bytes).length % 4 = 0 := by
  induction bytes using encode.induct with
  | case1 | case2 | case3 => simp [encode]
  | case4 a b c rest ih =>
    rw [encode]
    simp only [List.length_cons]
    omega

/-- Just what is written is accepted. -/
theorem decode_eq_ok_iff : decode symbols = .ok bytes ↔ symbols = encode bytes := by
  have hread : decodeFrom 0 symbols = .ok bytes ↔ symbols = encode bytes :=
    ⟨eq_encode_of_decodeFrom, fun h ↦ h ▸ decodeFrom_encode⟩
  rw [decode]
  cases hlast : symbols.getLast? with
  | none =>
    obtain rfl := List.getLast?_eq_none_iff.1 hlast
    exact hread
  | some b =>
    dsimp only
    split
    next hfour =>
      refine ⟨nofun, ?_⟩
      rintro rfl
      simp [length_encode] at hfour
    next => exact hread

/-! ### The standard -/

/-- The characters of the numbers below 64, in order. -/
def alphabet : String := "ABCDEFGHIJKLMNOPQRSTUVWXYZabcdefghijklmnopqrstuvwxyz0123456789+/"

/-- The character of a number below 64. -/
def letter (v : Nat) : Char := alphabet.toList[v]?.getD '='

/-- The lowest bits of a number, the highest of them first. -/
def bits : (width n : Nat) → List Bool
  | 0, _ => []
  | width + 1, n => bits width (n / 2) ++ [n % 2 == 1]

/-- Numbers of six bits that have the bits of some bytes and fewer than six zeros behind them. -/
def Covers (sextets : List Nat) (bytes : List UInt8) : Prop :=
  (∀ v ∈ sextets, v < 64) ∧ ∃ zeros < 6, sextets.flatMap (bits 6) =
    bytes.flatMap (fun a ↦ bits 8 a.toNat) ++ List.replicate zeros false

/-- A text is the Base64 of some bytes: the characters of numbers that cover them, and padding up to a
multiple of four. -/
def Spells (text : String) (bytes : List UInt8) : Prop :=
  ∃ sextets pads, Covers sextets bytes ∧ pads < 4 ∧ (sextets.length + pads) % 4 = 0 ∧
    text.toList = sextets.map letter ++ List.replicate pads '='

theorem bits_add (m k n : Nat) : bits (m + k) n = bits m (n / 2 ^ k) ++ bits k (n % 2 ^ k) := by
  induction k generalizing n with
  | zero => rw [Nat.pow_zero, Nat.div_one, bits, List.append_nil, Nat.add_zero]
  | succ k ih =>
    have hdiv : n % 2 ^ (k + 1) / 2 = n / 2 % 2 ^ k := by
      rw [Nat.pow_succ', Nat.mod_mul_right_div_self]
    have hmod : n % 2 ^ (k + 1) % 2 = n % 2 :=
      Nat.mod_mod_of_dvd n ⟨2 ^ k, Nat.pow_succ'⟩
    rw [← Nat.add_assoc, bits, ih, bits, hdiv, hmod, Nat.div_div_eq_div_mul, ← Nat.pow_succ',
      List.append_assoc]

theorem length_bits (width n : Nat) : (bits width n).length = width := by
  induction width generalizing n with
  | zero => rfl
  | succ width ih => rw [bits, List.length_append, ih, List.length_singleton]

theorem bits_zero (width : Nat) : bits width 0 = List.replicate width false := by
  induction width with
  | zero => rfl
  | succ width ih =>
    rw [bits, ih, List.replicate_succ']
    rfl

/-- A number is had back from its bits. -/
theorem bits_inj {width m n : Nat} (hm : m < 2 ^ width) (hn : n < 2 ^ width)
    (h : bits width m = bits width n) : m = n := by
  induction width generalizing m n with
  | zero => omega
  | succ width ih =>
    rw [Nat.pow_succ] at hm hn
    obtain ⟨hhigh, hlow⟩ := List.append_inj' h rfl
    have hhalf := ih (by omega) (by omega) hhigh
    have hlowest : m % 2 = 1 ↔ n % 2 = 1 := by simpa using hlow
    omega

/-- The bits of a number that is put together of two. -/
theorem bits_mul_add {m k : Nat} (hy : y < 2 ^ k) :
    bits (m + k) (x * 2 ^ k + y) = bits m x ++ bits k y := by
  rw [bits_add, Nat.add_comm, Nat.add_mul_div_right _ _ (Nat.two_pow_pos k),
    Nat.add_mul_mod_self_right, Nat.div_eq_of_lt hy, Nat.mod_eq_of_lt hy, Nat.zero_add]

/-- The bits of a byte that takes in two bits of the next symbol. -/
theorem bits_first (hw : w < 64) : bits 8 (v * 4 + w / 16) = bits 6 v ++ bits 2 (w / 16) :=
  bits_mul_add (m := 6) (k := 2) (by omega)

/-- The bits of a byte that takes in four bits of the next symbol. -/
theorem bits_second (hx : x < 64) :
    bits 8 (w % 16 * 16 + x / 4) = bits 4 (w % 16) ++ bits 4 (x / 4) :=
  bits_mul_add (m := 4) (k := 4) (by omega)

/-- The bits of a group. -/
theorem bits_sextets (hw : w < 64) (hx : x < 64) (hy : y < 64) :
    bits 8 (v * 4 + w / 16) ++ (bits 8 (w % 16 * 16 + x / 4) ++ bits 8 (x % 4 * 64 + y)) =
      bits 6 v ++ (bits 6 w ++ (bits 6 x ++ bits 6 y)) := by
  have hthird : bits 8 (x % 4 * 64 + y) = bits 2 (x % 4) ++ bits 6 y :=
    bits_mul_add (m := 2) (k := 6) hy
  have hmiddle : bits 6 w = bits 2 (w / 16) ++ bits 4 (w % 16) := bits_add 2 4 w
  have hlast : bits 6 x = bits 4 (x / 4) ++ bits 2 (x % 4) := bits_add 4 2 x
  rw [bits_first hw, bits_second hx, hthird, hmiddle, hlast]
  simp only [List.append_assoc]

/-- A group covers its bytes. -/
theorem Covers.cons_sextets {sextets : List Nat} (h : Covers sextets bytes) (hv : v < 64)
    (hw : w < 64) (hx : x < 64) (hy : y < 64) :
    Covers (v :: w :: x :: y :: sextets) ((v * 4 + w / 16).toUInt8 ::
      (w % 16 * 16 + x / 4).toUInt8 :: (x % 4 * 64 + y).toUInt8 :: bytes) := by
  obtain ⟨hsextets, zeros, hzeros, hbits⟩ := h
  refine ⟨?_, zeros, hzeros, ?_⟩
  · simp only [List.forall_mem_cons]
    exact ⟨hv, hw, hx, hy, hsextets⟩
  · have hgroup := bits_sextets (v := v) hw hx hy
    simp only [List.flatMap_cons, toNat_toUInt8 (show v * 4 + w / 16 < 256 by omega),
      toNat_toUInt8 (show w % 16 * 16 + x / 4 < 256 by omega),
      toNat_toUInt8 (show x % 4 * 64 + y < 256 by omega), hbits]
    rw [← List.append_assoc (bits 6 x), ← List.append_assoc (bits 6 w),
      ← List.append_assoc (bits 6 v), ← hgroup]
    simp only [List.append_assoc]

/-- The symbols of a last group cover its bytes. -/
theorem Last.covers {length : Nat} (h : Last vs length bytes) (hvs : ∀ v ∈ vs, v < 64) :
    Covers vs bytes := by
  have hall := hvs
  cases h with
  | none => exact ⟨hvs, 0, by decide, rfl⟩
  | @one v w hzero =>
    simp only [List.forall_mem_cons] at hvs
    obtain ⟨hv, hw, -⟩ := hvs
    have hlast : bits 6 w = bits 2 (w / 16) ++ bits 4 (w % 16) := bits_add 2 4 w
    refine ⟨hall, 4, by decide, ?_⟩
    simp only [List.flatMap_cons, List.flatMap_nil, List.append_nil]
    rw [toNat_toUInt8 (by omega), bits_first hw, hlast, hzero, bits_zero, List.append_assoc]
  | @two v w x hzero =>
    simp only [List.forall_mem_cons] at hvs
    obtain ⟨hv, hw, hx, -⟩ := hvs
    have hmiddle : bits 6 w = bits 2 (w / 16) ++ bits 4 (w % 16) := bits_add 2 4 w
    have hlast : bits 6 x = bits 4 (x / 4) ++ bits 2 (x % 4) := bits_add 4 2 x
    refine ⟨hall, 2, by decide, ?_⟩
    simp only [List.flatMap_cons, List.flatMap_nil, List.append_nil]
    rw [toNat_toUInt8 (by omega), toNat_toUInt8 (by omega), bits_first hw, bits_second hx, hmiddle,
      hlast, hzero, bits_zero]
    simp only [List.append_assoc]
  | @three v w x y =>
    simp only [List.forall_mem_cons] at hvs
    obtain ⟨hv, hw, hx, hy, hnil⟩ := hvs
    have hempty : Covers [] [] := ⟨hnil, 0, by decide, rfl⟩
    exact hempty.cons_sextets hv hw hx hy

/-- What is written is symbols that cover the bytes, and padding. -/
theorem exists_covers (bytes : List UInt8) : ∃ sextets pads, Covers sextets bytes ∧ pads < 4 ∧
    (sextets.length + pads) % 4 = 0 ∧
    encode bytes = sextets.map symbol ++ List.replicate pads padding := by
  have hshort : ∀ {bytes : List UInt8}, bytes.length ≤ 3 → ∃ sextets pads,
      Covers sextets bytes ∧ pads < 4 ∧ (sextets.length + pads) % 4 = 0 ∧
      encode bytes = sextets.map symbol ++ List.replicate pads padding := by
    intro bytes h
    obtain ⟨vs, pads, hvs, hpads, hfour, hlast⟩ := exists_last h
    refine ⟨vs, pads, hlast.covers hvs, by omega, ?_, (hlast.encode_eq hvs).symm⟩
    generalize vs.length + pads = length at hlast
    cases hlast <;> rfl
  induction bytes using encode.induct with
  | case1 | case2 | case3 => exact hshort (by simp)
  | case4 a b c rest ih =>
    obtain ⟨sextets, pads, hcovers, hpads, hlength, hencode⟩ := ih
    obtain ⟨v, w, x, y, hv, hw, hx, hy, rfl, rfl, rfl⟩ := exists_sextets a b c
    refine ⟨v :: w :: x :: y :: sextets, pads, hcovers.cons_sextets hv hw hx hy, hpads, ?_, ?_⟩
    · simp only [List.length_cons]
      omega
    · rw [encode_sextets hv hw hx hy, hencode]
      rfl

theorem flatMap_bits_inj {us vs : List Nat} (hus : ∀ v ∈ us, v < 64) (hvs : ∀ v ∈ vs, v < 64)
    (hlength : us.length = vs.length) (h : us.flatMap (bits 6) = vs.flatMap (bits 6)) : us = vs := by
  induction us generalizing vs with
  | nil => exact (List.eq_nil_of_length_eq_zero hlength.symm).symm
  | cons u us ih =>
    cases vs with
    | nil => cases hlength
    | cons v vs =>
      obtain ⟨hu, hus⟩ := List.forall_mem_cons.1 hus
      obtain ⟨hv, hvs⟩ := List.forall_mem_cons.1 hvs
      rw [List.flatMap_cons, List.flatMap_cons] at h
      obtain ⟨hhead, htail⟩ := List.append_inj h (by rw [length_bits, length_bits])
      rw [bits_inj hu hv hhead, ih hus hvs (Nat.succ.inj hlength) htail]

theorem length_flatMap_bits {α : Type} (width : Nat) (f : α → Nat) (l : List α) :
    (l.flatMap fun a ↦ bits width (f a)).length = width * l.length := by
  induction l with
  | nil => rfl
  | cons a l ih =>
    rw [List.flatMap_cons, List.length_append, length_bits, ih, List.length_cons, Nat.mul_succ,
      Nat.add_comm]

/-- There is one way to cover bytes. -/
theorem Covers.unique {us vs : List Nat} (hus : Covers us bytes) (hvs : Covers vs bytes) :
    us = vs := by
  obtain ⟨hus, zeros, hzeros, hubits⟩ := hus
  obtain ⟨hvs, zeros', hzeros', hvbits⟩ := hvs
  have hsize : ∀ l : List Nat, (l.flatMap (bits 6)).length = 6 * l.length :=
    length_flatMap_bits 6 id
  have hulength := congrArg List.length hubits
  have hvlength := congrArg List.length hvbits
  rw [List.length_append, length_flatMap_bits 8, List.length_replicate] at hulength hvlength
  rw [hsize] at hulength hvlength
  obtain rfl : zeros = zeros' := by omega
  exact flatMap_bits_inj hus hvs (by omega) (hubits.trans hvbits.symm)

theorem toList_toText {sextets : List Nat} {pads : Nat} (h : ∀ v ∈ sextets, v < 64) :
    (toText (sextets.map symbol ++ List.replicate pads padding)).toList =
      sextets.map letter ++ List.replicate pads '=' := by
  have hletter : ∀ v < 64, Char.ofNat (symbol v).toNat = letter v := by decide +kernel
  rw [toText, String.toList_ofList, List.map_append, List.map_map, List.map_replicate]
  congr 1
  exact List.map_congr_left fun v hv ↦ hletter v (h v hv)

/-- The text that is written is the standard one. -/
theorem spells_iff {text : String} : Spells text bytes ↔ text = encodeText bytes := by
  obtain ⟨sextets, pads, hcovers, hpads, hlength, hencode⟩ := exists_covers bytes
  have htext : (encodeText bytes).toList = sextets.map letter ++ List.replicate pads '=' := by
    rw [encodeText, hencode, toList_toText hcovers.1]
  constructor
  · rintro ⟨sextets', pads', hcovers', hpads', hlength', htext'⟩
    obtain rfl := hcovers'.unique hcovers
    obtain rfl : pads' = pads := by omega
    exact String.toList_inj.1 (htext'.trans htext.symm)
  · rintro rfl
    exact ⟨sextets, pads, hcovers, hpads, hlength, htext⟩

/-- A Base64 text is made of groups of four. -/
theorem Spells.length_mod {text : String} (h : Spells text bytes) : text.toList.length % 4 = 0 := by
  obtain ⟨sextets, pads, -, -, hlength, htext⟩ := h
  rwa [htext, List.length_append, List.length_map, List.length_replicate]

/-! ### Texts and bytes -/

/-- The characters of symbols are written as the symbols. -/
theorem encode_encodeText : Utf8.encode (encodeText bytes) = encode bytes := by
  obtain ⟨sextets, pads, -, -, -, hencode⟩ := exists_covers bytes
  have hascii : ∀ b ∈ encode bytes, b.toNat < 0x80 := by
    rw [hencode]
    intro b hb
    rcases List.mem_append.1 hb with hb | hb
    · obtain ⟨v, -, rfl⟩ := List.mem_map.1 hb
      exact toNat_symbol_lt
    · rw [List.eq_of_mem_replicate hb]
      decide
  have hbyte : ∀ b ∈ encode bytes, String.utf8EncodeChar (Char.ofNat b.toNat) = [b] := by
    intro b hb
    have hb := hascii b hb
    have hchar : (Char.ofNat b.toNat).toNat = b.toNat := Utf8.toNat_ofNat (.inl (by omega))
    rw [Utf8.utf8EncodeChar_of_lt (by omega), hchar, toUInt8_eq rfl]
  rw [Utf8.encode, encodeText, toText, String.toList_ofList, List.flatMap_map,
    List.flatMap_congr hbyte, List.flatMap_singleton']

/-- A text is read as some bytes exactly if it is what is written for them. -/
theorem decode_encode_eq_ok_iff {text : String} :
    decode (Utf8.encode text) = .ok bytes ↔ text = encodeText bytes := by
  rw [decode_eq_ok_iff, ← encode_encodeText, Utf8.encode_inj]

end VaultAccess.Base64
