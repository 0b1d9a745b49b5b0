import VaultAccess.Proofs.Url.Encoding
import VaultAccess.Proofs.Url.LongAddresses
import VaultAccess.Proofs.Url.Names

/-!
# Hosts are read as they are printed

A host that has been read is settled (`isSettled_of_specialHost?`): it is a name in the form in
which names are sent, or an address in range. When it is printed and read again, if that can be
done, it is the same host (`specialHost?_render`). Only a name with a label that begins with `xn--`
may have become unreadable.
-/

namespace VaultAccess.Url

open Domain

variable {c : Char} {cs : List Char} {host again : Host}

/-! ### Settled hosts -/

/-- A host as it comes out of a special URL that has been read. -/
def Host.IsSettled : Host → Prop
  | .name text => text.toList ≠ [] ∧
      (∀ c ∈ text.toList, isLow c = true ∧ isForbiddenInName c = false) ∧
        endsInNumber text.toList = false
  | .v4 address => address < 2 ^ 32
  | .v6 pieces => InRange pieces

/-- The name that the host of a special URL spells. -/
def spelled? (cs : List Char) : Option (List Char) :=
  (Utf8.decode? (decode (String.ofList cs))).bind fun s ↦ sent? s.toList

theorem specialHost?_of_name (h : cs.head? ≠ some '[') :
    specialHost? cs = (spelled? cs).bind fun name ↦
      if name.isEmpty || name.any isForbiddenInName then none
      else if endsInNumber name then (v4? name).map .v4
      else some (.name (String.ofList name)) := by
  rw [spelled?, Option.bind_assoc]
  cases cs with
  | nil => rfl
  | cons c cs =>
    rw [specialHost?]
    · rfl
    · rintro rest heq
      rw [heq] at h
      exact h rfl

theorem specialHost?_bracketed {inner : List Char} :
    specialHost? ('[' :: (inner ++ [']'])) = (v6? inner).map .v6 := by
  simp [specialHost?, bracketed?]

/-- A host that has been read is settled. -/
theorem isSettled_of_specialHost? (h : specialHost? cs = some host) : host.IsSettled := by
  by_cases hbracket : cs.head? = some '['
  · obtain ⟨rest, rfl⟩ : ∃ rest, cs = '[' :: rest := by
      cases cs with
      | nil => cases hbracket
      | cons c rest => exact ⟨rest, by rw [Option.some.inj hbracket]⟩
    rw [specialHost?, bracketed?] at h
    split at h
    next =>
      obtain ⟨pieces, hpieces, rfl⟩ := Option.map_eq_some_iff.1 h
      exact inRange_of_v6? hpieces
    next => cases h
  · rw [specialHost?_of_name hbracket] at h
    obtain ⟨name, hname, h⟩ := Option.bind_eq_some_iff.1 h
    obtain ⟨s, -, hsent⟩ := Option.bind_eq_some_iff.1 hname
    split at h
    next => cases h
    next hallowed =>
      obtain ⟨hne, hchars⟩ : name ≠ [] ∧ ∀ c ∈ name, isForbiddenInName c = false := by
        simpa using hallowed
      split at h
      next =>
        obtain ⟨address, haddress, rfl⟩ := Option.map_eq_some_iff.1 h
        exact lt_of_v4? haddress
      next hnumber =>
        obtain rfl := Option.some.inj h
        rw [Host.IsSettled, String.toList_ofList]
        exact ⟨hne, fun c hc ↦ ⟨isLow_of_sent? hsent hc, hchars c hc⟩, by simpa using hnumber⟩

/-! ### Printed hosts -/

/-- Whether a character may stand in a host that is printed. -/
def isInHost (c : Char) : Bool :=
  !controls c && (!isForbidden c || c == ':' || c == '[' || c == ']')

theorem isInHost_of_name (h : isForbiddenInName c = false) : isInHost c = true ∧ c ≠ '%' := by
  simp only [isForbiddenInName, Bool.or_eq_false_iff, beq_eq_false_iff_ne] at h
  simp [isInHost, h]

/-- A digit may stand in a name. -/
theorem isLow_of_mem_toDigits {base n : Nat} (hbase : 1 < base) (hle : base ≤ 16)
    (h : c ∈ Nat.toDigits base n) : isLow c = true ∧ isForbiddenInName c = false := by
  have hall : ∀ d < 16, isLow (Nat.digitChar d) = true ∧
      isForbiddenInName (Nat.digitChar d) = false := by decide
  obtain ⟨d, hd, rfl⟩ := exists_of_mem_toDigits hbase h
  exact hall d (by omega)

/-- An address of version four is written with characters of names. -/
theorem isLow_of_mem_renderV4 {n : Nat} (h : c ∈ (renderV4 n).toList) :
    isLow c = true ∧ isForbiddenInName c = false := by
  rw [toList_renderV4] at h
  rcases mem_of_mem_intercalate h with rfl | ⟨digits, hdigits, hc⟩
  · decide
  · obtain ⟨k, -, rfl⟩ := List.mem_map.1 hdigits
    exact isLow_of_mem_toDigits (by decide) (by decide) hc

theorem eq_colon_or_of_mem_join {pieces : List Nat} (h : c ∈ join pieces) :
    c = ':' ∨ isForbiddenInName c = false := by
  rcases mem_of_mem_intercalate h with rfl | ⟨digits, hdigits, hc⟩
  · exact .inl rfl
  · obtain ⟨k, -, rfl⟩ := List.mem_map.1 hdigits
    exact .inr (isLow_of_mem_toDigits (by decide) (by decide) hc).2

/-- An address of version six is written with colons and characters of names. -/
theorem eq_colon_or_of_mem_renderV6 {pieces : List Nat} (h : c ∈ (renderV6 pieces).toList) :
    c = ':' ∨ isForbiddenInName c = false := by
  rw [renderV6_eq] at h
  split at h
  · exact eq_colon_or_of_mem_join h
  · simp only [List.mem_append, List.mem_cons] at h
    rcases h with h | rfl | rfl | h
    · exact eq_colon_or_of_mem_join h
    · exact .inl rfl
    · exact .inl rfl
    · exact eq_colon_or_of_mem_join h

theorem toList_render_v6 {pieces : List Nat} :
    (Host.v6 pieces).render.toList = '[' :: ((renderV6 pieces).toList ++ [']']) := by
  simp [Host.render]

theorem renderV4_ne_nil {address : Nat} : (renderV4 address).toList ≠ [] := by
  rw [toList_renderV4]
  simp [octets, List.intercalate]

theorem render_ne_nil (h : host.IsSettled) : host.render.toList ≠ [] := by
  cases host with
  | name text => exact h.1
  | v4 address => exact renderV4_ne_nil
  | v6 pieces =>
    rw [toList_render_v6]
    exact List.cons_ne_nil _ _

theorem isInHost_of_mem_render (h : host.IsSettled) (hc : c ∈ host.render.toList) :
    isInHost c = true := by
  cases host with
  | name text => exact (isInHost_of_name (h.2.1 c hc).2).1
  | v4 address => exact (isInHost_of_name (isLow_of_mem_renderV4 hc).2).1
  | v6 pieces =>
    rw [toList_render_v6, List.mem_cons, List.mem_append, List.mem_singleton] at hc
    rcases hc with rfl | hc | rfl
    · decide
    · rcases eq_colon_or_of_mem_renderV6 hc with rfl | hc
      · decide
      · exact (isInHost_of_name hc).1
    · decide

/-! ### Reading printed hosts -/

/-- A text of characters that may stand in a name spells the name that it is. -/
theorem spelled?_of_isLow (hchars : ∀ c ∈ cs, isLow c = true ∧ isForbiddenInName c = false) :
    spelled? cs = sent? cs := by
  have hplain : ∀ c ∈ cs, controls c = false := fun c hc ↦ by
    have hallowed := (hchars c hc).2
    simp only [isForbiddenInName, Bool.or_eq_false_iff] at hallowed
    exact hallowed.1.2
  have hascii : ∀ c, controls c = false → c.toNat < 0x80 := fun c hc ↦ by
    simp only [controls, Bool.or_eq_false_iff, decide_eq_false_iff_not] at hc
    omega
  have hdecode : decode (String.ofList cs) = Utf8.encode (String.ofList cs) := by
    have hdecode := decode_encode hascii fun hmem : '%' ∈ cs ↦
      (isInHost_of_name (hchars _ hmem).2).2 rfl
    rwa [encode_eq_self hplain] at hdecode
  rw [spelled?, hdecode, Utf8.decode?_encode, Option.bind_some, String.toList_ofList]

/-- A name that is printed is not taken for an address in brackets. -/
theorem head?_ne_bracket (h : ∀ c ∈ cs, isLow c = true ∧ isForbiddenInName c = false) :
    cs.head? ≠ some '[' := fun hhead ↦
  absurd (h '[' (List.mem_of_mem_head? hhead)).2 (by decide)

/-- Such a text may be a name. -/
theorem isEmpty_or_any_eq_false (hne : cs ≠ [])
    (h : ∀ c ∈ cs, isLow c = true ∧ isForbiddenInName c = false) :
    (cs.isEmpty || cs.any isForbiddenInName) = false := by
  simpa [hne] using fun c hc ↦ (h c hc).2

/-- A name is read as it is printed, if it can be read. -/
theorem specialHost?_name {text : String} (h : (Host.name text).IsSettled) :
    specialHost? text.toList = (sent? text.toList).map fun _ ↦ .name text := by
  obtain ⟨hne, hchars, hnumber⟩ := h
  rw [specialHost?_of_name (head?_ne_bracket hchars), spelled?_of_isLow hchars]
  cases hsent : sent? text.toList with
  | none => rfl
  | some name =>
    obtain rfl := sent?_eq_self (fun c hc ↦ (hchars c hc).1) hsent
    rw [Option.bind_some, isEmpty_or_any_eq_false hne hchars, hnumber]
    exact congrArg (some ∘ Host.name) String.ofList_toList

/-- An address of version four is read as it is printed. -/
theorem specialHost?_renderV4 {address : Nat} (h : address < 2 ^ 32) :
    specialHost? (renderV4 address).toList = some (.v4 address) := by
  have hchars : ∀ c ∈ (renderV4 address).toList,
      isLow c = true ∧ isForbiddenInName c = false := fun c ↦ isLow_of_mem_renderV4
  have hplain : ∀ part ∈ splitAt '.' (renderV4 address).toList, ¬ "xn--".toList <+: part := by
    intro part hpart hmark
    rw [splitAt_renderV4] at hpart
    obtain ⟨k, -, rfl⟩ := List.mem_map.1 hpart
    -- there is no letter in a number
    have hdigit := Nat.isDigit_of_mem_toDigits (by decide) (by decide)
      (hmark.subset (show 'x' ∈ "xn--".toList by decide))
    exact absurd hdigit (by decide)
  rw [specialHost?_of_name (head?_ne_bracket hchars), spelled?_of_isLow hchars,
    sent?_of_unencoded (fun c hc ↦ (hchars c hc).1) hplain, Option.bind_some,
    isEmpty_or_any_eq_false renderV4_ne_nil hchars, endsInNumber_renderV4, v4?_renderV4 h]
  rfl

/-- A settled host that is printed and can be read again is the same host. -/
theorem specialHost?_render (h : host.IsSettled)
    (hagain : specialHost? host.render.toList = some again) : again = host := by
  cases host with
  | name text =>
    rw [Host.render, specialHost?_name h] at hagain
    obtain ⟨-, -, rfl⟩ := Option.map_eq_some_iff.1 hagain
    rfl
  | v4 address => exact (Option.some.inj ((specialHost?_renderV4 h).symm.trans hagain)).symm
  | v6 pieces =>
    rw [toList_render_v6, specialHost?_bracketed, v6?_renderV6 h] at hagain
    exact (Option.some.inj hagain).symm

/-- A host with no label that is written as `xn--`. -/
def Host.IsUnencoded : Host → Prop
  | .name text => ∀ label ∈ splitAt '.' text.toList, ¬ "xn--".toList <+: label
  | _ => True

/-- Such a host can be read again. -/
theorem specialHost?_of_unencoded (h : host.IsSettled) (hplain : host.IsUnencoded) :
    specialHost? host.render.toList = some host := by
  cases host with
  | name text =>
    rw [Host.render, specialHost?_name h, sent?_of_unencoded (fun c hc ↦ (h.2.1 c hc).1) hplain]
    rfl
  | v4 address => exact specialHost?_renderV4 h
  | v6 pieces => rw [toList_render_v6, specialHost?_bracketed, v6?_renderV6 h]; rfl

end VaultAccess.Url
