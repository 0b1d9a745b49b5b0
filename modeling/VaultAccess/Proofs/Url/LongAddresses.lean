import VaultAccess.Proofs.Url.Addresses

/-!
# Addresses of version six are read as they are printed

An address of version six is printed as hexadecimal numbers with colons between them, the longest
run of zeros being left out. When it is read, the text is cut at the gap: pieces and single colons
go by without one (`gap?_join`), so the first gap that is found is the one that was printed, and
what was left out there is a run of zeros (`take_longestZeros`).
-/

namespace VaultAccess.Url

variable {cs : List Char} {pieces : List Nat}

/-- The pieces of an address of version six: eight numbers of sixteen bits. -/
structure InRange (pieces : List Nat) : Prop where
  length : pieces.length = 8
  lt : ∀ p ∈ pieces, p < 65536

/-- Pieces with colons between them. -/
def join (pieces : List Nat) : List Char := [':'].intercalate (pieces.map (Nat.toDigits 16))

theorem join_cons_cons {p q : Nat} :
    join (p :: q :: pieces) = Nat.toDigits 16 p ++ ':' :: join (q :: pieces) := by
  simp [join, List.intercalate_cons_cons]

theorem join_singleton {p : Nat} : join [p] = Nat.toDigits 16 p := by
  simp [join, List.intercalate]

/-- Pieces that are joined begin with a digit. -/
theorem join_cons (p : Nat) (pieces : List Nat) :
    ∃ c cs, c ≠ ':' ∧ join (p :: pieces) = c :: cs := by
  obtain ⟨c, cs, hdigits⟩ := List.exists_cons_of_ne_nil (Nat.toDigits_ne_nil (b := 16) (n := p))
  have hmem : c ∈ Nat.toDigits 16 p := by simp [hdigits]
  have hc : c ≠ ':' := (ne_of_mem_toDigits (by decide) (by decide) hmem).2
  cases pieces with
  | nil => exact ⟨c, cs, hc, join_singleton.trans hdigits⟩
  | cons q pieces =>
    exact ⟨c, cs ++ ':' :: join (q :: pieces), hc, by rw [join_cons_cons, hdigits]; rfl⟩

theorem renderV6_eq :
    (renderV6 pieces).toList =
      if (longestZeros pieces).2 < 2 then join pieces
      else join (pieces.take (longestZeros pieces).1) ++ ':' :: ':' ::
        join (pieces.drop ((longestZeros pieces).1 + (longestZeros pieces).2)) := by
  have hjoin : ∀ ps : List Nat, (":".intercalate (ps.map renderPiece)).toList = join ps := by
    intro ps
    rw [String.toList_intercalate, join, List.map_map]
    exact congrArg _ (List.map_congr_left fun _ _ ↦ String.toList_ofList)
  rw [renderV6]
  dsimp only
  split
  · exact hjoin pieces
  · rw [String.toList_append, String.toList_append, hjoin, hjoin]
    simp

/-! ### Reading pieces -/

theorem piece?_toDigits {p : Nat} (h : p < 65536) : piece? (Nat.toDigits 16 p) = some p := by
  have hlength : (Nat.toDigits 16 p).length ≤ 4 :=
    (Nat.length_toDigits_le_iff (by decide) (by decide)).2 h
  rw [piece?, if_neg, numberIn?_toDigits (by decide) (by decide)]
  simpa using hlength

theorem pieces?_map {mayEmbed : Bool} (h : ∀ p ∈ pieces, p < 65536) :
    pieces? mayEmbed (pieces.map (Nat.toDigits 16)) = some pieces := by
  induction pieces with
  | nil => rfl
  | cons p pieces ih =>
    obtain ⟨hp, hpieces⟩ := List.forall_mem_cons.1 h
    cases pieces with
    | nil =>
      have hdot : '.' ∉ Nat.toDigits 16 p := fun hmem ↦
        (ne_of_mem_toDigits (by decide) (by decide) hmem).1 rfl
      simp [pieces?, piece?_toDigits hp, hdot]
    | cons q pieces =>
      have hrest := ih hpieces
      rw [List.map_cons] at hrest
      simp [pieces?, piece?_toDigits hp, hrest]

/-- One side of a gap is read as it is printed. -/
theorem side?_join {mayEmbed : Bool} (h : ∀ p ∈ pieces, p < 65536) :
    side? mayEmbed (join pieces) = some pieces := by
  cases pieces with
  | nil => rfl
  | cons p pieces =>
    have hsplit : splitAt ':' (join (p :: pieces)) = (p :: pieces).map (Nat.toDigits 16) := by
      refine splitAt_intercalate (by simp) fun s hs hmem ↦ ?_
      obtain ⟨q, -, rfl⟩ := List.mem_map.1 hs
      exact (ne_of_mem_toDigits (by decide) (by decide) hmem).2 rfl
    obtain ⟨c, cs, -, hjoin⟩ := join_cons p pieces
    rw [side?, hsplit, pieces?_map h, if_neg]
    simp [hjoin]

/-! ### Finding the gap -/

theorem gap?_append {digits : List Char} (h : ':' ∉ digits) :
    gap? (digits ++ cs) = (gap? cs).map fun (before, after) ↦ (digits ++ before, after) := by
  induction digits with
  | nil => simp
  | cons c digits ih =>
    obtain ⟨hc, hdigits⟩ := List.ne_and_not_mem_of_not_mem_cons h
    rw [List.cons_append, gap?, ih hdigits, Option.map_map]
    · rfl
    · rintro rest rfl
      exact absurd rfl hc

/-- Pieces go by without a gap. -/
theorem gap?_join (pieces : List Nat) (cs : List Char) :
    gap? (join pieces ++ cs) =
      (gap? cs).map fun (before, after) ↦ (join pieces ++ before, after) := by
  have hdigits : ∀ p, ':' ∉ Nat.toDigits 16 p := fun p hmem ↦
    (ne_of_mem_toDigits (by decide) (by decide) hmem).2 rfl
  induction pieces with
  | nil => simp [join, List.intercalate]
  | cons p pieces ih =>
    cases pieces with
    | nil =>
      rw [join_singleton]
      exact gap?_append (hdigits p)
    | cons q pieces =>
      obtain ⟨c, digits, hc, hjoin⟩ := join_cons q pieces
      have hcolon : gap? (':' :: (join (q :: pieces) ++ cs)) =
          (gap? (join (q :: pieces) ++ cs)).map fun (before, after) ↦ (':' :: before, after) := by
        rw [hjoin, List.cons_append, gap?]
        rintro rest - heq
        exact hc (List.cons.inj heq).1
      rw [join_cons_cons, List.append_assoc, gap?_append (hdigits p), List.cons_append, hcolon, ih,
        Option.map_map, Option.map_map]
      congr 1
      funext x
      simp

/-! ### Runs of zeros -/

/-- What is counted as zeros are zeros. -/
theorem take_of_le_zerosAt {size : Nat} (h : size ≤ zerosAt pieces) :
    pieces.take size = List.replicate size 0 := by
  induction pieces generalizing size with
  | nil =>
    obtain rfl := Nat.le_zero.1 h
    rfl
  | cons p pieces ih =>
    cases size with
    | zero => rfl
    | succ size =>
      by_cases hp : p = 0
      · have hrest : size ≤ zerosAt pieces := by simpa [zerosAt, hp] using h
        rw [List.take_succ_cons, ih hrest, hp, List.replicate_succ]
      · simp [zerosAt, hp] at h

theorem zerosAt_le (pieces : List Nat) : zerosAt pieces ≤ pieces.length :=
  (List.takeWhile_prefix _).length_le

/-- The run that is found lies in the pieces and is one of zeros. -/
theorem longestZeros_spec (pieces : List Nat) :
    (longestZeros pieces).1 + (longestZeros pieces).2 ≤ pieces.length ∧
      (longestZeros pieces).2 ≤ zerosAt (pieces.drop (longestZeros pieces).1) := by
  -- of the best run so far all that matters is where it lies and that it is one
  have hfold : ∀ (indices : List Nat) (best : Nat × Nat), (∀ i ∈ indices, i < pieces.length) →
      best.1 + best.2 ≤ pieces.length ∧ best.2 ≤ zerosAt (pieces.drop best.1) →
      let found := indices.foldl (fun best i ↦
        let n := zerosAt (pieces.drop i)
        if n > best.2 then (i, n) else best) best
      found.1 + found.2 ≤ pieces.length ∧ found.2 ≤ zerosAt (pieces.drop found.1) := by
    intro indices
    induction indices with
    | nil => exact fun _ _ h ↦ h
    | cons i indices ih =>
      intro best hindices hbest
      obtain ⟨hi, hrest⟩ := List.forall_mem_cons.1 hindices
      refine ih _ hrest ?_
      dsimp only
      split
      · have hle : zerosAt (pieces.drop i) ≤ pieces.length - i := by
          simpa using zerosAt_le (pieces.drop i)
        exact ⟨by dsimp only; omega, Nat.le_refl _⟩
      · exact hbest
  exact hfold _ (0, 0) (fun i ↦ List.mem_range.1) ⟨Nat.zero_le _, Nat.zero_le _⟩

/-- What is left out of the printed form is a run of zeros. -/
theorem take_longestZeros (pieces : List Nat) :
    pieces = pieces.take (longestZeros pieces).1 ++
      List.replicate (longestZeros pieces).2 0 ++
        pieces.drop ((longestZeros pieces).1 + (longestZeros pieces).2) := by
  rw [← take_of_le_zerosAt (longestZeros_spec pieces).2, List.append_assoc, ← List.drop_drop,
    List.take_append_drop, List.take_append_drop]

/-! ### Addresses -/

/-- An address of version six is read as it is printed. -/
theorem v6?_renderV6 (h : InRange pieces) : v6? (renderV6 pieces).toList = some pieces := by
  rw [renderV6_eq]
  obtain ⟨hle, -⟩ := longestZeros_spec pieces
  have hparts := take_longestZeros pieces
  -- how the run was found does not matter from here on
  generalize (longestZeros pieces).1 = start at *
  generalize (longestZeros pieces).2 = size at *
  split
  next =>
    have hgap : gap? (join pieces) = none := by
      simpa [gap?] using gap?_join pieces []
    rw [v6?, hgap]
    simp [side?_join h.lt, h.length]
  next hsize =>
    have hgap : gap? (join (pieces.take start) ++ ':' :: ':' :: join (pieces.drop (start + size))) =
        some (join (pieces.take start), join (pieces.drop (start + size))) := by
      rw [gap?_join]
      simp [gap?]
    have hbefore : side? false (join (pieces.take start)) = some (pieces.take start) :=
      side?_join fun p hp ↦ h.lt p (List.mem_of_mem_take hp)
    have hafter : side? true (join (pieces.drop (start + size))) =
        some (pieces.drop (start + size)) :=
      side?_join fun p hp ↦ h.lt p (List.mem_of_mem_drop hp)
    have hlength := h.length
    have hleft : 8 - (pieces.take start).length - (pieces.drop (start + size)).length = size := by
      rw [List.length_take, List.length_drop]
      omega
    rw [v6?, hgap]
    simp only [Option.bind_eq_bind, Option.bind_some, hbefore, hafter, hleft]
    rw [if_pos, ← hparts]
    rw [List.length_take, List.length_drop]
    omega

/-! ### Addresses that have been read -/

theorem lt_of_piece? {p : Nat} (h : piece? cs = some p) : p < 65536 := by
  rw [piece?] at h
  split at h
  next => cases h
  next hlength =>
    have hle : cs.length ≤ 4 := by
      simp only [Bool.or_eq_true, decide_eq_true_eq, not_or] at hlength
      omega
    exact Nat.lt_of_lt_of_le (lt_of_numberIn? h) (Nat.pow_le_pow_right (by decide) hle)

theorem lt_of_embedded? (h : embedded? cs = some pieces) : ∀ p ∈ pieces, p < 65536 := by
  obtain ⟨parts, hparts, h⟩ := Option.bind_eq_some_iff.1 h
  split at h
  next a b c d =>
    have hoctet : ∀ k ∈ [a, b, c, d], k ≤ 255 := by
      intro k hk
      obtain ⟨part, -, hpart⟩ := exists_of_mem_mapM hparts hk
      rw [octet?] at hpart
      split at hpart
      · cases hpart
      · simpa using (Option.filter_eq_some_iff.1 hpart).2
    simp only [List.forall_mem_cons] at hoctet
    obtain rfl := Option.some.inj h
    simp only [List.forall_mem_cons, List.not_mem_nil, false_implies, implies_true, and_true]
    omega
  next => cases h

theorem lt_of_pieces? {mayEmbed : Bool} {parts : List (List Char)}
    (h : pieces? mayEmbed parts = some pieces) : ∀ p ∈ pieces, p < 65536 := by
  fun_induction pieces? mayEmbed parts generalizing pieces with
  | case1 =>
    obtain rfl := Option.some.inj h
    exact List.forall_mem_nil _
  | case2 => exact lt_of_embedded? h
  | case3 =>
    obtain ⟨p, hp, rfl⟩ := Option.map_eq_some_iff.1 h
    simpa using lt_of_piece? hp
  | case4 part parts hne ih =>
    obtain ⟨p, hp, h⟩ := Option.bind_eq_some_iff.1 h
    obtain ⟨rest, hrest, h⟩ := Option.bind_eq_some_iff.1 h
    obtain rfl := Option.some.inj h
    exact List.forall_mem_cons.2 ⟨lt_of_piece? hp, ih hrest⟩

theorem lt_of_side? {mayEmbed : Bool} (h : side? mayEmbed cs = some pieces) :
    ∀ p ∈ pieces, p < 65536 := by
  rw [side?] at h
  split at h
  · obtain rfl := Option.some.inj h
    exact List.forall_mem_nil _
  · exact lt_of_pieces? h

/-- The pieces of an address that has been read are in range. -/
theorem inRange_of_v6? (h : v6? cs = some pieces) : InRange pieces := by
  rw [v6?] at h
  split at h
  next =>
    obtain ⟨all, hall, h⟩ := Option.bind_eq_some_iff.1 h
    split at h
    next hlength =>
      obtain rfl := Option.some.inj h
      exact ⟨hlength, lt_of_side? hall⟩
    next => cases h
  next =>
    obtain ⟨before, hbefore, h⟩ := Option.bind_eq_some_iff.1 h
    obtain ⟨after, hafter, h⟩ := Option.bind_eq_some_iff.1 h
    split at h
    next hlength =>
      obtain rfl := Option.some.inj h
      constructor
      · simp only [List.length_append, List.length_replicate]
        omega
      · intro p hp
        simp only [List.mem_append, List.mem_replicate] at hp
        rcases hp with (hp | ⟨-, rfl⟩) | hp
        · exact lt_of_side? hbefore p hp
        · decide
        · exact lt_of_side? hafter p hp
    next => cases h

end VaultAccess.Url
