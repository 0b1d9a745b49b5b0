import VaultAccess.Proofs.Url.Encoding
import VaultAccess.Proofs.Url.Parts
import VaultAccess.Url.Path

/-!
# Paths that are read as they stand

The path of a URL is followed segment by segment, and on the way dots leave directories, backslashes
become slashes and some characters are dropped. A text with nothing of the kind is `Steady`: it is
read as it stands, but for the encoding of its characters (`render_pathOf_of_steady`).

A path that has been read is made of segments that are settled (`isSettledSegment_of_mem_follow`),
so it is steady when it is printed (`steady_intercalate`). Steady texts can be joined by a slash and
cut at slashes (`steady_append_iff`), so what is printed stays steady when the slashes at its end
are taken away and another steady path is put behind it.
-/

namespace VaultAccess.Url

variable {c : Char} {s cs ds : List Char} {segments before : List (List Char)}

/-- Texts can be encoded part by part. -/
theorem encode_intercalate {isEncoded : Char → Bool} {separator : Char}
    (h : isEncoded separator = false) :
    [separator].intercalate (segments.map (encode isEncoded)) =
      encode isEncoded ([separator].intercalate segments) := by
  induction segments with
  | nil => rfl
  | cons s segments ih =>
    cases segments with
    | nil => simp [List.intercalate]
    | cons t segments =>
      have hself : encode isEncoded [separator] = [separator] := by simp [encode, encodeChar, h]
      rw [List.intercalate_cons_cons, encode_append, encode_append, ← ih, hself]
      exact List.intercalate_cons_cons

/-! ### Segments -/

/-- Whether a segment stands for a directory. -/
def isDots (s : List Char) : Bool := isSingleDot s || isDoubleDot s

/-- A segment as it stands in a URL that has been read. -/
structure IsSettledSegment (s : List Char) : Prop where
  not_encoded : ∀ c ∈ s, pathSet c = false
  not_separator : ∀ c ∈ s, isSeparator true c = false
  not_dots : isDots s = false

theorem isSettledSegment_iff :
    IsSettledSegment s ↔
      (s.all fun c ↦ !pathSet c && !isSeparator true c) = true ∧ isDots s = false := by
  simp only [List.all_eq_true, Bool.and_eq_true, Bool.not_eq_true']
  exact ⟨fun h ↦ ⟨fun c hc ↦ ⟨h.not_encoded c hc, h.not_separator c hc⟩, h.not_dots⟩,
    fun h ↦ ⟨fun c hc ↦ (h.1 c hc).1, fun c hc ↦ (h.1 c hc).2, h.2⟩⟩

instance : Decidable (IsSettledSegment s) := decidable_of_iff _ isSettledSegment_iff.symm

/-- A text that is followed as it stands. -/
structure Steady (cs : List Char) : Prop where
  not_ignored : ∀ c ∈ cs, isIgnored c = false
  not_backslash : ∀ c ∈ cs, c ≠ '\\'
  not_dots : ∀ s ∈ splitAt '/' cs, isDots (encode pathSet s) = false

/-- What is dropped from a path are controls. -/
theorem isIgnored_of_controls (h : controls c = false) : isIgnored c = false := by
  rw [Bool.eq_false_iff]
  intro hignored
  simp only [isIgnored, Bool.or_eq_true, beq_iff_eq] at hignored
  rcases hignored with (rfl | rfl) | rfl <;> exact absurd h (by decide)

theorem isIgnored_of_fragmentSet (h : fragmentSet c = false) : isIgnored c = false := by
  simp only [fragmentSet, Bool.or_eq_false_iff] at h
  exact isIgnored_of_controls (by simp [h])

theorem isIgnored_of_pathSet (h : pathSet c = false) : isIgnored c = false := by
  simp only [pathSet, Bool.or_eq_false_iff] at h
  exact isIgnored_of_fragmentSet (by simp [h])

theorem withoutIgnored_eq_self (h : ∀ c ∈ cs, isIgnored c = false) : withoutIgnored cs = cs :=
  List.filter_eq_self.2 (by simpa using h)

/-! ### Following segments -/

/-- Without dots on the way every segment is kept. -/
theorem follow_of_not_dots (h : ∀ s ∈ segments, isDots (encodeSegment s) = false) :
    follow false before segments = before.reverse ++ segments.map encodeSegment := by
  induction segments generalizing before with
  | nil => simp [follow]
  | cons s segments ih =>
    obtain ⟨hs, hsegments⟩ := List.forall_mem_cons.1 h
    obtain ⟨hsingle, hdouble⟩ : isSingleDot (encodeSegment s) = false ∧
        isDoubleDot (encodeSegment s) = false := by simpa [isDots] using hs
    simp [follow, hsingle, hdouble, segmentOf, ih hsegments]

/-- A path that is followed ends somewhere. -/
theorem follow_ne_nil (h : segments ≠ []) : follow false before segments ≠ [] := by
  induction segments generalizing before with
  | nil => exact absurd rfl h
  | cons s segments ih =>
    cases segments with
    | nil =>
      simp only [follow, Bool.false_and, Bool.false_eq_true, if_false]
      split
      · simp
      · split <;> simp
    | cons t segments =>
      rw [follow]
      simp only [Bool.false_and, Bool.false_eq_true, if_false]
      split
      · exact ih (List.cons_ne_nil _ _)
      · split <;> exact ih (List.cons_ne_nil _ _)

theorem isSettledSegment_nil : IsSettledSegment [] := ⟨nofun, nofun, rfl⟩

theorem mem_of_mem_leave (h : s ∈ leave before) : s ∈ before := by
  cases before with
  | nil => exact h
  | cons last before =>
    rw [leave] at h
    split at h
    · exact h
    · exact List.mem_cons_of_mem _ h

/-- What is kept of a segment without separators is settled. -/
theorem isSettledSegment_encodeSegment (h : ∀ c ∈ s, isSeparator true c = false)
    (hdots : isDots (encodeSegment s) = false) : IsSettledSegment (encodeSegment s) where
  not_encoded _ := isEncoded_of_mem_encode spares_pathSet
  not_separator c hc := by
    rcases mem_encode hc with ⟨hc, -⟩ | hc
    · exact h c (List.mem_filter.1 hc).1
    · have hall : (byteChars.all fun c ↦ !isSeparator true c) = true := rfl
      simpa using List.all_eq_true.1 hall c hc
  not_dots := hdots

/-- The empty segment that ends a directory is settled if the rest is. -/
theorem isSettledSegment_of_mem_directory {ends : Prop} [Decidable ends]
    (hbefore : ∀ s ∈ before, IsSettledSegment s)
    (h : s ∈ if ends then [] :: before else before) : IsSettledSegment s := by
  split at h
  · rcases List.mem_cons.1 h with rfl | h
    · exact isSettledSegment_nil
    · exact hbefore s h
  · exact hbefore s h

/-- The segments of a path that has been followed are settled. -/
theorem isSettledSegment_of_mem_follow (hbefore : ∀ s ∈ before, IsSettledSegment s)
    (hsegments : ∀ s ∈ segments, ∀ c ∈ s, isSeparator true c = false)
    (h : s ∈ follow false before segments) : IsSettledSegment s := by
  -- what is left behind was kept before, or is the empty segment that ends a directory
  induction segments generalizing before with
  | nil => exact hbefore s (by simpa [follow] using h)
  | cons raw segments ih =>
    obtain ⟨hraw, hrest⟩ := List.forall_mem_cons.1 hsegments
    simp only [follow, Bool.false_and, Bool.false_eq_true, if_false] at h
    split at h
    · have hleft : ∀ t ∈ leave before, IsSettledSegment t := fun t ht ↦
        hbefore t (mem_of_mem_leave ht)
      exact ih (fun t ↦ isSettledSegment_of_mem_directory hleft) hrest h
    next hdouble =>
      split at h
      · exact ih (fun t ↦ isSettledSegment_of_mem_directory hbefore) hrest h
      next hsingle =>
        refine ih (fun t ht ↦ ?_) hrest h
        rcases List.mem_cons.1 ht with rfl | ht
        · exact isSettledSegment_encodeSegment hraw (by simp [isDots, hdouble, hsingle])
        · exact hbefore t ht

/-! ### Steady texts -/

theorem steady_append_iff : Steady (cs ++ '/' :: ds) ↔ Steady cs ∧ Steady ds := by
  constructor
  · rintro ⟨hignored, hbackslash, hdots⟩
    rw [splitAt_append_cons] at hdots
    exact ⟨⟨fun c hc ↦ hignored c (by simp [hc]), fun c hc ↦ hbackslash c (by simp [hc]),
        fun s hs ↦ hdots s (List.mem_append_left _ hs)⟩,
      ⟨fun c hc ↦ hignored c (by simp [hc]), fun c hc ↦ hbackslash c (by simp [hc]),
        fun s hs ↦ hdots s (List.mem_append_right _ hs)⟩⟩
  · rintro ⟨hcs, hds⟩
    refine ⟨fun c hc ↦ ?_, fun c hc ↦ ?_, fun s hs ↦ ?_⟩
    · rcases List.mem_append.1 hc with hc | hc
      · exact hcs.not_ignored c hc
      · rcases List.mem_cons.1 hc with rfl | hc
        · decide
        · exact hds.not_ignored c hc
    · rcases List.mem_append.1 hc with hc | hc
      · exact hcs.not_backslash c hc
      · rcases List.mem_cons.1 hc with rfl | hc
        · decide
        · exact hds.not_backslash c hc
    · rw [splitAt_append_cons] at hs
      exact (List.mem_append.1 hs).elim (hcs.not_dots s) (hds.not_dots s)

/-- Settled segments, joined, are steady. -/
theorem steady_intercalate (hne : segments ≠ []) (h : ∀ s ∈ segments, IsSettledSegment s) :
    Steady (['/'].intercalate segments) := by
  have hslash : ∀ s ∈ segments, '/' ∉ s := fun s hs hmem ↦
    absurd ((h s hs).not_separator _ hmem) (by decide)
  refine ⟨fun c hc ↦ ?_, fun c hc ↦ ?_, fun s hs ↦ ?_⟩
  · rcases mem_of_mem_intercalate hc with rfl | ⟨s, hs, hc⟩
    · decide
    · exact isIgnored_of_pathSet ((h s hs).not_encoded c hc)
  · rcases mem_of_mem_intercalate hc with rfl | ⟨s, hs, hc⟩
    · decide
    · rintro rfl
      exact absurd ((h s hs).not_separator _ hc) (by decide)
  · rw [splitAt_intercalate hne hslash] at hs
    rw [encode_eq_self (h s hs).not_encoded]
    exact (h s hs).not_dots

theorem IsSettledSegment.steady (h : IsSettledSegment s) : Steady s := by
  have hone := steady_intercalate (List.cons_ne_nil s []) (List.forall_mem_singleton.2 h)
  rwa [List.intercalate_singleton] at hone

theorem rawSegments_of_steady (h : Steady cs) : rawSegments true cs = splitAt '/' cs := by
  have hsame : cs.map (fun c ↦ if isSeparator true c = true then '/' else c) = cs := by
    refine (List.map_congr_left fun c hc ↦ ?_).trans (List.map_id cs)
    by_cases hslash : c = '/'
    · simp [hslash]
    · simp [isSeparator, hslash, h.not_backslash c hc]
  rw [rawSegments, hsame]

/-- A steady text behind a slash is read as it stands, but for the encoding of its characters. -/
theorem pathOf_of_steady (h : Steady cs) :
    pathOf true ('/' :: cs) =
      .segments ((splitAt '/' cs).map fun s ↦ String.ofList (encode pathSet s)) := by
  have hplain : ∀ s ∈ splitAt '/' cs, encodeSegment s = encode pathSet s := fun s hs ↦
    congrArg _ (withoutIgnored_eq_self fun c hc ↦ h.not_ignored c (mem_of_mem_splitAt hs hc).1)
  have hdots : ∀ s ∈ splitAt '/' cs, isDots (encodeSegment s) = false := fun s hs ↦ by
    rw [hplain s hs]
    exact h.not_dots s hs
  have hsegments : segmentsOf true ('/' :: cs) = splitAt '/' cs := by
    rw [← rawSegments_of_steady h]
    rfl
  rw [pathOf, hsegments, follow_of_not_dots hdots]
  simp only [List.isEmpty_cons, Bool.false_and, Bool.false_eq_true, if_false, List.reverse_nil,
    List.nil_append, List.map_map]
  exact congrArg _ (List.map_congr_left fun s hs ↦ congrArg String.ofList (hplain s hs))

/-! ### Printing -/

/-- A path of segments is printed with a slash before each of them. -/
theorem render_segments (hne : segments ≠ []) :
    (Path.segments (segments.map String.ofList)).render =
      String.ofList ('/' :: ['/'].intercalate segments) := by
  refine String.toList_inj.1 ?_
  rw [Path.render, String.toList_join, String.toList_ofList]
  induction segments with
  | nil => exact absurd rfl hne
  | cons s segments ih =>
    cases segments with
    | nil => simp [List.intercalate]
    | cons t segments =>
      have hrest := ih (List.cons_ne_nil _ _)
      rw [List.map_cons, List.map_cons, List.flatMap_cons, hrest, List.intercalate_cons_cons]
      simp

theorem render_pathOf_of_steady (h : Steady cs) :
    (pathOf true ('/' :: cs)).render = String.ofList ('/' :: encode pathSet cs) := by
  have hne : (splitAt '/' cs).map (encode pathSet) ≠ [] := by simp [splitAt_ne_nil]
  have hpath : pathOf true ('/' :: cs) =
      .segments (((splitAt '/' cs).map (encode pathSet)).map String.ofList) := by
    rw [pathOf_of_steady h, List.map_map]
    rfl
  rw [hpath, render_segments hne, encode_intercalate (by decide), intercalate_splitAt]

end VaultAccess.Url
