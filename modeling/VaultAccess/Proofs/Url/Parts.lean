import VaultAccess.Proofs.Lists
import VaultAccess.Url.Parts

/-!
# Parts of a text

`splitAt` is the library's `List.splitOn`, so a text is its parts, joined, and parts that are joined
are those that the text is cut into.
-/

namespace VaultAccess.Url

variable {c separator : Char} {s cs ds : List Char} {segments : List (List Char)}

/-! ### Cutting and joining -/

theorem splitAt_eq_splitOn : splitAt separator cs = cs.splitOn separator := by
  induction cs with
  | nil => rfl
  | cons c cs ih =>
    rw [splitAt, ih, List.splitOn_cons_eq_if_modifyHead]
    cases hsplit : cs.splitOn separator with
    | nil => exact absurd hsplit (List.splitOn_ne_nil _ _)
    | cons part parts => rfl

theorem splitAt_append_cons :
    splitAt separator (cs ++ separator :: ds) = splitAt separator cs ++ splitAt separator ds := by
  simp only [splitAt_eq_splitOn]
  exact List.splitOn_append_cons_self cs ds

/-- A text is its parts, joined. -/
theorem intercalate_splitAt :
    [separator].intercalate (splitAt separator cs) = cs := by
  rw [splitAt_eq_splitOn]
  exact List.intercalate_splitOn separator

/-- Parts that are joined are those that the text is cut into. -/
theorem splitAt_intercalate (hne : segments ≠ [])
    (h : ∀ s ∈ segments, separator ∉ s) :
    splitAt separator ([separator].intercalate segments) = segments := by
  rw [splitAt_eq_splitOn]
  exact List.splitOn_intercalate separator h hne

theorem mem_of_mem_intercalate (h : c ∈ [separator].intercalate segments) :
    c = separator ∨ ∃ s ∈ segments, c ∈ s := by
  induction segments with
  | nil => simp [List.intercalate] at h
  | cons s segments ih =>
    cases segments with
    | nil => exact .inr ⟨s, by simp, by simpa [List.intercalate] using h⟩
    | cons t segments =>
      rw [List.intercalate_cons_cons, List.mem_append, List.mem_append, List.mem_singleton] at h
      rcases h with (h | rfl) | h
      · exact .inr ⟨s, by simp, h⟩
      · exact .inl rfl
      · exact (ih h).imp_right fun ⟨s, hs, hc⟩ ↦ ⟨s, List.mem_cons_of_mem _ hs, hc⟩

theorem mem_of_mem_splitAt (hs : s ∈ splitAt separator cs) (hc : c ∈ s) :
    c ∈ cs ∧ c ≠ separator := by
  induction cs generalizing s with
  | nil =>
    obtain rfl : s = [] := by simpa [splitAt] using hs
    cases hc
  | cons d cs ih =>
    rw [splitAt] at hs
    split at hs
    next part parts hsplit =>
      have hpart : part ∈ splitAt separator cs := by simp [hsplit]
      have hrest : ∀ s ∈ parts, s ∈ splitAt separator cs := by simp +contextual [hsplit]
      split at hs
      next =>
        rcases List.mem_cons.1 hs with rfl | hs
        · cases hc
        · have hs' : s ∈ splitAt separator cs := by rwa [hsplit]
          exact (ih hs' hc).imp_left (List.mem_cons_of_mem _)
      next hne =>
        rcases List.mem_cons.1 hs with rfl | hs
        · rcases List.mem_cons.1 hc with rfl | hc
          · exact ⟨List.mem_cons_self, by simpa using hne⟩
          · exact (ih hpart hc).imp_left (List.mem_cons_of_mem _)
        · exact (ih (hrest s hs) hc).imp_left (List.mem_cons_of_mem _)
    next hsplit => exact absurd hsplit (splitAt_ne_nil _ _)

end VaultAccess.Url
