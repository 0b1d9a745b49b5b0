/-!
# Tables of code points

A class of characters is a table of code-point ranges, in ascending order and pairwise apart.
-/

namespace VaultAccess.Text

/-- A table of code-point ranges, both ends included. -/
abbrev Ranges := List (Nat × Nat)

/-- Whether a code point lies in one of the ranges. They ascend, so the first one that ends at or after
the code point decides. -/
def Ranges.contains (table : Ranges) (n : Nat) : Bool :=
  match table.find? fun r ↦ n ≤ r.2 with
  | some r => r.1 ≤ n
  | none => false

/-- The ranges of a table ascend and are apart from one another. -/
def Ranges.Ascending (table : Ranges) : Prop :=
  (∀ r ∈ table, r.1 ≤ r.2) ∧ table.Pairwise fun r s ↦ r.2 < s.1

/-- In a table in order, the first range that could hold a code point is the only one. -/
theorem Ranges.contains_iff {table : Ranges} (h : table.Ascending) (n : Nat) :
    table.contains n = true ↔ ∃ r ∈ table, r.1 ≤ n ∧ n ≤ r.2 := by
  obtain ⟨hle, hapart⟩ := h
  induction table with
  | nil => simp [contains]
  | cons r rest ih =>
    rw [List.pairwise_cons] at hapart
    by_cases hn : n ≤ r.2
    · have hcontains : contains (r :: rest) n = decide (r.1 ≤ n) := by simp [contains, hn]
      rw [hcontains, decide_eq_true_eq]
      refine ⟨fun h1 ↦ ⟨r, by simp, h1, hn⟩, fun ⟨s, hs, h1, _⟩ ↦ ?_⟩
      rcases List.mem_cons.mp hs with rfl | hs
      · exact h1
      · have := hapart.1 s hs
        omega
    · have hcontains : contains (r :: rest) n = contains rest n := by simp [contains, hn]
      rw [hcontains, ih (fun s hs ↦ hle s (by simp [hs])) hapart.2]
      refine ⟨fun ⟨s, hs, h⟩ ↦ ⟨s, by simp [hs], h⟩, fun ⟨s, hs, h⟩ ↦ ?_⟩
      rcases List.mem_cons.mp hs with rfl | hs
      · exact absurd h.2 hn
      · exact ⟨s, hs, h⟩

end VaultAccess.Text
