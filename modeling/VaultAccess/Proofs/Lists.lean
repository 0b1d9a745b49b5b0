/-!
# Lists that are read part by part

A list is read if each of its parts is, and is then the list of what its parts are read as.
-/

namespace VaultAccess

variable {α β : Type} {f : α → Option β} {g : β → α} {xs : List α} {ys : List β} {y : β}

theorem mapM_cons_eq_some {x : α} :
    (x :: xs).mapM f = some ys ↔
      ∃ y rest, f x = some y ∧ xs.mapM f = some rest ∧ ys = y :: rest := by
  simp only [List.mapM_cons, Option.bind_eq_bind, Option.bind_eq_some_iff, Option.pure_def,
    Option.some.injEq]
  constructor
  · rintro ⟨y, hy, rest, hrest, rfl⟩
    exact ⟨y, rest, hy, hrest, rfl⟩
  · rintro ⟨y, rest, hy, hrest, rfl⟩
    exact ⟨y, hy, rest, hrest, rfl⟩

/-- Whatever has been read is what some part was read as. -/
theorem exists_of_mem_mapM (h : xs.mapM f = some ys) (hy : y ∈ ys) : ∃ x ∈ xs, f x = some y := by
  induction xs generalizing ys with
  | nil =>
    obtain rfl : [] = ys := Option.some.inj h
    cases hy
  | cons x xs ih =>
    obtain ⟨z, rest, hz, hrest, rfl⟩ := mapM_cons_eq_some.1 h
    rcases List.mem_cons.1 hy with rfl | hy
    · exact ⟨x, List.mem_cons_self, hz⟩
    · obtain ⟨x', hx', hy'⟩ := ih hrest hy
      exact ⟨x', List.mem_cons_of_mem _ hx', hy'⟩

/-- Parts that are written as they were are the same parts. -/
theorem map_of_mapM (h : xs.mapM f = some ys) (hg : ∀ x ∈ xs, ∀ y, f x = some y → g y = x) :
    ys.map g = xs := by
  induction xs generalizing ys with
  | nil =>
    obtain rfl : [] = ys := Option.some.inj h
    rfl
  | cons x xs ih =>
    obtain ⟨y, rest, hy, hrest, rfl⟩ := mapM_cons_eq_some.1 h
    obtain ⟨hx, hxs⟩ := List.forall_mem_cons.1 hg
    rw [List.map_cons, hx y hy, ih hrest hxs]

/-- Parts that are read as what they were written for. -/
theorem mapM_map_eq_some (h : ∀ y ∈ ys, f (g y) = some y) : (ys.map g).mapM f = some ys := by
  induction ys with
  | nil => rfl
  | cons y ys ih =>
    obtain ⟨hy, hys⟩ := List.forall_mem_cons.1 h
    exact mapM_cons_eq_some.2 ⟨y, ys, hy, ih hys, rfl⟩

end VaultAccess
