/-!
# Runs of a system

A system takes steps that cannot always be taken, so a run of it is a fold of a function that may
have no value. This module has what holds of runs whatever the system is: how they are taken apart,
that they keep what their steps keep, that what is new at their end came about in one of their
steps, and how something is read off their steps.
-/

namespace VaultAccess.Runs

variable {σ μ α : Type} {step : σ → μ → Option σ} {see : σ → μ → σ → Option α} {s s' t : σ} {m : μ}
  {ms ns : List μ}

/-- A run is a first step and a run after it. -/
theorem cons_eq_some :
    (m :: ms).foldlM step s = some t ↔ ∃ s', step s m = some s' ∧ ms.foldlM step s' = some t := by
  rw [List.foldlM_cons]
  exact Option.bind_eq_some_iff

/-- A run over two lists is a run over the first and one over the second after it. -/
theorem append_eq_some :
    (ms ++ ns).foldlM step s = some t ↔
      ∃ u, ms.foldlM step s = some u ∧ ns.foldlM step u = some t := by
  rw [List.foldlM_append]
  exact Option.bind_eq_some_iff

/-- What every step of a run keeps holds at its end if it holds at its beginning. -/
theorem preserves {P : σ → Prop} (hstep : ∀ s m s', m ∈ ms → step s m = some s' → P s → P s')
    (hrun : ms.foldlM step s = some t) (hs : P s) : P t := by
  induction ms generalizing s with
  | nil =>
    obtain rfl := Option.some.inj hrun
    exact hs
  | cons m ms ih =>
    obtain ⟨s', hm, hrest⟩ := cons_eq_some.1 hrun
    have hs' : P s' := hstep s m s' List.mem_cons_self hm hs
    exact ih (fun s m s' hmem ↦ hstep s m s' (List.mem_cons_of_mem _ hmem)) hrest hs'

/-- What holds at the end of a run and not at its beginning comes about in one of its steps. -/
theorem exists_turn {P : σ → Prop} (hrun : ms.foldlM step s = some t) (hs : ¬ P s) (ht : P t) :
    ∃ before m after u u', ms = before ++ m :: after ∧ before.foldlM step s = some u ∧
      step u m = some u' ∧ after.foldlM step u' = some t ∧ ¬ P u ∧ P u' := by
  induction ms generalizing s with
  | nil =>
    obtain rfl := Option.some.inj hrun
    exact absurd ht hs
  | cons m ms ih =>
    obtain ⟨s', hm, hrest⟩ := cons_eq_some.1 hrun
    by_cases hs' : P s'
    · exact ⟨[], m, ms, s, s', rfl, rfl, hm, hrest, hs, hs'⟩
    · obtain ⟨before, n, after, u, u', rfl, hbefore, hn, hafter, hu, hu'⟩ := ih hrest hs'
      exact ⟨m :: before, n, after, u, u', rfl, cons_eq_some.2 ⟨s', hm, hbefore⟩, hn, hafter,
        hu, hu'⟩

/-- What is seen of the steps of a run, in order. -/
def seen (step : σ → μ → Option σ) (see : σ → μ → σ → Option α) (s : σ) : List μ → List α
  | [] => []
  | m :: ms =>
    match step s m with
    | none => []
    | some s' => (see s m s').toList ++ seen step see s' ms

theorem seen_cons (hstep : step s m = some s') :
    seen step see s (m :: ms) = (see s m s').toList ++ seen step see s' ms := by
  rw [seen, hstep]

theorem seen_append (hrun : ms.foldlM step s = some t) :
    seen step see s (ms ++ ns) = seen step see s ms ++ seen step see t ns := by
  induction ms generalizing s with
  | nil =>
    obtain rfl := Option.some.inj hrun
    rfl
  | cons m ms ih =>
    obtain ⟨s', hm, hrest⟩ := cons_eq_some.1 hrun
    rw [List.cons_append, seen_cons hm, seen_cons hm, ih hrest, List.append_assoc]

/-- What is seen of a run with one step more. -/
theorem seen_concat (hrun : ms.foldlM step s = some t) (hstep : step t m = some s') :
    seen step see s (ms ++ [m]) = seen step see s ms ++ (see t m s').toList := by
  rw [seen_append hrun, seen_cons hstep, seen, List.append_nil]

end VaultAccess.Runs
