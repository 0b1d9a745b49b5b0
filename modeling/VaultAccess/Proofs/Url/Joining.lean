import Mathlib.Data.List.DropRight
import VaultAccess.Endpoint
import VaultAccess.Proofs.Url.Reading

/-!
# Paths behind the address of a server

An endpoint puts a path behind the printed URL of a server, from whose end slashes have been taken,
and what it gets is read as a URL again. If the URL of the server has neither query nor fragment,
the path is put behind its path (`read?_behind_path`). Otherwise it becomes part of the query
(`read?_behind_query`) or of the fragment (`read?_behind_fragment`), and the path of the URL stays
what it was.
-/

namespace VaultAccess.Url

variable {u : Url} {c : Char} {s f q : String} {cs ds : List Char} {host : Host}
  {query fragment : Option (List Char)}

/-! ### Slashes at the end -/

/-- A text without the slashes at its end. -/
def trimmed (cs : List Char) : List Char := cs.rdropWhile Endpoint.isSlash

theorem toList_trimEnd : (Endpoint.trimEnd s).toList = trimmed s.toList := String.toList_ofList

theorem exists_slashes (cs : List Char) :
    ∃ slashes, cs = trimmed cs ++ slashes ∧ ∀ c ∈ slashes, c = '/' :=
  ⟨cs.rtakeWhile Endpoint.isSlash, List.rdropWhile_append_rtakeWhile.symm,
    fun c hc ↦ by simpa [Endpoint.isSlash] using List.mem_rtakeWhile_imp hc⟩

theorem mem_of_mem_trimmed (h : c ∈ trimmed cs) : c ∈ cs := by
  obtain ⟨slashes, hparts, -⟩ := exists_slashes cs
  rw [hparts]
  exact List.mem_append_left _ h

/-- Slashes are taken from the end of a text that follows a character other than a slash. -/
theorem trimmed_append (h : ∀ c ∈ cs.getLast?, c ≠ '/') :
    trimmed (cs ++ ds) = cs ++ trimmed ds := by
  induction ds using List.reverseRecOn with
  | nil =>
    rw [List.append_nil]
    refine (List.rdropWhile_eq_self_iff.2 fun hne ↦ ?_).trans (List.append_nil cs).symm
    simpa [Endpoint.isSlash] using h _ (List.getLast?_eq_some_getLast hne)
  | append_singleton ds d ih =>
    rw [← List.append_assoc, trimmed, trimmed, List.rdropWhile_concat, List.rdropWhile_concat]
    split
    · exact ih
    · exact List.append_assoc ..

theorem trimmed_append_mark {mark : Char} (hmark : mark ≠ '/') :
    trimmed (cs ++ mark :: ds) = cs ++ mark :: trimmed ds := by
  have happend : cs ++ mark :: ds = (cs ++ [mark]) ++ ds := by simp
  rw [happend, trimmed_append (by simpa using hmark)]
  simp

/-- A steady text stays steady when slashes are taken from its end. -/
theorem steady_trimmed (h : Steady cs) :
    trimmed ('/' :: cs) = [] ∨ ∃ ds, trimmed ('/' :: cs) = '/' :: ds ∧ Steady ds := by
  obtain ⟨slashes, hparts, hslashes⟩ := exists_slashes ('/' :: cs)
  cases htrimmed : trimmed ('/' :: cs) with
  | nil => exact .inl rfl
  | cons c ds =>
    rw [htrimmed] at hparts
    obtain ⟨rfl, hcs⟩ := List.cons.inj hparts
    refine .inr ⟨ds, rfl, ?_⟩
    cases slashes with
    | nil => exact (hcs.trans (List.append_nil ds)) ▸ h
    | cons slash slashes =>
      obtain rfl := hslashes slash List.mem_cons_self
      exact (steady_append_iff.1 (hcs ▸ h)).1

/-! ### Paths that are printed -/

/-- The path of a settled URL is read as it is printed. -/
theorem IsSettled.exists_toList_path (h : u.IsSettled host) :
    ∃ cs, u.path.render.toList = '/' :: cs ∧ Steady cs ∧ (∀ c ∈ cs, pathSet c = false) ∧
      pathOf true ('/' :: cs) = u.path := by
  obtain ⟨segments, hne, hsettled, hpath⟩ := h.path
  have hslash : ∀ s ∈ segments, '/' ∉ s := fun s hs hmem ↦
    absurd ((hsettled s hs).not_separator _ hmem) (by decide)
  have hsteady := steady_intercalate hne hsettled
  refine ⟨['/'].intercalate segments, ?_, hsteady, fun c hc ↦ ?_, ?_⟩
  · rw [hpath, render_segments hne, String.toList_ofList]
  · rcases mem_of_mem_intercalate hc with rfl | ⟨s, hs, hc⟩
    · decide
    · exact (hsettled s hs).not_encoded c hc
  · rw [pathOf_of_steady hsteady, splitAt_intercalate hne hslash, hpath]
    exact congrArg _ (List.map_congr_left fun s hs ↦
      congrArg String.ofList (encode_eq_self (hsettled s hs).not_encoded))

/-- Nothing that stands in a printed path is dropped or ends it. -/
theorem ordinary_of_pathSet (h : pathSet c = false) :
    isIgnored c = false ∧ c ≠ '#' ∧ c ≠ '?' := by
  refine ⟨isIgnored_of_pathSet h, ?_, ?_⟩ <;>
  · rintro rfl
    exact absurd h (by decide)

theorem ordinary_of_specialQuerySet (h : specialQuerySet c = false) :
    isIgnored c = false ∧ c ≠ '#' := by
  simp only [specialQuerySet, querySet, Bool.or_eq_false_iff, beq_eq_false_iff_ne] at h
  exact ⟨isIgnored_of_controls (by simp [h]), by simp [h]⟩

/-! ### Addresses -/

/-- Slashes are taken from the end of a printed URL no further than to its path. -/
theorem trimmed_render (h : u.IsSettled host) :
    trimmed u.render.toList = u.scheme.toList ++ ':' :: '/' :: '/' :: (u.front host ++
      trimmed (u.path.render.toList ++ behind '?' (u.query.map String.toList) ++
        behind '#' (u.fragment.map String.toList))) := by
  let before := u.scheme.toList ++ ':' :: '/' :: '/' :: u.front host
  have hlast : ∀ c ∈ before.getLast?, c ≠ '/' := by
    rintro c hc rfl
    rw [show before = (u.scheme.toList ++ [':', '/', '/']) ++ u.front host by simp [before],
      List.getLast?_append_of_ne_nil _ (front_ne_nil h)] at hc
    exact absurd (isInFront_of_mem_front h (List.mem_of_getLast? hc)) (by decide)
  calc trimmed u.render.toList
    _ = trimmed (before ++ (u.path.render.toList ++ behind '?' (u.query.map String.toList) ++
          behind '#' (u.fragment.map String.toList))) := by
        rw [toList_render h.host_eq]
        simp [before]
    _ = _ := by
        rw [trimmed_append hlast]
        simp [before]

/-- What an endpoint puts before a path. -/
def versionMark : List Char := ['/', 'v', '1', '/']

theorem ordinary_of_mem_versionMark (h : c ∈ versionMark) :
    isIgnored c = false ∧ c ≠ '#' ∧ c ≠ '?' := by
  have hall : (versionMark.all fun c ↦ !pathSet c) = true := rfl
  exact ordinary_of_pathSet (by simpa using List.all_eq_true.1 hall c h)

theorem toList_joined {address path : String} :
    (Endpoint.trimEnd address ++ "/v1/" ++ path).toList =
      trimmed address.toList ++ versionMark ++ path.toList := by
  simp [versionMark, toList_trimEnd]

/-- A text that need not be encoded may be encoded together with what is put behind it. -/
theorem ofList_encode_joined {isEncoded : Char → Bool} (hs : ∀ c ∈ s.toList, isEncoded c = false)
    (hversion : (versionMark.all fun c ↦ !isEncoded c) = true) :
    String.ofList (encode isEncoded (trimmed s.toList ++ versionMark ++ cs)) =
      Endpoint.trimEnd s ++ "/v1/" ++ String.ofList (encode isEncoded cs) := by
  have hself : ∀ c ∈ trimmed s.toList ++ versionMark, isEncoded c = false := by
    intro c hc
    rcases List.mem_append.1 hc with hc | hc
    · exact hs c (mem_of_mem_trimmed hc)
    · simpa using List.all_eq_true.1 hversion c hc
  refine String.toList_inj.1 ?_
  rw [toList_joined, String.toList_ofList, String.toList_ofList, encode_append,
    encode_eq_self hself]

/-- The query of a settled URL need not be encoded again. -/
theorem IsSettled.encode_query (h : u.IsSettled host) :
    ((u.query.map String.toList).map fun cs ↦ String.ofList (encode specialQuerySet cs)) =
      u.query := by
  cases hquery : u.query with
  | none => rfl
  | some q => simp [encode_eq_self (h.query q hquery)]

theorem getLast?_joined {before : List Char} :
    (before ++ versionMark ++ cs).getLast? = ('/' :: cs).getLast? := by
  rw [show before ++ versionMark ++ cs = (before ++ ['/', 'v', '1']) ++ '/' :: cs by
    simp [versionMark], List.getLast?_append_of_ne_nil _ (List.cons_ne_nil _ _)]

/-- A steady path stays steady when another one is put behind it. -/
theorem exists_steady_joined (hds : Steady ds) (hcs : Steady cs) :
    ∃ joined, trimmed ('/' :: ds) ++ versionMark ++ cs = '/' :: joined ∧ Steady joined := by
  have hversion : Steady ['v', '1'] := IsSettledSegment.steady (by decide)
  have hbehind : Steady ('v' :: '1' :: '/' :: cs) := steady_append_iff.2 ⟨hversion, hcs⟩
  -- the path of a URL may consist of slashes only, of which none is left
  rcases steady_trimmed hds with htrimmed | ⟨before, htrimmed, hbefore⟩ <;> rw [htrimmed]
  · exact ⟨_, rfl, hbehind⟩
  · exact ⟨before ++ '/' :: 'v' :: '1' :: '/' :: cs, by simp [versionMark],
      steady_append_iff.2 ⟨hbefore, hbehind⟩⟩

/-- A path that is put behind a URL without query and fragment goes behind its path. -/
theorem read?_behind_path (h : u.IsSettled host) (hbare : u.query = none)
    (hfragment : u.fragment = none) (hcs : Steady cs) (hmarks : ∀ c ∈ cs, c ≠ '#' ∧ c ≠ '?')
    (hquery : ∀ q ∈ query, ∀ c ∈ q, isIgnored c = false ∧ c ≠ '#')
    (hlast : ∀ c ∈ ('/' :: cs ++ behind '?' query).getLast?, isOuterBlank c = false) :
    ∃ path : Path,
      path.render =
        Endpoint.trimEnd u.path.render ++ "/v1/" ++ String.ofList (encode pathSet cs) ∧
      read? (Endpoint.trimEnd u.render ++ "/v1/" ++ String.ofList (cs ++ behind '?' query)) =
        (specialHost? host.render.toList).map fun _ ↦
          ({ u with path } : Url).withMarked query none := by
  obtain ⟨base, hbase, hsteady, hplain, -⟩ := h.exists_toList_path
  obtain ⟨joined, hjoined, hjoinedSteady⟩ := exists_steady_joined hsteady hcs
  refine ⟨pathOf true ('/' :: joined), ?_, ?_⟩
  · have hencoded : '/' :: encode pathSet joined =
        encode pathSet (trimmed u.path.render.toList ++ versionMark ++ cs) := by
      rw [hbase, hjoined]
      rfl
    rw [render_pathOf_of_steady hjoinedSteady, hencoded]
    exact ofList_encode_joined (by simpa [hbase] using ⟨rfl, hplain⟩) rfl
  · have htext : Endpoint.trimEnd u.render ++ "/v1/" ++ String.ofList (cs ++ behind '?' query) =
        String.ofList (u.scheme.toList ++ ':' :: '/' :: '/' :: (u.front host ++
          ('/' :: joined ++ behind '?' query ++ behind '#' none))) := by
      refine String.toList_inj.1 ?_
      rw [toList_joined, trimmed_render h, hbare, hfragment, hbase, ← hjoined]
      simp [behind]
    rw [htext, read?_append h ?_ hquery (fun _ ↦ by simp) ?_]
    · intro c hc
      have hc : c ∈ trimmed ('/' :: base) ++ versionMark ++ cs :=
        hjoined ▸ List.mem_cons_of_mem _ hc
      simp only [List.mem_append] at hc
      rcases hc with (hc | hc) | hc
      · rcases List.mem_cons.1 (mem_of_mem_trimmed hc) with rfl | hc
        · decide
        · exact ordinary_of_pathSet (hplain c hc)
      · exact ordinary_of_mem_versionMark hc
      · exact ⟨hcs.not_ignored c hc, hmarks c hc⟩
    · have htail : '/' :: joined ++ behind '?' query ++ behind '#' none =
          trimmed ('/' :: base) ++ versionMark ++ (cs ++ behind '?' query) := by
        rw [← hjoined]
        simp [behind]
      rwa [htail, getLast?_joined]

/-- What is put behind a URL with a fragment becomes part of the fragment. -/
theorem read?_behind_fragment (h : u.IsSettled host) (hfragment : u.fragment = some f)
    (hcs : ∀ c ∈ cs, isIgnored c = false)
    (hlast : ∀ c ∈ ('/' :: cs).getLast?, isOuterBlank c = false) :
    read? (Endpoint.trimEnd u.render ++ "/v1/" ++ String.ofList cs) =
      (specialHost? host.render.toList).map fun _ ↦
        { u with
          fragment := some (Endpoint.trimEnd f ++ "/v1/" ++
            String.ofList (encode fragmentSet cs)) } := by
  obtain ⟨base, hbase, -, hplain, hpath⟩ := h.exists_toList_path
  have htext : Endpoint.trimEnd u.render ++ "/v1/" ++ String.ofList cs =
      String.ofList (u.scheme.toList ++ ':' :: '/' :: '/' :: (u.front host ++
        ('/' :: base ++ behind '?' (u.query.map String.toList) ++
          behind '#' (some (trimmed f.toList ++ versionMark ++ cs))))) := by
    refine String.toList_inj.1 ?_
    rw [toList_joined, trimmed_render h, hfragment, hbase, Option.map_some, behind, behind,
      trimmed_append_mark (by decide)]
    simp
  have hquery : ∀ q ∈ u.query.map String.toList, ∀ c ∈ q, isIgnored c = false ∧ c ≠ '#' := by
    intro cs hcs c hc
    obtain ⟨q, hq, rfl⟩ := Option.map_eq_some_iff.1 hcs
    exact ordinary_of_specialQuerySet (h.query q hq c hc)
  have hafter : ∀ c ∈ trimmed f.toList ++ versionMark ++ cs, isIgnored c = false := by
    intro c hc
    simp only [List.mem_append] at hc
    rcases hc with (hc | hc) | hc
    · exact isIgnored_of_fragmentSet (h.fragment f hfragment c (mem_of_mem_trimmed hc))
    · exact (ordinary_of_mem_versionMark hc).1
    · exact hcs c hc
  rw [htext, read?_append h (fun c hc ↦ ordinary_of_pathSet (hplain c hc)) hquery
    (by simpa using hafter) ?_, hpath]
  · refine congrArg (Option.map · _) (funext fun _ ↦ ?_)
    rw [withMarked, h.encode_query, Option.map_some,
      ofList_encode_joined (h.fragment f hfragment) rfl]
  · have htail : '/' :: base ++ behind '?' (u.query.map String.toList) ++
        behind '#' (some (trimmed f.toList ++ versionMark ++ cs)) =
          ('/' :: base ++ behind '?' (u.query.map String.toList) ++ '#' :: trimmed f.toList) ++
            versionMark ++ cs := by simp [behind]
    rwa [htail, getLast?_joined]

/-- What is put behind a URL with a query and no fragment becomes part of the query. -/
theorem read?_behind_query (h : u.IsSettled host) (hquery : u.query = some q)
    (hfragment : u.fragment = none) (hcs : ∀ c ∈ cs, isIgnored c = false ∧ c ≠ '#')
    (hlast : ∀ c ∈ ('/' :: cs).getLast?, isOuterBlank c = false) :
    read? (Endpoint.trimEnd u.render ++ "/v1/" ++ String.ofList cs) =
      (specialHost? host.render.toList).map fun _ ↦
        { u with
          query := some (Endpoint.trimEnd q ++ "/v1/" ++
            String.ofList (encode specialQuerySet cs)) } := by
  obtain ⟨base, hbase, -, hplain, hpath⟩ := h.exists_toList_path
  have htext : Endpoint.trimEnd u.render ++ "/v1/" ++ String.ofList cs =
      String.ofList (u.scheme.toList ++ ':' :: '/' :: '/' :: (u.front host ++
        ('/' :: base ++ behind '?' (some (trimmed q.toList ++ versionMark ++ cs)) ++
          behind '#' none))) := by
    refine String.toList_inj.1 ?_
    rw [toList_joined, trimmed_render h, hquery, hfragment, hbase, Option.map_some,
      Option.map_none, behind, behind, List.append_nil, trimmed_append_mark (by decide)]
    simp [behind]
  have hafter : ∀ c ∈ trimmed q.toList ++ versionMark ++ cs, isIgnored c = false ∧ c ≠ '#' := by
    intro c hc
    simp only [List.mem_append] at hc
    rcases hc with (hc | hc) | hc
    · exact ordinary_of_specialQuerySet (h.query q hquery c (mem_of_mem_trimmed hc))
    · obtain ⟨hignored, hne, -⟩ := ordinary_of_mem_versionMark hc
      exact ⟨hignored, hne⟩
    · exact hcs c hc
  rw [htext, read?_append h (fun c hc ↦ ordinary_of_pathSet (hplain c hc))
    (by simpa using hafter) (fun _ ↦ by simp) ?_, hpath]
  · refine congrArg (Option.map · _) (funext fun _ ↦ ?_)
    rw [withMarked, Option.map_some, ofList_encode_joined (h.query q hquery) rfl, hfragment]
    rfl
  · have htail : '/' :: base ++ behind '?' (some (trimmed q.toList ++ versionMark ++ cs)) ++
        behind '#' none = ('/' :: base ++ '?' :: trimmed q.toList) ++ versionMark ++ cs := by
      simp [behind]
    rwa [htail, getLast?_joined]

end VaultAccess.Url
