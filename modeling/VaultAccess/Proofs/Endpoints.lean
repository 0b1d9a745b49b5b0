import VaultAccess.Proofs.Url.Joining

/-!
# The address and the targets of an endpoint

Slashes are taken from the end of an address and from the front of a path, and one mark is put
between them, so a target does not depend on how many there were on either side. What is left is a
normal form: every text is slashes and a rest that begins with none (`hasRest_iff`), and the targets
of two paths are the same exactly if their rests are (`url_eq_url_iff`). Addresses and paths that are
nothing but slashes are no exception, what is left of them is empty.
-/

namespace VaultAccess.Endpoint

variable {p q rest s : String} {e : Endpoint} {n : Nat} {cs : List Char}

/-! ### Slashes -/

/-- A text of nothing but slashes. -/
def slashes (n : Nat) : String := String.ofList (List.replicate n '/')

/-- A text begins with no slash. -/
def IsBare (s : String) : Prop := ∀ c ∈ s.toList.head?, c ≠ '/'

/-- A text is a rest that begins with no slash, with slashes in front of it. -/
def HasRest (s rest : String) : Prop := IsBare rest ∧ ∃ n, s = slashes n ++ rest

theorem toList_slashes (n : Nat) : (slashes n).toList = List.replicate n '/' :=
  String.toList_ofList

theorem isSlash_of_mem_replicate : ∀ c ∈ List.replicate n '/', isSlash c = true := by
  intro c hc
  rw [List.eq_of_mem_replicate hc]
  rfl

/-- Where slashes have been dropped none is left in front. -/
theorem ne_slash_of_mem_head? {c : Char} (h : c ∈ (cs.dropWhile isSlash).head?) : c ≠ '/' := by
  rintro rfl
  have hnot := List.head?_dropWhile_not isSlash cs
  rw [Option.mem_def.1 h] at hnot
  exact absurd hnot (by decide)

theorem toList_slashes_length (h : ∀ c ∈ cs, c = '/') : (slashes cs.length).toList = cs := by
  rw [toList_slashes]
  exact (List.eq_replicate_iff.2 ⟨rfl, h⟩).symm

/-! ### What is left of a path -/

/-- Nothing is taken from the front of a text that begins with no slash. -/
theorem trimStart_eq_self (h : IsBare s) : trimStart s = s := by
  have hself : s.toList.dropWhile isSlash = s.toList := by
    cases hs : s.toList with
    | nil => rfl
    | cons c cs =>
      refine List.dropWhile_cons_of_neg ?_
      simpa [isSlash] using h c (by simp [hs])
  rw [trimStart, hself, String.ofList_toList]

theorem trimStart_slashes_append (n : Nat) (s : String) :
    trimStart (slashes n ++ s) = trimStart s := by
  rw [trimStart, String.toList_append, toList_slashes,
    List.dropWhile_append_of_pos isSlash_of_mem_replicate]
  rfl

theorem isBare_trimStart (s : String) : IsBare (trimStart s) := by
  intro c hc
  rw [trimStart, String.toList_ofList] at hc
  exact ne_slash_of_mem_head? hc

/-- A text is the slashes at its front and what is left without them. -/
theorem hasRest_trimStart (s : String) : HasRest s (trimStart s) := by
  have hslashes : ∀ c ∈ s.toList.takeWhile isSlash, c = '/' := fun c hc ↦ by
    simpa [isSlash] using List.mem_takeWhile_imp hc
  refine ⟨isBare_trimStart s, (s.toList.takeWhile isSlash).length, String.toList_inj.1 ?_⟩
  rw [String.toList_append, toList_slashes_length hslashes, trimStart, String.toList_ofList,
    List.takeWhile_append_dropWhile]

/-- A text has one rest. -/
theorem hasRest_iff : HasRest s rest ↔ trimStart s = rest := by
  constructor
  · rintro ⟨hbare, n, rfl⟩
    rw [trimStart_slashes_append, trimStart_eq_self hbare]
  · rintro rfl
    exact hasRest_trimStart s

/-- The targets of two paths are the same exactly if the paths have the same rest. -/
theorem url_eq_url_iff : e.url p = e.url q ↔ ∃ rest, HasRest p rest ∧ HasRest q rest := by
  constructor
  · intro h
    have hrest : trimStart p = trimStart q := String.append_right_inj _ |>.1 h
    exact ⟨trimStart q, hasRest_iff.2 hrest, hasRest_trimStart q⟩
  · rintro ⟨rest, hp, hq⟩
    rw [url, url, hasRest_iff.1 hp, hasRest_iff.1 hq]

/-! ### What is left of an address -/

theorem trimEnd_append_slashes (s : String) (n : Nat) : trimEnd (s ++ slashes n) = trimEnd s := by
  rw [trimEnd, String.toList_append, toList_slashes, List.reverse_append, List.reverse_replicate,
    List.dropWhile_append_of_pos isSlash_of_mem_replicate]
  rfl

/-- A text is what is left without the slashes at its end, and these. -/
theorem exists_eq_trimEnd_append (s : String) : ∃ n, s = trimEnd s ++ slashes n := by
  obtain ⟨cs, hparts, hcs⟩ := Url.exists_slashes s.toList
  refine ⟨cs.length, String.toList_inj.1 ?_⟩
  rw [String.toList_append, Url.toList_trimEnd, toList_slashes_length hcs]
  exact hparts

theorem getLast?_trimEnd (s : String) : ∀ c ∈ (trimEnd s).toList.getLast?, c ≠ '/' := by
  intro c hc
  rw [trimEnd, String.toList_ofList, List.getLast?_reverse] at hc
  exact ne_slash_of_mem_head? hc

theorem trimEnd_trimEnd (s : String) : trimEnd (trimEnd s) = trimEnd s := by
  obtain ⟨n, hn⟩ := exists_eq_trimEnd_append s
  exact (trimEnd_append_slashes (trimEnd s) n).symm.trans (congrArg trimEnd hn.symm)

theorem ofAddress_append_slashes (client : Http.Client) (address : String)
    (namespaceName : Option String) (n : Nat) :
    ofAddress client (address ++ slashes n) namespaceName =
      ofAddress client address namespaceName := by
  rw [ofAddress, trimEnd_append_slashes]
  rfl

/-- An endpoint is the one at its own address, also with the namespace that it has. -/
theorem ofAddress_address (client : Http.Client) (address : String)
    (namespaceName : Option String) :
    let e := ofAddress client address namespaceName
    ofAddress client e.address namespaceName = e ∧
      ofAddress e.client e.address e.namespaceName = e := by
  intro e
  have haddress : trimEnd e.address = e.address := trimEnd_trimEnd address
  have hnamespace : e.namespaceName.filter (fun n ↦ !n.isEmpty) = e.namespaceName := by
    simp [e, ofAddress, Option.filter_filter]
  constructor
  · rw [ofAddress, haddress]
    rfl
  · rw [ofAddress, haddress, hnamespace]

/-! ### Normal form -/

/-- The address of an endpoint is what it was made with, without the slashes at the end: however many
there are, it is the same endpoint, also if it is made again with the address that it has. A target
is the address, `/v1/` and the rest of a path without the slashes at the front, and it tells just the
rest. -/
theorem normal_form (client : Http.Client) (address : String) (namespaceName : Option String) :
    let e := ofAddress client address namespaceName
    ((∃ n, address = e.address ++ slashes n) ∧ ∀ c ∈ e.address.toList.getLast?, c ≠ '/') ∧
      (∀ n, ofAddress client (address ++ slashes n) namespaceName = e) ∧
      (ofAddress client e.address namespaceName = e ∧
        ofAddress e.client e.address e.namespaceName = e) ∧
      ∀ p, (∃ rest, HasRest p rest ∧ e.url p = e.address ++ "/v1/" ++ rest) ∧
        (∀ n, e.url (slashes n ++ p) = e.url p) ∧
        ∀ q, e.url p = e.url q ↔ ∃ rest, HasRest p rest ∧ HasRest q rest := by
  intro e
  refine ⟨⟨exists_eq_trimEnd_append address, getLast?_trimEnd address⟩,
    ofAddress_append_slashes client address namespaceName,
    ofAddress_address client address namespaceName, fun p ↦ ⟨?_, fun n ↦ ?_, fun q ↦ ?_⟩⟩
  · exact ⟨trimStart p, hasRest_trimStart p, rfl⟩
  · rw [url, trimStart_slashes_append, url]
  · exact url_eq_url_iff

/-- An address and a path of slashes only. -/
example : (ofAddress ⟨"client"⟩ "//" none).url "///" = "/v1/" := by decide

end VaultAccess.Endpoint
