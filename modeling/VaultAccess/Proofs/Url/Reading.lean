import Mathlib.Data.List.Basic
import VaultAccess.Proofs.Url.Authorities
import VaultAccess.Proofs.Url.Paths

/-!
# URLs are read as they are printed

A URL for requests over the web that has been read is settled: its parts are encoded, its host and
its path are in the form in which they are printed, and its port is not the usual one
(`isSettled_of_read?`).

When the printed form of such a URL is read again up to its host and port, these parts are the same,
whatever path, query and fragment follow them there (`read?_append`). What follows may be another
text than the one that was printed: it is read as it stands, in the place to which its marks assign
it. The host is the only part that may not be readable again, and then nothing is read at all.
-/

namespace VaultAccess.Url

variable {u : Url} {c : Char} {s scheme : String} {cs rest authority : List Char} {isAll : Bool}
  {host : Host} {query fragment : Option (List Char)}

/-- Whether a scheme is one of requests over the web. -/
def IsWeb (scheme : String) : Prop := scheme = "http" ∨ scheme = "https"

theorem IsWeb.isSpecial (h : IsWeb scheme) : isSpecial scheme = true := by
  rcases h with rfl | rfl <;> rfl

theorem IsWeb.ne_file (h : IsWeb scheme) : scheme ≠ "file" := by
  rcases h with rfl | rfl <;> decide

/-! ### How a URL for requests is read -/

/-- The query and the fragment of a text, encoded, in place of those of a URL. -/
def withMarked (u : Url) (query fragment : Option (List Char)) : Url :=
  { u with
    query := query.map fun cs ↦ String.ofList (encode specialQuerySet cs)
    fragment := fragment.map fun cs ↦ String.ofList (encode fragmentSet cs) }

/-- Behind the scheme of a request stand the marked parts and what is between them. -/
theorem read?_of_web (hscheme : IsWeb scheme)
    (h : scheme? (withoutIgnored (trimOuter s.toList)) = some (scheme, rest)) :
    read? s =
      let (before, fragment) := cutAt '#' rest
      let (hierarchy, query) := cutAt '?' before
      (special? scheme (query.isNone && fragment.isNone) hierarchy).map fun u ↦
        u.withMarked query fragment := by
  have hfile : (scheme == "file") = false := beq_false_of_ne hscheme.ne_file
  rw [read?, h]
  simp only [Option.bind_eq_bind, Option.bind_some, hfile, hscheme.isSpecial, if_true,
    Bool.false_eq_true, if_false]
  exact Option.map_eq_bind.symm

theorem scheme_of_withAuthority? (h : withAuthority? scheme isAll authority cs = some u) :
    u.scheme = scheme := by
  obtain ⟨⟨username, password, rest⟩, -, h⟩ := Option.bind_eq_some_iff.1 h
  dsimp only at h
  split at h
  · cases h
  · split at h <;>
    · obtain ⟨host, -, h⟩ := Option.bind_eq_some_iff.1 h
      obtain ⟨port, -, h⟩ := Option.bind_eq_some_iff.1 h
      rw [← Option.some.inj h]

theorem scheme_of_plain? (h : plain? scheme isAll cs = some u) : u.scheme = scheme := by
  rw [plain?.eq_def] at h
  split at h
  · exact scheme_of_withAuthority? h
  · rw [← Option.some.inj h]
  · rw [← Option.some.inj h]

theorem scheme_of_file? (h : file? cs = some u) : u.scheme = "file" := by
  rw [file?] at h
  split at h
  · rw [← Option.some.inj h]
  · dsimp only at h
    split at h
    · rw [← Option.some.inj h]
    · split at h <;>
      · obtain ⟨host, -, h⟩ := Option.bind_eq_some_iff.1 h
        rw [← Option.some.inj h]

/-- A URL for requests over the web that is read spells its scheme. -/
theorem exists_rest_of_read? (h : read? s = some u) (hscheme : IsWeb u.scheme) :
    ∃ rest, scheme? (withoutIgnored (trimOuter s.toList)) = some (u.scheme, rest) := by
  rw [read?] at h
  obtain ⟨⟨scheme, rest⟩, hspelled, h⟩ := Option.bind_eq_some_iff.1 h
  refine ⟨rest, ?_⟩
  rw [hspelled]
  dsimp only at h
  -- whichever way is taken, the scheme of the result is the one that was spelled
  split at h
  next =>
    obtain ⟨v, hv, h⟩ := Option.bind_eq_some_iff.1 h
    obtain rfl := Option.some.inj h
    exact absurd (scheme_of_file? hv) hscheme.ne_file
  next =>
    split at h
    next =>
      obtain ⟨v, hv, h⟩ := Option.bind_eq_some_iff.1 h
      obtain rfl := Option.some.inj h
      rw [scheme_of_withAuthority? hv]
    next =>
      obtain ⟨v, hv, h⟩ := Option.bind_eq_some_iff.1 h
      obtain rfl := Option.some.inj h
      rw [scheme_of_plain? hv]

theorem withAuthority?_of_special (hscheme : isSpecial scheme = true) :
    withAuthority? scheme isAll authority cs =
      (userinfo? isAll authority).bind fun (username, password, rest) ↦
        let (hostText, portText) := hostAndPort false rest
        if hostText.isEmpty then none
        else (specialHost? hostText).bind fun host ↦
          ((portText.map (port? scheme)).getD (some (none, []))).map fun (port, atPath) ↦
            { scheme, username, password, host := some host, port,
              path := pathOf true (atPath ++ cs) } := by
  rw [withAuthority?]
  simp only [hscheme, Bool.true_or, Bool.and_true, if_true, Option.map_eq_bind]
  rfl

/-! ### Settled URLs -/

/-- A URL for requests over the web as it comes out of reading one. -/
structure IsSettled (u : Url) (host : Host) : Prop where
  web : IsWeb u.scheme
  host_eq : u.host = some host
  host : host.IsSettled
  username : ∀ c ∈ u.username.toList, userinfoSet c = false
  password : ∀ c ∈ u.password.toList, userinfoSet c = false
  port : ∀ p ∈ u.port, p ≤ 65535 ∧ usualPort? u.scheme ≠ some p
  path : ∃ segments, segments ≠ [] ∧ (∀ s ∈ segments, IsSettledSegment s) ∧
    u.path = .segments (segments.map String.ofList)
  query : ∀ q ∈ u.query, ∀ c ∈ q.toList, specialQuerySet c = false
  fragment : ∀ f ∈ u.fragment, ∀ c ∈ f.toList, fragmentSet c = false

/-- The path of a special URL consists of settled segments. -/
theorem pathOf_settled :
    ∃ segments, segments ≠ [] ∧ (∀ s ∈ segments, IsSettledSegment s) ∧
      pathOf true cs = .segments (segments.map String.ofList) := by
  refine ⟨follow false [] (segmentsOf true cs), follow_ne_nil (splitAt_ne_nil _ _), ?_, ?_⟩
  · refine fun s ↦ isSettledSegment_of_mem_follow (List.forall_mem_nil _) fun t ht c hc ↦ ?_
    obtain ⟨hmem, hslash⟩ := mem_of_mem_splitAt ht hc
    obtain ⟨d, -, rfl⟩ := List.mem_map.1 hmem
    split at hslash
    next => exact absurd rfl hslash
    next hd => simp [hd]
  · rw [pathOf]
    simp

/-- Nothing is left over that is to be encoded. -/
theorem isEncoded_of_mem_ofList {isEncoded : Char → Bool} (hspares : Spares isEncoded)
    (hc : c ∈ (String.ofList (encode isEncoded cs)).toList) : isEncoded c = false :=
  isEncoded_of_mem_encode hspares (by rwa [String.toList_ofList] at hc)

/-- A user name and a password that were read are encoded. -/
theorem userinfoSet_of_userinfo? {username password : String}
    (h : userinfo? isAll cs = some (username, password, rest)) :
    (∀ c ∈ username.toList, userinfoSet c = false) ∧
      ∀ c ∈ password.toList, userinfoSet c = false := by
  rw [userinfo?] at h
  split at h
  · dsimp only at h
    split at h
    · cases h
    · cases h
      exact ⟨fun _ ↦ isEncoded_of_mem_ofList spares_userinfoSet,
        fun _ ↦ isEncoded_of_mem_ofList spares_userinfoSet⟩
  · cases h
    exact ⟨fun _ hc ↦ (by cases hc), fun _ hc ↦ by cases hc⟩

/-- A port that was read is in range and not the usual one. -/
theorem le_of_port? {port : Option Nat} (h : port? scheme cs = some (port, rest)) :
    ∀ p ∈ port, p ≤ 65535 ∧ usualPort? scheme ≠ some p := by
  rw [port?] at h
  dsimp only at h
  split at h
  · cases h
  · obtain ⟨n, -, h⟩ := Option.bind_eq_some_iff.1 h
    split at h
    · cases h
    next hle =>
      obtain ⟨rfl, -⟩ := Prod.mk.inj (Option.some.inj h)
      intro p hp
      split at hp
      · cases hp
      next husual =>
        obtain rfl := Option.some.inj hp
        exact ⟨Nat.le_of_not_lt hle, fun heq ↦ husual (by simp [heq])⟩

/-- An authority that was read is settled. -/
theorem isSettled_of_withAuthority? (hscheme : IsWeb scheme)
    (h : withAuthority? scheme isAll authority cs = some u) : ∃ host, u.IsSettled host := by
  rw [withAuthority?_of_special hscheme.isSpecial] at h
  obtain ⟨⟨username, password, rest⟩, hinfo, h⟩ := Option.bind_eq_some_iff.1 h
  obtain ⟨hname, hpassword⟩ := userinfoSet_of_userinfo? hinfo
  dsimp only at h
  split at h
  · cases h
  · obtain ⟨host, hhost, h⟩ := Option.bind_eq_some_iff.1 h
    obtain ⟨⟨port, atPath⟩, hport, rfl⟩ := Option.map_eq_some_iff.1 h
    refine ⟨host, hscheme, rfl, isSettled_of_specialHost? hhost, hname, hpassword, ?_,
      pathOf_settled, nofun, nofun⟩
    cases hports : (hostAndPort false rest).2 with
    | none =>
      rw [hports] at hport
      cases hport
      exact nofun
    | some portText =>
      rw [hports] at hport
      exact le_of_port? hport

/-- A query and a fragment leave a URL settled, as they are encoded when they are put in. -/
theorem IsSettled.withMarked (h : u.IsSettled host) :
    (u.withMarked query fragment).IsSettled host :=
  { h with
    query := by
      intro q hq
      obtain ⟨cs, -, rfl⟩ := Option.map_eq_some_iff.1 hq
      exact fun _ ↦ isEncoded_of_mem_ofList spares_specialQuerySet
    fragment := by
      intro f hf
      obtain ⟨cs, -, rfl⟩ := Option.map_eq_some_iff.1 hf
      exact fun _ ↦ isEncoded_of_mem_ofList spares_fragmentSet }

/-- A URL for requests over the web that has been read is settled. -/
theorem isSettled_of_read? (h : read? s = some u) (hscheme : IsWeb u.scheme) :
    ∃ host, u.IsSettled host := by
  obtain ⟨rest, hrest⟩ := exists_rest_of_read? h hscheme
  rw [read?_of_web hscheme hrest] at h
  obtain ⟨v, hv, hu⟩ := Option.map_eq_some_iff.1 h
  obtain ⟨host, hhost⟩ := isSettled_of_withAuthority? hscheme hv
  exact ⟨host, hu ▸ hhost.withMarked⟩

/-! ### Reading settled URLs -/

/-- The text of a URL up to its path, with a host. -/
def front (u : Url) (host : Host) : List Char :=
  u.renderUserinfo.toList ++ (host.render.toList ++ behind ':' (u.port.map (Nat.toDigits 10)))

/-- A URL is printed part by part, each behind its mark. -/
theorem toList_render (h : u.host = some host) :
    u.render.toList = u.scheme.toList ++ ':' :: '/' :: '/' :: (u.front host ++
      u.path.render.toList ++ behind '?' (u.query.map String.toList) ++
        behind '#' (u.fragment.map String.toList)) := by
  have hquery : (renderAfter "?" u.query).toList = behind '?' (u.query.map String.toList) :=
    toList_renderAfter rfl
  have hfragment : (renderAfter "#" u.fragment).toList =
      behind '#' (u.fragment.map String.toList) :=
    toList_renderAfter rfl
  rw [render, renderTarget, renderAuthority, h, String.toList_append, String.toList_append, hquery,
    hfragment, front]
  cases u.port with
  | none => simp [behind]
  | some p => simp [behind]

/-- Whether a character ends no authority and is not dropped. -/
def isInFront (c : Char) : Bool :=
  !isSeparator true c && !isIgnored c && c != '#' && c != '?'

/-- What may stand in front of a path is no separator and no mark, and it is not dropped. -/
theorem isInFront_iff :
    isInFront c = true ↔ isSeparator true c = false ∧ isIgnored c = false ∧ c ≠ '#' ∧ c ≠ '?' := by
  simp [isInFront, and_assoc]

theorem isInFront_of_userinfoSet (h : userinfoSet c = false) : isInFront c = true := by
  have hpath : pathSet c = false := by
    simp only [userinfoSet, Bool.or_eq_false_iff] at h
    simp [h]
  have hignored : isIgnored c = false := isIgnored_of_pathSet hpath
  simp only [userinfoSet, pathSet, Bool.or_eq_false_iff, beq_eq_false_iff_ne] at h
  simp [isInFront, isSeparator, hignored, h]

theorem isInFront_of_isInHost (h : isInHost c = true) : isInFront c = true := by
  have hignored : isIgnored c = false := by
    simp only [isInHost, Bool.and_eq_true, Bool.not_eq_true'] at h
    exact isIgnored_of_controls h.1
  have hne : ∀ d, isInHost d = false → c ≠ d := by
    rintro d hd rfl
    exact absurd h (by simp [hd])
  have hall : c ≠ '/' ∧ c ≠ '\\' ∧ c ≠ '#' ∧ c ≠ '?' :=
    ⟨hne _ (by decide), hne _ (by decide), hne _ (by decide), hne _ (by decide)⟩
  simp [isInFront, isSeparator, hignored, hall]

theorem isInHost_of_mem_hostAndPort {port : Option Nat} (h : host.IsSettled)
    (hc : c ∈ host.render.toList ++ behind ':' (port.map (Nat.toDigits 10))) :
    isInHost c = true := by
  rcases List.mem_append.1 hc with hc | hc
  · exact isInHost_of_mem_render h hc
  · cases port with
    | none => cases hc
    | some p =>
      rcases List.mem_cons.1 hc with rfl | hc
      · decide
      · exact (isInHost_of_name (isLow_of_mem_toDigits (by decide) (by decide) hc).2).1

theorem isInFront_of_mem_info (h : u.IsSettled host) (hc : c ∈ u.info) : isInFront c = true := by
  rw [info, List.mem_append] at hc
  rcases hc with hc | hc
  · exact isInFront_of_userinfoSet (h.username c hc)
  · split at hc
    · cases hc
    · rcases List.mem_cons.1 hc with rfl | hc
      · decide
      · exact isInFront_of_userinfoSet (h.password c hc)

/-- So it is with all that is printed in front of the path. -/
theorem isInFront_of_mem_front (h : u.IsSettled host) (hc : c ∈ u.front host) :
    isInFront c = true := by
  rw [front, toList_renderUserinfo, List.mem_append] at hc
  rcases hc with hc | hc
  · split at hc
    · cases hc
    · rcases List.mem_append.1 hc with hc | hc
      · exact isInFront_of_mem_info h hc
      · obtain rfl := List.mem_singleton.1 hc
        decide
  · exact isInFront_of_isInHost (isInHost_of_mem_hostAndPort h.host hc)

/-- A text without blanks at its ends is trimmed to itself. -/
theorem trimOuter_eq_self (hfirst : ∀ c ∈ cs.head?, isOuterBlank c = false)
    (hlast : ∀ c ∈ cs.getLast?, isOuterBlank c = false) : trimOuter cs = cs := by
  have hself : ∀ ds : List Char, (∀ c ∈ ds.head?, isOuterBlank c = false) →
      ds.dropWhile isOuterBlank = ds := by
    intro ds hds
    cases ds with
    | nil => rfl
    | cons d ds => exact List.dropWhile_cons_of_neg (by simp [hds d rfl])
  rw [trimOuter, hself cs hfirst, hself cs.reverse (by rwa [List.head?_reverse]),
    List.reverse_reverse]

/-- The scheme of a request is had back from the front of a text. -/
theorem scheme?_of_web (h : IsWeb scheme) :
    scheme? (scheme.toList ++ ':' :: cs) = some (scheme, cs) := by
  rcases h with rfl | rfl <;> rfl

/-- The authority that is printed is read as what it was printed for, if the host can be read. -/
theorem withAuthority?_front (h : u.IsSettled host) :
    withAuthority? u.scheme isAll (u.front host) cs =
      (specialHost? host.render.toList).map fun _ ↦
        { u with path := pathOf true cs, query := none, fragment := none } := by
  let port := u.port.map (Nat.toDigits 10)
  have hhost : host.render.toList ++ behind ':' port ≠ [] := by simp [render_ne_nil h.host]
  have hat : '@' ∉ host.render.toList ++ behind ':' port := fun hmem ↦
    absurd (isInHost_of_mem_hostAndPort h.host hmem) (by decide)
  rw [withAuthority?_of_special h.web.isSpecial, front,
    userinfo?_renderUserinfo h.username h.password hhost hat, Option.bind_some]
  simp only [hostAndPort_render h.host]
  rw [if_neg (by simpa using render_ne_nil h.host)]
  -- the host is read first, and it alone may fail
  cases hagain : specialHost? host.render.toList with
  | none => rfl
  | some again =>
    obtain rfl := specialHost?_render h.host hagain
    cases hport : u.port with
    | none => simp [port, hport, h.host_eq]
    | some p =>
      obtain ⟨hle, husual⟩ := h.port p hport
      simp [port, hport, h.host_eq, port?_toDigits hle husual]

theorem front_ne_nil (h : u.IsSettled host) : u.front host ≠ [] := by
  simp [front, render_ne_nil h.host]

/-- What follows the authority is the path. -/
theorem special?_front (h : u.IsSettled host) :
    special? u.scheme isAll ('/' :: '/' :: (u.front host ++ '/' :: cs)) =
      (specialHost? host.render.toList).map fun _ ↦
        { u with path := pathOf true ('/' :: cs), query := none, fragment := none } := by
  have hfront : ∀ c ∈ u.front host, (!isSeparator true c) = true := fun c hc ↦ by
    simp [(isInFront_iff.1 (isInFront_of_mem_front h hc)).1]
  have hdrop : ('/' :: '/' :: (u.front host ++ '/' :: cs)).dropWhile (isSeparator true) =
      u.front host ++ '/' :: cs := by
    obtain ⟨c, rest, hc⟩ := List.exists_cons_of_ne_nil (front_ne_nil h)
    have hfirst := hfront c (by simp [hc])
    rw [hc, List.dropWhile_cons_of_pos (by decide), List.dropWhile_cons_of_pos (by decide)]
    exact List.dropWhile_cons_of_neg (by simpa using hfirst)
  have hcut : cutPath true (u.front host ++ '/' :: cs) = (u.front host, '/' :: cs) := by
    rw [cutPath, List.takeWhile_append_of_pos hfront, List.dropWhile_append_of_pos hfront]
    simp [isSeparator]
  rw [special?, hdrop, hcut]
  exact withAuthority?_front h

/-- A path with a query and a fragment behind it is cut at their marks. -/
theorem cutAt_marked (hcs : ∀ c ∈ cs, c ≠ '#' ∧ c ≠ '?')
    (hquery : ∀ q ∈ query, ∀ c ∈ q, c ≠ '#') :
    cutAt '#' (cs ++ behind '?' query ++ behind '#' fragment) =
        (cs ++ behind '?' query, fragment) ∧
      cutAt '?' (cs ++ behind '?' query) = (cs, query) := by
  constructor
  · refine cutAt_behind fun hmem ↦ ?_
    rcases List.mem_append.1 hmem with hmem | hmem
    · exact (hcs _ hmem).1 rfl
    · rcases eq_or_of_mem_behind hmem with heq | ⟨q, hq, hmem⟩
      · exact absurd heq (by decide)
      · exact hquery q hq _ hmem rfl
  · exact cutAt_behind fun hmem ↦ (hcs _ hmem).2 rfl

/-- Nothing behind the authority is dropped. -/
theorem isIgnored_of_mem_marked (hcs : ∀ c ∈ cs, isIgnored c = false)
    (hquery : ∀ q ∈ query, ∀ c ∈ q, isIgnored c = false)
    (hfragment : ∀ f ∈ fragment, ∀ c ∈ f, isIgnored c = false)
    (hc : c ∈ cs ++ behind '?' query ++ behind '#' fragment) : isIgnored c = false := by
  simp only [List.mem_append] at hc
  rcases hc with (hc | hc) | hc
  · exact hcs c hc
  · rcases eq_or_of_mem_behind hc with rfl | ⟨q, hq, hc⟩
    · decide
    · exact hquery q hq c hc
  · rcases eq_or_of_mem_behind hc with rfl | ⟨f, hf, hc⟩
    · decide
    · exact hfragment f hf c hc

/-- A text that begins with the scheme of a URL for requests and has no blank at its end is read
behind that scheme. -/
theorem scheme?_of_not_ignored (hscheme : IsWeb scheme) (hignored : ∀ c ∈ cs, isIgnored c = false)
    (hlast : ∀ c ∈ cs.getLast?, isOuterBlank c = false) :
    scheme? (withoutIgnored (trimOuter (scheme.toList ++ ':' :: cs))) = some (scheme, cs) := by
  have htrim : trimOuter (scheme.toList ++ ':' :: cs) = scheme.toList ++ ':' :: cs := by
    refine trimOuter_eq_self (fun c hc ↦ ?_) fun c hc ↦ ?_
    · have hfirst : (scheme.toList ++ ':' :: cs).head? = some 'h' := by
        rcases hscheme with rfl | rfl <;> rfl
      obtain rfl : 'h' = c := Option.some.inj (hfirst.symm.trans hc)
      decide
    · rw [List.getLast?_append_of_ne_nil _ (List.cons_ne_nil _ _)] at hc
      cases cs with
      | nil =>
        obtain rfl := Option.some.inj hc
        decide
      | cons d ds => exact hlast c (by rwa [List.getLast?_cons_cons] at hc)
  have hself : withoutIgnored (scheme.toList ++ ':' :: cs) = scheme.toList ++ ':' :: cs := by
    refine withoutIgnored_eq_self fun c hc ↦ ?_
    rcases List.mem_append.1 hc with hc | hc
    · have hall : (scheme.toList.all fun c ↦ !isIgnored c) = true := by
        rcases hscheme with rfl | rfl <;> rfl
      simpa using List.all_eq_true.1 hall c hc
    · rcases List.mem_cons.1 hc with rfl | hc
      · decide
      · exact hignored c hc
  rw [htrim, hself]
  exact scheme?_of_web hscheme

/-- A text that begins with what a settled URL is printed with up to its path is read as a URL with
the same scheme, user information, host and port, if the host can be read. -/
theorem read?_append (h : u.IsSettled host)
    (hcs : ∀ c ∈ cs, isIgnored c = false ∧ c ≠ '#' ∧ c ≠ '?')
    (hquery : ∀ q ∈ query, ∀ c ∈ q, isIgnored c = false ∧ c ≠ '#')
    (hfragment : ∀ f ∈ fragment, ∀ c ∈ f, isIgnored c = false)
    (hlast : ∀ c ∈ ('/' :: cs ++ behind '?' query ++ behind '#' fragment).getLast?,
      isOuterBlank c = false) :
    read? (String.ofList (u.scheme.toList ++ ':' :: '/' :: '/' :: (u.front host ++
      ('/' :: cs ++ behind '?' query ++ behind '#' fragment)))) =
      (specialHost? host.render.toList).map fun _ ↦
        ({ u with path := pathOf true ('/' :: cs) } : Url).withMarked query fragment := by
  let hierarchy := '/' :: '/' :: (u.front host ++ '/' :: cs)
  have hparts : '/' :: '/' :: (u.front host ++
      ('/' :: cs ++ behind '?' query ++ behind '#' fragment)) =
        hierarchy ++ behind '?' query ++ behind '#' fragment := by simp [hierarchy]
  have hhierarchy : ∀ c ∈ hierarchy, isIgnored c = false ∧ c ≠ '#' ∧ c ≠ '?' := by
    intro c hc
    simp only [hierarchy, List.mem_cons, List.mem_append] at hc
    rcases hc with rfl | rfl | hc | rfl | hc
    · decide
    · decide
    · exact (isInFront_iff.1 (isInFront_of_mem_front h hc)).2
    · decide
    · exact hcs c hc
  have hends : ∀ c ∈ (hierarchy ++ behind '?' query ++ behind '#' fragment).getLast?,
      isOuterBlank c = false := by
    intro c hc
    refine hlast c ?_
    have hbehind : hierarchy ++ behind '?' query ++ behind '#' fragment =
        ('/' :: '/' :: u.front host) ++ ('/' :: cs ++ behind '?' query ++ behind '#' fragment) := by
      simp [hierarchy]
    rwa [hbehind, List.getLast?_append_of_ne_nil _ (by simp)] at hc
  have hignored : ∀ c ∈ hierarchy ++ behind '?' query ++ behind '#' fragment,
      isIgnored c = false := fun c ↦
    isIgnored_of_mem_marked (fun c hc ↦ (hhierarchy c hc).1) (fun q hq c hc ↦ (hquery q hq c hc).1)
      hfragment
  obtain ⟨hfragmentCut, hqueryCut⟩ := cutAt_marked (fun c hc ↦ (hhierarchy c hc).2)
    (fun q hq c hc ↦ (hquery q hq c hc).2)
  have hscheme := scheme?_of_not_ignored h.web hignored hends
  rw [← String.toList_ofList (l := u.scheme.toList ++ _)] at hscheme
  rw [hparts, read?_of_web h.web hscheme, hfragmentCut]
  dsimp only
  rw [hqueryCut]
  dsimp only
  rw [special?_front h, Option.map_map]
  rfl

end VaultAccess.Url
