import VaultAccess.Proofs.Endpoints
import VaultAccess.Proofs.Transcripts

/-!
# Where requests go

A service sends its requests to the URL of its configuration with `/v1/` and a path behind it. What
it puts together is a text, and that is read as a URL once more, so a request goes where the text
leads. Scheme, host and port are those of the configuration in any case. The path is where it should
be only if the URL of the configuration has neither query nor fragment, which nobody checks
(`Factory.targets_of_plain_path`): otherwise all requests go to the path of that URL itself
(`Factory.target_outside_of_query`).
-/

namespace VaultAccess

open Http Url

/-! ### Addresses of a factory -/

namespace Factory

variable {σ : Type} {f : Factory} {config : ServerConfig} {s t : Scene σ} {e : Endpoint} {u : Url}

/-- The URL of a server that is accepted is settled. -/
theorem isSettled_of_parseUrl {text : String} (h : parseUrl text = .ok u) :
    ∃ host, u.IsSettled host := by
  rw [parseUrl] at h
  split at h
  next => cases h
  next v hread =>
    split at h
    next hweb =>
      obtain rfl := Except.ok.inj h
      have hscheme : IsWeb v.scheme := by
        simpa [IsWeb] using (Bool.and_eq_true_iff.1 hweb).1
      exact isSettled_of_read? hread hscheme
    next => cases h

theorem exists_settled_of_endpoint (h : (f.endpoint config).perform s = (.ok e, t)) :
    ∃ u host, parseUrl config.url = .ok u ∧ u.IsSettled host ∧
      e.address = Endpoint.trimEnd u.render := by
  obtain ⟨u, client, hurl, rfl⟩ := exists_url_of_endpoint h
  obtain ⟨host, hhost⟩ := isSettled_of_parseUrl hurl
  exact ⟨u, host, hurl, hhost, rfl⟩

end Factory

/-! ### Targets of requests -/

/-- Taking the login out of a URL changes nothing else. -/
theorem Http.takeLogin_snd (u : Url) :
    ∃ username password, (takeLogin u).2 = { u with username, password } := by
  rw [takeLogin]
  split
  · exact ⟨_, _, rfl⟩
  · dsimp only
    rw [apply_ite Prod.snd]
    exact (ite_eq_or_eq ..).elim (fun h ↦ ⟨_, _, h⟩) fun h ↦ ⟨_, _, h⟩

namespace Endpoint

variable {e : Endpoint} {method : Method} {path : String} {token : Option Secret}
  {body : Option Json} {q : Request}

/-- A request goes to the URL that the address and the path spell, without a login in it. -/
theorem exists_target (h : e.prepare method path token body = .ok q) :
    ∃ u username password, Url.read? (e.url path) = some u ∧
      q.target = { u with username, password } := by
  obtain ⟨u, hu, -, -, -, rfl⟩ := Client.prepare_eq_ok_iff.1 h
  obtain ⟨username, password, hlogin⟩ := takeLogin_snd u
  exact ⟨u, username, password, hu, hlogin⟩

end Endpoint

/-! ### Paths of an API -/

/-- A segment of a path that is written as it is meant: it is not empty, consists of characters that
may stand in a path, and is neither a dot nor two. -/
def IsPlain (segment : String) : Prop := segment ≠ "" ∧ IsSettledSegment segment.toList

instance : DecidablePred IsPlain := fun _ ↦ inferInstanceAs (Decidable (_ ∧ _))

/-- A text of plain segments. -/
structure IsPlainPath (cs : List Char) : Prop where
  steady : Steady cs
  not_encoded : ∀ c ∈ cs, pathSet c = false
  head : ∀ c ∈ cs.head?, c ≠ '/'

theorem isPlainPath_intercalate {segments : List String} (hne : segments ≠ [])
    (h : ∀ segment ∈ segments, IsPlain segment) :
    IsPlainPath ("/".intercalate segments).toList := by
  have hsettled : ∀ s ∈ segments.map String.toList, IsSettledSegment s := by
    intro s hs
    obtain ⟨segment, hsegment, rfl⟩ := List.mem_map.1 hs
    exact (h segment hsegment).2
  have hlist : ("/".intercalate segments).toList =
      ['/'].intercalate (segments.map String.toList) := String.toList_intercalate
  rw [hlist]
  refine ⟨steady_intercalate (by simpa using hne) hsettled, fun c hc ↦ ?_, fun c hc ↦ ?_⟩
  · rcases mem_of_mem_intercalate hc with rfl | ⟨s, hs, hc⟩
    · decide
    · exact (hsettled s hs).not_encoded c hc
  · obtain ⟨first, rest, rfl⟩ := List.exists_cons_of_ne_nil hne
    obtain ⟨hfirst, hplain⟩ := h first List.mem_cons_self
    obtain ⟨d, ds, hd⟩ : ∃ d ds, first.toList = d :: ds :=
      List.exists_cons_of_ne_nil (by simpa using hfirst)
    have hhead : (['/'].intercalate ((first :: rest).map String.toList)).head? = some d := by
      cases rest with
      | nil => simp [List.intercalate, hd]
      | cons second rest => simp [List.intercalate_cons_cons, hd]
    obtain rfl : d = c := Option.some.inj (hhead.symm.trans hc)
    rintro rfl
    exact absurd (hplain.not_separator '/' (by simp [hd])) (by decide)

/-- Nothing that stands in a path is a blank. -/
theorem isOuterBlank_of_pathSet {c : Char} (h : pathSet c = false) : isOuterBlank c = false := by
  simp only [pathSet, fragmentSet, controls, Bool.or_eq_false_iff, beq_eq_false_iff_ne,
    decide_eq_false_iff_not] at h
  have hblank : c.toNat ≠ 0x20 := fun heq ↦ h.1.1.1.1.1.1.1.1.2 (Char.toNat_inj.1 heq)
  rw [isOuterBlank, decide_eq_false_iff_not]
  omega

theorem IsPlainPath.isOuterBlank {cs : List Char} (h : IsPlainPath cs) :
    ∀ c ∈ ('/' :: cs).getLast?, isOuterBlank c = false := by
  intro c hc
  rcases List.mem_cons.1 (List.mem_of_getLast? hc) with rfl | hc
  · decide
  · exact isOuterBlank_of_pathSet (h.not_encoded c hc)

/-- How a target comes from the URL of a server when a path is put behind it: it has the same
scheme, host and port, and its path is that of the URL and the path that is put behind it. If the
URL has a query or a fragment, its path stays what it was, and what is put behind it lands there. -/
structure Url.IsBehind (target u : Url) (path : String) : Prop where
  scheme : target.scheme = u.scheme
  host : target.host = u.host
  port : target.port = u.port
  in_path : u.query = none → u.fragment = none →
    target.path.render = Endpoint.trimEnd u.path.render ++ "/v1/" ++ path ∧
      target.query = none ∧ target.fragment = none
  in_query : ∀ query, u.query = some query → u.fragment = none →
    target.path = u.path ∧ target.query = some (Endpoint.trimEnd query ++ "/v1/" ++
      String.ofList (encode specialQuerySet path.toList)) ∧ target.fragment = none
  in_fragment : ∀ fragment, u.fragment = some fragment →
    target.path = u.path ∧ target.query = u.query ∧
      target.fragment = some (Endpoint.trimEnd fragment ++ "/v1/" ++ path)

section

variable {u target : Url} {host : Host} {cs : List Char}

/-- A plain path behind the URL of a server is read as a target behind it, if the host of the URL
can be read again. -/
theorem exists_isBehind (h : u.IsSettled host) (hcs : IsPlainPath cs) :
    ∃ target : Url, target.IsBehind u (String.ofList cs) ∧
      read? (Endpoint.trimEnd u.render ++ "/v1/" ++ String.ofList cs) =
        (specialHost? host.render.toList).map fun _ ↦ target := by
  have hordinary : ∀ c ∈ cs, isIgnored c = false ∧ c ≠ '#' ∧ c ≠ '?' := fun c hc ↦
    ordinary_of_pathSet (hcs.not_encoded c hc)
  -- a fragment ends the text, so it takes the path whether there is a query before it or not
  cases hfragment : u.fragment with
  | some fragment =>
    have hencoded : encode fragmentSet cs = cs := encode_eq_self fun c hc ↦ by
      have hc := hcs.not_encoded c hc
      simp only [pathSet, Bool.or_eq_false_iff] at hc
      exact hc.1.1.1.1
    have hread := read?_behind_fragment h hfragment (fun c hc ↦ (hordinary c hc).1)
      hcs.isOuterBlank
    rw [hencoded] at hread
    refine ⟨_, ?_, hread⟩
    refine ⟨rfl, rfl, rfl, fun _ hnone ↦ ?_, fun _ _ hnone ↦ ?_, fun f hf ↦ ?_⟩
    · exact absurd hnone (by simp [hfragment])
    · exact absurd hnone (by simp [hfragment])
    · obtain rfl : fragment = f := Option.some.inj (hfragment.symm.trans hf)
      exact ⟨rfl, rfl, rfl⟩
  | none =>
    cases hquery : u.query with
    | some query =>
      have hread := read?_behind_query h hquery hfragment
        (fun c hc ↦ ⟨(hordinary c hc).1, (hordinary c hc).2.1⟩) hcs.isOuterBlank
      refine ⟨_, ?_, hread⟩
      refine ⟨rfl, rfl, rfl, fun hnone _ ↦ ?_, fun q hq _ ↦ ?_, fun f hf ↦ ?_⟩
      · exact absurd hnone (by simp [hquery])
      · obtain rfl : query = q := Option.some.inj (hquery.symm.trans hq)
        rw [String.toList_ofList]
        exact ⟨rfl, rfl, hfragment⟩
      · exact absurd hf (by simp [hfragment])
    | none =>
      have hself : encode pathSet cs = cs := encode_eq_self hcs.not_encoded
      have hnothing : ∀ q ∈ (none : Option (List Char)), ∀ c ∈ q,
          isIgnored c = false ∧ c ≠ '#' := fun _ hq ↦ by cases hq
      obtain ⟨path, hrender, hread⟩ := read?_behind_path h hquery hfragment hcs.steady
        (fun c hc ↦ (hordinary c hc).2) hnothing (by simpa [behind] using hcs.isOuterBlank)
      rw [hself] at hrender
      rw [behind, List.append_nil] at hread
      refine ⟨_, ?_, hread⟩
      refine ⟨rfl, rfl, rfl, fun _ _ ↦ ⟨hrender, rfl, rfl⟩, fun q hq _ ↦ ?_, fun f hf ↦ ?_⟩
      · exact absurd hq (by simp [hquery])
      · exact absurd hf (by simp [hfragment])

end

namespace Factory

/-- An endpoint of a factory sends what it sends for a plain path to a target behind the URL of its
configuration. There is such a target unless a label of the host is written as `xn--`, which may
make it unreadable. -/
theorem targets_of_plain_path {σ : Type} (f : Factory) (config : ServerConfig) (s t : Scene σ)
    (e : Endpoint) (hendpoint : (f.endpoint config).perform s = (.ok e, t)) :
    ∃ u, parseUrl config.url = .ok u ∧
      ∀ segments : List String, segments ≠ [] → (∀ segment ∈ segments, IsPlain segment) →
        let path := "/".intercalate segments
        ((∀ host ∈ u.host, host.IsUnencoded) → ∃ target, Url.read? (e.url path) = some target) ∧
        ∀ {ν : Type} (net : Network ν) (method : Method) (token : Option Secret)
          (body : Option Json) (s : Scene (Recorded ν)), ∃ sent : List Exchanged,
            ((e.send net.recorded method path token body).perform s).2.state.exchanges =
              s.state.exchanges ++ sent ∧
            ∀ x ∈ sent, x.request.target.IsBehind u path := by
  obtain ⟨u, host, hurl, hsettled, haddress⟩ := exists_settled_of_endpoint hendpoint
  refine ⟨u, hurl, fun segments hne hplain ↦ ?_⟩
  have hcs := isPlainPath_intercalate hne hplain
  intro path
  obtain ⟨target, hbehind, hread⟩ := exists_isBehind hsettled hcs
  rw [String.ofList_toList] at hbehind hread
  have htext : e.url path = Endpoint.trimEnd u.render ++ "/v1/" ++ path := by
    rw [Endpoint.url, haddress, Endpoint.trimStart_eq_self hcs.head]
  constructor
  · intro hplain
    refine ⟨target, ?_⟩
    rw [htext, hread, specialHost?_of_unencoded hsettled.host (hplain host hsettled.host_eq)]
    rfl
  · intro ν net method token body s
    cases hprepare : e.prepare method path token body with
    | error fault =>
      rw [Endpoint.perform_send_of_error hprepare]
      exact ⟨[], (List.append_nil _).symm, List.forall_mem_nil _⟩
    | ok q =>
      rw [Endpoint.perform_send_of_ok hprepare]
      refine ⟨_, rfl, List.forall_mem_singleton.2 ?_⟩
      obtain ⟨v, username, password, hv, hq⟩ := Endpoint.exists_target hprepare
      rw [htext, hread] at hv
      obtain ⟨_, -, rfl⟩ := Option.map_eq_some_iff.1 hv
      show q.target.IsBehind u path
      rw [hq]
      exact ⟨hbehind.scheme, hbehind.host, hbehind.port, hbehind.in_path, hbehind.in_query,
        hbehind.in_fragment⟩

/-- The endpoint of a server whose API lies below a path of its own. -/
def based : Endpoint :=
  ⟨⟨"vault-credentials-rust/1.0"⟩, "https://[::1]:8200/base", none⟩

set_option maxRecDepth 8000 in
/-- It sends its requests below that path. -/
theorem targets_of_based_url : ∃ t x,
    ((⟨{}, .bare⟩ : Factory).endpoint { url := "https://[::1]:8200/base/" }).perform
        (⟨(), []⟩ : Scene Unit) = (.ok based, t) ∧
      ((based.send Client.absent.recorded .get ("/".intercalate ["kv", "data", "doc"]) none
        none).perform ⟨⟨(), []⟩, []⟩).2.state.exchanges = [x] ∧
      x.request.target.host = some (.v6 [0, 0, 0, 0, 0, 0, 0, 1]) ∧
        x.request.target.path.render = "/base/v1/kv/data/doc" := by
  have hendpoint : ((⟨{}, .bare⟩ : Factory).endpoint { url := "https://[::1]:8200/base/" }).perform
      (⟨(), []⟩ : Scene Unit) = (.ok based, _) := rfl
  have hread : parseUrl "https://[::1]:8200/base/" = .ok {
      scheme := "https", host := some (.v6 [0, 0, 0, 0, 0, 0, 0, 1]), port := some 8200,
      path := .segments ["base", ""] } := rfl
  obtain ⟨u, hurl, htargets⟩ := targets_of_plain_path _ _ _ _ _ hendpoint
  have hu := Except.ok.inj (hurl.symm.trans hread)
  obtain ⟨sent, hsent, hbehind⟩ := (htargets ["kv", "data", "doc"] (by decide) (by decide)).2
    Client.absent .get none none ⟨⟨(), []⟩, []⟩
  have hone : ((based.send Client.absent.recorded .get ("/".intercalate ["kv", "data", "doc"]) none
    none).perform ⟨⟨(), []⟩, []⟩).2.state.exchanges.length = 1 := rfl
  rw [hsent, List.nil_append] at hone
  obtain ⟨x, rfl⟩ := List.length_eq_one_iff.1 hone
  have hx := hbehind x List.mem_cons_self
  rw [hu] at hx
  have hpath := (hx.in_path rfl rfl).1
  refine ⟨_, x, hendpoint, hsent, hx.host, ?_⟩
  rw [hpath]
  rfl

set_option maxRecDepth 8000 in
/-- With a query in the URL of its configuration an endpoint sends its requests to the path of that
URL. -/
theorem target_outside_of_query :
    ¬ ∀ (f : Factory) (config : ServerConfig) (s t : Scene Unit) (e : Endpoint),
      (f.endpoint config).perform s = (.ok e, t) → ∀ u, parseUrl config.url = .ok u →
        ∀ segments : List String, segments ≠ [] → (∀ segment ∈ segments, IsPlain segment) →
          ∀ (method : Method) (token : Option Secret) (body : Option Json) (q : Request),
            e.prepare method ("/".intercalate segments) token body = .ok q →
              q.target.path.render =
                Endpoint.trimEnd u.path.render ++ "/v1/" ++ "/".intercalate segments := by
  intro h
  have hendpoint : ((⟨{}, .bare⟩ : Factory).endpoint { url := "https://vault:8200/?x=1" }).perform
      (⟨(), []⟩ : Scene Unit) = (.ok ⟨⟨"vault-credentials-rust/1.0"⟩,
        "https://vault:8200/?x=1", none⟩, _) := rfl
  have hread : parseUrl "https://vault:8200/?x=1" = .ok {
      scheme := "https", host := some (.name "vault"), port := some 8200,
      path := .segments [""], query := some "x=1" } := rfl
  have hprepare : ∃ q, Endpoint.prepare ⟨⟨"vault-credentials-rust/1.0"⟩,
      "https://vault:8200/?x=1", none⟩ .get ("/".intercalate ["kv", "data", "doc"]) none none =
        .ok q ∧ q.target.path.render = "/" := ⟨_, rfl, rfl⟩
  obtain ⟨q, hprepare, hpath⟩ := hprepare
  have hq := h _ _ _ _ _ hendpoint _ hread ["kv", "data", "doc"] (by decide) (by decide) _ _ _ _
    hprepare
  rw [hpath] at hq
  exact absurd hq (by decide)

end Factory

end VaultAccess
