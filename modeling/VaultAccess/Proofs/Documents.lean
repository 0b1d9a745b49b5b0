import VaultAccess.Proofs.Targets

/-!
# Which document is read

A client reads a document at a path that is put together from the names of the engine and of the
document, as they are, with a version behind them. What comes of it depends on the characters of the
names. A literal name has none of those that end a path, separate its segments, are dropped from it
or begin an encoded byte, and no segment that leads to another directory; it stands in the path as
itself, encoded where needed, and can be had back by decoding (`decode_pathText`). With literal
names every read of a version asks for just that version of that document
(`Client.reads_of_literal_names`). With others it may ask for the latest version of another one
(`Client.unpinned_of_marked_name`).
-/

namespace VaultAccess

open Http Url

/-! ### Literal names -/

namespace Url

variable {c : Char} {cs part : List Char} {s : String}

/-- Whether a character stands for itself in a path, as it is or encoded. -/
def isLiteralChar (c : Char) : Bool :=
  !isIgnored c && c != '?' && c != '#' && c != '%' && c != '\\'

/-- A name that stands for itself in a path. -/
def IsLiteral (s : String) : Prop :=
  (s.toList.all isLiteralChar) = true ∧
    ∀ part ∈ splitAt '/' s.toList, part ≠ ['.'] ∧ part ≠ ['.', '.']

instance : DecidablePred IsLiteral := fun _ ↦ inferInstanceAs (Decidable (_ ∧ _))

/-- A name as it stands in a path. -/
def pathText (s : String) : String := String.ofList (encode pathSet s.toList)

theorem toNat_lt_of_pathSet (h : pathSet c = false) : c.toNat < 0x80 := by
  simp only [pathSet, fragmentSet, controls, Bool.or_eq_false_iff, decide_eq_false_iff_not] at h
  omega

theorem isLiteralChar_iff :
    isLiteralChar c = true ↔
      isIgnored c = false ∧ c ≠ '?' ∧ c ≠ '#' ∧ c ≠ '%' ∧ c ≠ '\\' := by
  simp [isLiteralChar, and_assoc]

/-- A literal name can be had back from the path that it stands in. -/
theorem decode_pathText (h : IsLiteral s) : decode (pathText s) = Utf8.encode s := by
  have hpercent : '%' ∉ s.toList := fun hmem ↦
    (isLiteralChar_iff.1 (List.all_eq_true.1 h.1 _ hmem)).2.2.2.1 rfl
  rw [pathText, decode_encode (fun _ ↦ toNat_lt_of_pathSet) hpercent, String.ofList_toList]

/-- Whatever spells a directory stands for one dot or two. -/
theorem decode_of_isDots (h : isDots cs = true) :
    decode (String.ofList cs) = Utf8.encode "." ∨ decode (String.ofList cs) = Utf8.encode ".." := by
  simp only [isDots, isSingleDot, isDoubleDot, List.any_cons, List.any_nil, Bool.or_false,
    Bool.or_eq_true, beq_iff_eq] at h
  rcases h with h | h
  · left
    rcases h with rfl | rfl | rfl <;> decide
  · right
    rcases h with rfl | rfl | rfl | rfl | rfl | rfl | rfl | rfl | rfl <;> decide

/-- Only a dot and two dots spell a directory without a percent sign. -/
theorem isDots_encode (hpercent : '%' ∉ part) (hsingle : part ≠ ['.'])
    (hdouble : part ≠ ['.', '.']) : isDots (encode pathSet part) = false := by
  rw [Bool.eq_false_iff]
  intro hdots
  -- decoding is simpler to undo than encoding: whatever spells a directory decodes to its dots
  have hdecode := decode_encode (fun _ ↦ toNat_lt_of_pathSet) hpercent
  rcases decode_of_isDots hdots with h | h <;> rw [hdecode, Utf8.encode_inj] at h
  · exact hsingle (String.ofList_injective h)
  · exact hdouble (String.ofList_injective h)

theorem steady_of_isLiteral (h : IsLiteral s) : Steady s.toList := by
  have hchars : ∀ c ∈ s.toList, _ := fun c hc ↦
    isLiteralChar_iff.1 (List.all_eq_true.1 h.1 c hc)
  refine ⟨fun c hc ↦ (hchars c hc).1, fun c hc ↦ (hchars c hc).2.2.2.2, fun part hpart ↦ ?_⟩
  obtain ⟨hsingle, hdouble⟩ := h.2 part hpart
  refine isDots_encode (fun hmem ↦ ?_) hsingle hdouble
  exact (hchars '%' (mem_of_mem_splitAt hpart hmem).1).2.2.2.1 rfl

end Url

namespace Client

variable {ν : Type} {c : Client} {net : Network ν} {q : Request}

/-! ### Requests for documents -/

theorem method_of_prepare {e : Endpoint} {method : Method} {path : String}
    {token : Option VaultAccess.Secret} {body : Option Json}
    (h : e.prepare method path token body = .ok q) : q.method = method := by
  obtain ⟨u, -, -, -, -, rfl⟩ := Client.prepare_eq_ok_iff.1 h
  rfl

theorem IsLogin.method_eq (h : c.IsLogin q) : q.method = .post := by
  rw [IsLogin] at h
  split at h
  · exact h.elim
  · exact method_of_prepare h

/-- What a call adds to the exchanges are requests for logins and its own. -/
theorem exists_added_of_call (c : Client) (net : Network ν) (call : Backend.Call)
    (s : Scene (Link (Recorded ν))) :
    ∃ added, c.exchangesAfter net call s = s.state.outside.exchanges ++ added ∧
      ∀ x ∈ added, c.IsLogin x.request ∨ ∃ token, c.prepare call token = .ok x.request := by
  obtain ⟨logins, -, hlogins, hcall⟩ := call_exchanges c net call s
  cases hobtain : ((c.token net.recorded).perform s).1 with
  | error f =>
    rw [hobtain] at hcall
    exact ⟨logins, hcall, fun x hx ↦ .inl (hlogins x hx)⟩
  | ok token =>
    rw [hobtain] at hcall
    cases hprepare : c.prepare call token with
    | error fault => exact ⟨logins, hcall.2 fault hprepare, fun x hx ↦ .inl (hlogins x hx)⟩
    | ok q =>
      obtain ⟨response, hsent⟩ := hcall.1 q hprepare
      refine ⟨logins ++ [⟨q, response⟩], by rw [hsent, List.append_assoc], fun x hx ↦ ?_⟩
      rcases List.mem_append.1 hx with hx | hx
      · exact .inl (hlogins x hx)
      · obtain rfl := List.mem_singleton.1 hx
        exact .inr ⟨token, hprepare⟩

/-- Getting a secret reads its document, and then at most decrypts something. -/
theorem get_perform_state {σ : Type} (b : Backend σ) (r : SecretReference) (s : Scene σ) :
    let read := ((b.make (.read r.engine r.name r.version)).perform s).2
    ((KeyVault.get b r).perform s).2.state = read.state ∨
      ∃ engine key ciphertext, ((KeyVault.get b r).perform s).2.state =
        ((b.make (.decrypt engine key ciphertext)).perform read).2.state := by
  intro read
  have hread : read = ((b.read r.engine r.name r.version).perform s).2 := rfl
  rw [KeyVault.get, Action.perform_bind]
  rcases hperform : (b.read r.engine r.name r.version).perform s with ⟨e | document, t⟩ <;>
    rw [hperform] at hread <;> rw [hread]
  · exact .inl rfl
  · dsimp only
    rw [Action.perform_bind, Action.perform_ofExcept]
    rcases KeyVault.find r document with e | ⟨value⟩ | ⟨engine, key, ciphertext⟩
    · exact .inl rfl
    · exact .inl rfl
    · refine .inr ⟨engine, key, ciphertext, ?_⟩
      show ((b.decryptLogged engine key ciphertext).perform t).2.state =
        ((b.decrypt engine key ciphertext).perform t).2.state
      rw [Backend.decryptLogged, Action.perform_bind]
      rcases (b.decrypt engine key ciphertext).perform t with ⟨e | plaintext, u⟩ <;> rfl

/-- What is got from the server while a secret is got is its document. -/
theorem exists_added_of_get (c : Client) (net : Network ν) (r : SecretReference)
    (s : Scene (Link (Recorded ν))) :
    ∃ added, ((KeyVault.get (c.backend net.recorded) r).perform s).2.state.outside.exchanges =
        s.state.outside.exchanges ++ added ∧
      ∀ x ∈ added, x.request.method = .get →
        ∃ token, c.prepare (.read r.engine r.name r.version) token = .ok x.request := by
  obtain ⟨added, hadded, hrequests⟩ :=
    exists_added_of_call c net (.read r.engine r.name r.version) s
  -- requests for logins and for decryption are posted
  have hget : ∀ x ∈ added, x.request.method = .get →
      ∃ token, c.prepare (.read r.engine r.name r.version) token = .ok x.request := by
    intro x hx hmethod
    refine (hrequests x hx).resolve_left fun hlogin ↦ ?_
    rw [hlogin.method_eq] at hmethod
    cases hmethod
  obtain hstate | ⟨engine, key, ciphertext, hstate⟩ :=
    get_perform_state (c.backend net.recorded) r s
  · exact ⟨added, by rw [hstate]; exact hadded, hget⟩
  · obtain ⟨later, hlater, hposts⟩ := exists_added_of_call c net (.decrypt engine key ciphertext)
      (((c.backend net.recorded).make (.read r.engine r.name r.version)).perform s).2
    refine ⟨added ++ later, ?_, fun x hx hmethod ↦ ?_⟩
    · rw [hstate, ← List.append_assoc, ← hadded]
      exact hlater
    · rcases List.mem_append.1 hx with hx | hx
      · exact hget x hx hmethod
      · rcases hposts x hx with hlogin | ⟨token, hprepare⟩
        · rw [hlogin.method_eq] at hmethod
          cases hmethod
        · rw [method_of_prepare hprepare] at hmethod
          cases hmethod

/-! ### Reads of a version -/

/-- A target asks a server for a version of a document. -/
structure AsksFor (target u : Url) (engine name : String) (version : UInt32) : Prop where
  scheme : target.scheme = u.scheme
  host : target.host = u.host
  port : target.port = u.port
  path : target.path.render = Endpoint.trimEnd u.path.render ++
    "/v1/" ++ pathText engine ++ "/data/" ++ pathText name
  query : target.query = some ("version=" ++ toString version.toNat)
  fragment : target.fragment = none

/-- The path of a document as the characters of its parts. -/
def documentChars (engine name : String) : List Char :=
  engine.toList ++ '/' :: (['d', 'a', 't', 'a'] ++ '/' :: name.toList)

/-- The query for a version. -/
def versionChars (version : UInt32) : List Char :=
  ['v', 'e', 'r', 's', 'i', 'o', 'n', '='] ++ Nat.toDigits 10 version.toNat

section

variable {u : Url} {host : Host} {engine name : String} {version : UInt32}

theorem versionPath_of_pos (hversion : 0 < version) :
    versionPath engine name (some version) =
      String.ofList (documentChars engine name ++ behind '?' (some (versionChars version))) := by
  rw [versionPath, Option.filter_some, if_pos (by simpa using hversion)]
  refine String.toList_inj.1 ?_
  simp [documentPath, documentChars, versionChars, behind]

theorem steady_documentChars (hengine : IsLiteral engine) (hname : IsLiteral name) :
    Steady (documentChars engine name) := by
  have hdata : Steady ['d', 'a', 't', 'a'] := IsSettledSegment.steady (by decide)
  exact steady_append_iff.2 ⟨steady_of_isLiteral hengine,
    steady_append_iff.2 ⟨hdata, steady_of_isLiteral hname⟩⟩

theorem ne_mark_of_mem_documentChars (hengine : IsLiteral engine) (hname : IsLiteral name)
    {d : Char} (hd : d ∈ documentChars engine name) : d ≠ '#' ∧ d ≠ '?' := by
  have hliteral : ∀ {s : String}, IsLiteral s → d ∈ s.toList → d ≠ '#' ∧ d ≠ '?' := by
    intro s hs hd
    have hd := isLiteralChar_iff.1 (List.all_eq_true.1 hs.1 d hd)
    exact ⟨hd.2.2.1, hd.2.1⟩
  rcases List.mem_append.1 hd with hd | hd
  · exact hliteral hengine hd
  · rcases List.mem_cons.1 hd with rfl | hd
    · decide
    · rcases List.mem_append.1 hd with hd | hd
      · have hall : (['d', 'a', 't', 'a'].all fun d ↦ d != '#' && d != '?') = true := rfl
        simpa using List.all_eq_true.1 hall d hd
      · rcases List.mem_cons.1 hd with rfl | hd
        · decide
        · exact hliteral hname hd

theorem encode_documentChars :
    String.ofList (encode pathSet (documentChars engine name)) =
      pathText engine ++ "/data/" ++ pathText name := by
  have hslash : ∀ cs, encode pathSet ('/' :: cs) = '/' :: encode pathSet cs := fun _ ↦ rfl
  have hdata : encode pathSet ['d', 'a', 't', 'a'] = ['d', 'a', 't', 'a'] := rfl
  refine String.toList_inj.1 ?_
  rw [documentChars, encode_append, hslash, encode_append, hdata, hslash]
  simp [pathText]

theorem mem_versionChars {d : Char} (hd : d ∈ versionChars version) :
    specialQuerySet d = false ∧ isOuterBlank d = false := by
  rcases List.mem_append.1 hd with hd | hd
  · have hall : (['v', 'e', 'r', 's', 'i', 'o', 'n', '='].all fun d ↦
        !specialQuerySet d && !isOuterBlank d) = true := rfl
    simpa using List.all_eq_true.1 hall d hd
  · have hall : ∀ n < 10, specialQuerySet (Nat.digitChar n) = false ∧
        isOuterBlank (Nat.digitChar n) = false := by decide
    obtain ⟨n, hn, rfl⟩ := exists_of_mem_toDigits (by decide) hd
    exact hall n hn

/-- The request for a version of a document whose names are literal asks for it. -/
theorem asksFor_of_prepare {token : SessionToken} (h : u.IsSettled host)
    (haddress : c.endpoint.address = Endpoint.trimEnd u.render) (hquery : u.query = none)
    (hfragment : u.fragment = none) (hengine : IsLiteral engine) (hname : IsLiteral name)
    (hfirst : ∃ d ∈ engine.toList.head?, d ≠ '/') (hversion : 0 < version)
    (hprepare : c.prepare (.read engine name (some version)) token = .ok q) :
    AsksFor q.target u engine name version := by
  have hself : Endpoint.trimStart (versionPath engine name (some version)) =
      versionPath engine name (some version) := by
    refine Endpoint.trimStart_eq_self fun d hd ↦ ?_
    obtain ⟨first, hhead, hne⟩ := hfirst
    rw [versionPath_of_pos hversion, String.toList_ofList, documentChars, List.append_assoc,
      List.head?_append, Option.mem_def.1 hhead, Option.some_or] at hd
    exact Option.some.inj hd ▸ hne
  have hlast : ∀ d ∈ ('/' :: documentChars engine name ++
      behind '?' (some (versionChars version))).getLast?, isOuterBlank d = false := by
    intro d hd
    rw [show '/' :: documentChars engine name ++ behind '?' (some (versionChars version)) =
      ('/' :: documentChars engine name ++ ['?']) ++ versionChars version by simp [behind],
      List.getLast?_append_of_ne_nil _ (by simp [versionChars])] at hd
    exact (mem_versionChars (List.mem_of_getLast? hd)).2
  obtain ⟨path, hrender, hread⟩ := read?_behind_path h hquery hfragment
    (steady_documentChars hengine hname) (fun d ↦ ne_mark_of_mem_documentChars hengine hname)
    (show ∀ t ∈ some (versionChars version), ∀ d ∈ t, isIgnored d = false ∧ d ≠ '#' by
      simpa using fun d hd ↦ ordinary_of_specialQuerySet (mem_versionChars hd).1) hlast
  obtain ⟨v, username, password, hv, hq⟩ := Endpoint.exists_target hprepare
  have htext : c.endpoint.url (pathOf (.read engine name (some version))) =
      Endpoint.trimEnd u.render ++ "/v1/" ++
        String.ofList (documentChars engine name ++ behind '?' (some (versionChars version))) := by
    rw [pathOf, Endpoint.url, haddress, hself, versionPath_of_pos hversion]
  rw [htext, hread] at hv
  obtain ⟨_, -, rfl⟩ := Option.map_eq_some_iff.1 hv
  rw [hq]
  refine ⟨rfl, rfl, rfl, ?_, ?_, rfl⟩
  · show path.render = _
    rw [hrender, encode_documentChars]
    simp [String.append_assoc]
  · show some (String.ofList (encode specialQuerySet (versionChars version))) = _
    rw [encode_eq_self fun d hd ↦ (mem_versionChars hd).1]
    refine congrArg some (String.toList_inj.1 ?_)
    simp [versionChars]

end

/-- While a client gets a secret in some version, what it gets from the server is that version of
the document that the secret is in, if the names of the engine and of the document are literal and
the URL of the configuration has neither query nor fragment. The names can be had back from the path
that is asked for. -/
theorem reads_of_literal_names {σ : Type} (f : Factory) (config : ServerConfig)
    (env : Environment) (s t : Scene σ) (c : Client)
    (hclient : (f.client config env).perform s = (.ok c, t)) :
    ∃ u, Factory.parseUrl config.url = .ok u ∧ (u.query = none → u.fragment = none →
      ∀ (r : SecretReference) (version : UInt32), r.version = some version → 0 < version →
        IsLiteral r.engine → (∃ d ∈ r.engine.toList.head?, d ≠ '/') → IsLiteral r.name →
          decode (pathText r.engine) = Utf8.encode r.engine ∧
          decode (pathText r.name) = Utf8.encode r.name ∧
          ∀ {ν : Type} (net : Network ν) (s : Scene (Link (Recorded ν))), ∃ added : List Exchanged,
            ((KeyVault.get (c.backend net.recorded) r).perform s).2.state.outside.exchanges =
              s.state.outside.exchanges ++ added ∧
            ∀ x ∈ added, x.request.method = .get →
              AsksFor x.request.target u r.engine r.name version) := by
  obtain ⟨s', t', hendpoint⟩ := Factory.exists_endpoint_of_client hclient
  obtain ⟨u, host, hurl, hsettled, haddress⟩ := Factory.exists_settled_of_endpoint hendpoint
  refine ⟨u, hurl, fun hquery hfragment r version hpinned hpos hengine hfirst hname ↦
    ⟨decode_pathText hengine, decode_pathText hname, fun {ν} net s ↦ ?_⟩⟩
  obtain ⟨added, hadded, hget⟩ := exists_added_of_get c net r s
  refine ⟨added, hadded, fun x hx hmethod ↦ ?_⟩
  obtain ⟨token, hprepare⟩ := hget x hx hmethod
  rw [hpinned] at hprepare
  exact asksFor_of_prepare hsettled haddress hquery hfragment hengine hname hfirst hpos hprepare

/-- A client, with a token that was given, of a server on the same machine. -/
def localClient : Client :=
  ⟨⟨⟨"vault-credentials-rust/1.0"⟩, "https://[::1]:8200", none⟩, .token ⟨"s.static"⟩⟩

/-- The URL of that server. -/
def localUrl : Url where
  scheme := "https"
  host := some (.v6 [0, 0, 0, 0, 0, 0, 0, 1])
  port := some 8200
  path := .segments [""]

/-- A scene in which nothing has happened. -/
def quiet : Scene (Link (Recorded Unit)) := ⟨⟨{}, ⟨(), []⟩⟩, []⟩

theorem parseUrl_local : Factory.parseUrl "https://[::1]:8200" = .ok localUrl := rfl

set_option maxRecDepth 8000 in
theorem client_local : ∃ t, ((⟨{}, .bare⟩ : Factory).client { url := "https://[::1]:8200" }
    givenToken).perform (⟨(), []⟩ : Scene Unit) = (.ok localClient, t) :=
  ⟨_, rfl⟩

set_option maxRecDepth 8000 in
/-- The name of a document may have a blank in it. -/
theorem reads_of_spaced_name : ∃ t x,
    ((⟨{}, .bare⟩ : Factory).client { url := "https://[::1]:8200" } givenToken).perform
        (⟨(), []⟩ : Scene Unit) = (.ok localClient, t) ∧
      ((KeyVault.get (localClient.backend absent.recorded)
        ⟨"kv", "my doc", "key", some 3, none, none⟩).perform quiet).2.state.outside.exchanges =
          [x] ∧
      x.request.target.path.render = "/v1/kv/data/my%20doc" ∧
        x.request.target.query = some "version=3" := by
  obtain ⟨t, hclient⟩ := client_local
  obtain ⟨u, hurl, hreads⟩ := reads_of_literal_names _ _ _ _ _ _ hclient
  obtain rfl := Except.ok.inj (parseUrl_local.symm.trans hurl)
  obtain ⟨-, -, hreads⟩ := hreads rfl rfl ⟨"kv", "my doc", "key", some 3, none, none⟩ 3 rfl
    (by decide) (by decide) ⟨'k', rfl, by decide⟩ (by decide)
  obtain ⟨added, hadded, hasks⟩ := hreads absent quiet
  have hget : ((KeyVault.get (localClient.backend absent.recorded)
      ⟨"kv", "my doc", "key", some 3, none, none⟩).perform quiet).2.state.outside.exchanges.map
        (·.request.method) = [.get] := rfl
  rw [hadded, List.map_append] at hget
  obtain ⟨x, rfl, hmethod⟩ := List.map_eq_singleton_iff.1 hget
  have hx := hasks x List.mem_cons_self hmethod
  exact ⟨t, x, hclient, hadded, hx.path, hx.query⟩

set_option maxRecDepth 8000 in
/-- With a number sign in the name of a document, the latest version of another one is read. -/
theorem unpinned_of_marked_name :
    ¬ ∀ (f : Factory) (config : ServerConfig) (env : Environment) (s t : Scene Unit) (c : Client),
      (f.client config env).perform s = (.ok c, t) → ∀ u, Factory.parseUrl config.url = .ok u →
        u.query = none → u.fragment = none →
          ∀ (r : SecretReference) (version : UInt32), r.version = some version → 0 < version →
            ∀ (net : Network Unit), ∀ x ∈ ((KeyVault.get (c.backend net.recorded) r).perform
              quiet).2.state.outside.exchanges, x.request.method = .get →
                AsksFor x.request.target u r.engine r.name version := by
  intro h
  obtain ⟨t, hclient⟩ := client_local
  have hget : ((KeyVault.get (localClient.backend absent.recorded)
      ⟨"kv", "doc#x", "key", some 3, none, none⟩).perform quiet).2.state.outside.exchanges.map
        (fun x ↦ (x.request.method, x.request.target.query)) = [(.get, none)] := rfl
  obtain ⟨x, hx, hboth⟩ := List.map_eq_singleton_iff.1 hget
  obtain ⟨hmethod, hquery⟩ := Prod.mk.inj hboth
  have hasks := h _ _ _ _ _ _ hclient _ parseUrl_local rfl rfl _ 3 rfl (by decide) absent x
    (hx ▸ List.mem_cons_self) hmethod
  rw [hasks.query] at hquery
  cases hquery

end Client

end VaultAccess
