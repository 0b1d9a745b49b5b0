import VaultAccess.Proofs.Base64
import VaultAccess.Proofs.Transcripts

/-!
# Texts on their way to the server and back

A text is encrypted as the standard Base64 text of its bytes, and what decryption yields is read as such a
text. Both steps are reversible: each Base64 text stands for at most one text (`decoded_eq_ok_iff`), and
whatever is no Base64 text of a text is refused (`exists_decoded_eq_error`). So a key or a password that
was encrypted comes back as it was, or not at all.

`Client.Asks` picks the exchange of a call out of the transcript: what was sent once a token had been
obtained, and what came back.
-/

namespace VaultAccess

open Http

/-- The text in the place of the plaintext in a response, if it can be read. -/
def Http.Response.plaintext? (r : Response) : Option String :=
  (r.reply? .transit).bind (·.plaintext)

theorem Http.Response.plaintext?_eq_some_iff {ν : Type} (net : Network ν) (path : String)
    {r : Response} {text : String} : r.plaintext? = some text ↔ ∃ reply,
      classify path (net.reader .transit) r = .ok (some reply) ∧ reply.plaintext = some text := by
  rw [plaintext?, reply?_eq net path]
  rcases classify path (net.reader .transit) r with f | _ | reply
  · exact ⟨nofun, nofun⟩
  · exact ⟨nofun, nofun⟩
  · exact ⟨fun h ↦ ⟨reply, rfl, h⟩, fun ⟨_, hreply, h⟩ ↦ by cases hreply; exact h⟩

namespace Client

variable {ν : Type} {c : Client} {net : Network ν} {s : Scene (Link (Recorded ν))}
  {x : Exchanged} {call : Backend.Call} {engine key text value ciphertext : String}

/-! ### Texts in base 64 -/

theorem encoded_eq : text = encoded value ↔ Base64.Spells text (Utf8.encode value) :=
  Base64.spells_iff.symm

/-- Just the standard text is read. -/
theorem decoded_eq_ok_iff :
    decoded text = .ok value ↔ Base64.Spells text (Utf8.encode value) := by
  rw [Base64.spells_iff, ← Base64.decode_encode_eq_ok_iff, decoded]
  cases hbytes : Base64.decode (Utf8.encode text) with
  | error fault => exact ⟨nofun, nofun⟩
  | ok bytes =>
    dsimp only
    rw [Except.ok.injEq, ← Utf8.decode_eq_ok_iff]
    cases Utf8.decode bytes with
    | error fault => exact ⟨nofun, nofun⟩
    | ok s => simp only [Except.ok.injEq]

/-- Every other text is refused. -/
theorem exists_decoded_eq_error (h : ∀ value, ¬ Base64.Spells text (Utf8.encode value)) :
    ∃ cause, decoded text = .error (.unexpectedResponse cause) := by
  cases hdecoded : decoded text with
  | ok value => exact absurd (decoded_eq_ok_iff.1 hdecoded) (h value)
  | error f =>
    rw [decoded] at hdecoded
    split at hdecoded
    next fault _ => exact ⟨.notBase64 fault, hdecoded.symm⟩
    next =>
      split at hdecoded
      next fault _ => exact ⟨.notUtf8 fault, hdecoded.symm⟩
      next => cases hdecoded

/-- A plaintext that is there is not missing. -/
theorem decoded_ne_noPlaintext : decoded text ≠ .error (.unexpectedResponse .noPlaintext) := by
  rw [decoded]
  split
  · nofun
  · split <;> nofun

/-- A text in base 64 needs no escapes. -/
theorem quote_encoded : Json.quote (encoded value) = "\"" ++ encoded value ++ "\"" := by
  obtain ⟨sextets, pads, hcovers, -, -, htext⟩ := encoded_eq.1 (Eq.refl (encoded value))
  have hletter : ∀ v < 64, Json.escapeChar (Base64.letter v) = [Base64.letter v] := by
    decide +kernel
  have hchars : ∀ char ∈ (encoded value).toList, Json.escapeChar char = [char] := by
    rw [htext]
    intro char hchar
    rcases List.mem_append.1 hchar with hchar | hchar
    · obtain ⟨v, hv, rfl⟩ := List.mem_map.1 hchar
      exact hletter v (hcovers.1 v hv)
    · rw [List.eq_of_mem_replicate hchar]
      decide
  rw [Json.quote, Json.escape, List.flatMap_congr hchars, List.flatMap_singleton']
  refine String.toList_inj.1 ?_
  rw [String.toList_ofList, String.toList_append, String.toList_append]
  rfl

/-! ### The exchange of a call -/

/-- What a call exchanges once it has obtained a token. -/
def Asks (c : Client) (net : Network ν) (call : Backend.Call) (s : Scene (Link (Recorded ν)))
    (x : Exchanged) : Prop :=
  ∃ token t, (c.token net.recorded).perform s = (.ok token, t) ∧
    c.prepare call token = .ok x.request ∧
    c.exchangesAfter net call s = t.state.outside.exchanges ++ [x]

theorem asks_iff : c.Asks net call s x ↔
    ∃ token t, (c.token net.recorded).perform s = (.ok token, t) ∧
      c.prepare call token = .ok x.request ∧
      x.response = (net.exchange x.request t.state.outside.outside).1 := by
  refine exists_congr fun token ↦ exists_congr fun t ↦ and_congr_right fun htoken ↦
    and_congr_right fun hprepare ↦ ?_
  have hafter : c.exchangesAfter net call s = t.state.outside.exchanges ++
      [⟨x.request, (net.exchange x.request t.state.outside.outside).1⟩] := by
    rw [exchangesAfter, make_perform_snd, htoken]
    exact (afterRequest_of_ok hprepare).2
  rw [hafter, List.append_cancel_left_eq, List.cons.injEq]
  obtain ⟨request, response⟩ := x
  simp only [Exchanged.mk.injEq, true_and, and_true]
  exact eq_comm

/-- The outcome of the request of a call. -/
theorem request_perform_fst {α : Type} {reader : Reply.Reader α} {method : Method}
    {path : String} {body : Option Json} {token : SessionToken} {t : Scene (Link (Recorded ν))}
    (htoken : (c.token net.recorded).perform s = (.ok token, t)) :
    ((c.request net.recorded reader method path body).perform s).1 =
      match c.endpoint.prepare method path (some token.value) body with
      | .error fault => .error (.unavailable (.unsent fault))
      | .ok q => (Endpoint.received q (net.exchange q t.state.outside.outside).1).bind
          (classify path reader) := by
  rw [request, Action.perform_bind_of_ok htoken]
  show ((Link.outsideAction _).perform t).1 = _
  rw [Link.outsideAction_perform, Endpoint.perform_request_eq]
  cases hprepare : c.endpoint.prepare method path (some token.value) body with
  | error fault => rw [Endpoint.perform_send_of_error hprepare]; rfl
  | ok q => rw [Endpoint.perform_send_of_ok hprepare]; rfl

/-- A call whose request succeeds made it and had a response. -/
theorem exists_asks_of_request {α : Type} {reader : Reply.Reader α} {reply : Option α}
    (call : Backend.Call) (h : ((c.request net.recorded reader (methodOf call) (pathOf call)
      (bodyOf call)).perform s).1 = .ok reply) :
    ∃ x r, c.Asks net call s x ∧ x.response = some r ∧
      classify (pathOf call) reader r = .ok reply := by
  rcases htoken : (c.token net.recorded).perform s with ⟨f | token, t⟩
  · rw [request, Action.perform_bind_of_error htoken] at h
    cases h
  rw [request_perform_fst htoken] at h
  cases hprepare : c.endpoint.prepare (methodOf call) (pathOf call) (some token.value)
      (bodyOf call) with
  | error fault =>
    rw [hprepare] at h
    cases h
  | ok q =>
    rw [hprepare] at h
    cases hresponse : (net.exchange q t.state.outside.outside).1 with
    | none =>
      simp only [hresponse] at h
      cases h
    | some r =>
      simp only [hresponse] at h
      exact ⟨⟨q, some r⟩, r, asks_iff.2 ⟨token, t, htoken, hprepare, hresponse.symm⟩, rfl, h⟩

/-! ### Decryption -/

/-- What is made of a reply to decryption. -/
def decrypted (reply : Option Reply.Transit) : Except Failure String :=
  match reply.bind (·.plaintext) with
  | some text => decoded text
  | none => .error (.unexpectedResponse .noPlaintext)

theorem decrypt_perform_fst {net : Network ν} {s : Scene (Link ν)} :
    ((c.decrypt net engine key ciphertext).perform s).1 =
      ((c.request net (net.reader .transit) .post (engine ++ "/decrypt/" ++ key)
        (some (.object [("ciphertext", .text ciphertext)]))).perform s).1.bind decrypted := by
  rw [decrypt, Action.perform_bind]
  rcases (c.request net _ _ _ _).perform s with ⟨f | reply, t⟩
  · rfl
  · show ((Action.orFail _ (reply.bind (·.plaintext)) >>= _).perform t).1 = decrypted reply
    rw [decrypted]
    cases reply.bind (·.plaintext) <;> rfl

/-- The outcome of a decryption whose response has a plaintext. -/
theorem decrypt_of_asks {r : Response} (h : c.Asks net (.decrypt engine key ciphertext) s x)
    (hresponse : x.response = some r) (htext : r.plaintext? = some text) :
    ((c.decrypt net.recorded engine key ciphertext).perform s).1 = decoded text := by
  obtain ⟨token, t, htoken, hprepare, hx⟩ := asks_iff.1 h
  obtain ⟨reply, hreply, hplaintext⟩ :=
    (Response.plaintext?_eq_some_iff net.recorded (engine ++ "/decrypt/" ++ key)).1 htext
  have hprepare : c.endpoint.prepare .post (engine ++ "/decrypt/" ++ key) (some token.value)
      (some (.object [("ciphertext", .text ciphertext)])) = .ok x.request := hprepare
  rw [decrypt_perform_fst, request_perform_fst htoken, hprepare]
  dsimp only
  rw [← hx, hresponse]
  show ((classify _ _ r).bind decrypted) = _
  rw [hreply]
  show decrypted (some reply) = _
  rw [decrypted, Option.bind_some, hplaintext]

/-- A decryption that succeeds had a response with a plaintext. -/
theorem exists_asks_of_decrypt
    (h : ((c.decrypt net.recorded engine key ciphertext).perform s).1 = .ok value) :
    ∃ x r text, c.Asks net (.decrypt engine key ciphertext) s x ∧ x.response = some r ∧
      r.plaintext? = some text ∧ decoded text = .ok value := by
  rw [decrypt_perform_fst] at h
  cases hrequest : ((c.request net.recorded (net.recorded.reader .transit) .post
      (engine ++ "/decrypt/" ++ key)
      (some (.object [("ciphertext", .text ciphertext)]))).perform s).1 with
  | error f =>
    rw [hrequest] at h
    cases h
  | ok reply =>
    rw [hrequest] at h
    obtain ⟨x, r, hasks, hresponse, hreply⟩ :=
      exists_asks_of_request (.decrypt engine key ciphertext) hrequest
    have hdecrypted : decrypted reply = .ok value := h
    rw [decrypted] at hdecrypted
    cases htext : reply.bind (·.plaintext) with
    | none =>
      rw [htext] at hdecrypted
      cases hdecrypted
    | some text =>
      rw [htext] at hdecrypted
      obtain ⟨transit, rfl, hplaintext⟩ := Option.bind_eq_some_iff.1 htext
      exact ⟨x, r, text, hasks, hresponse,
        (Response.plaintext?_eq_some_iff net.recorded _).2 ⟨transit, hreply, hplaintext⟩, hdecrypted⟩

/-! ### Encryption -/

/-- An encryption that succeeds sent its request. -/
theorem exists_asks_of_encrypt
    (h : ((c.encrypt net.recorded engine key value).perform s).1 = .ok ciphertext) :
    ∃ x, c.Asks net (.encrypt engine key value) s x := by
  rcases hperform : (c.request net.recorded (net.recorded.reader .transit) .post
      (engine ++ "/encrypt/" ++ key)
      (some (.object [("plaintext", .text (encoded value))]))).perform s with ⟨f | reply, t⟩
  · rw [encrypt, Action.perform_bind_of_error hperform] at h
    cases h
  · obtain ⟨x, -, hasks, -⟩ := exists_asks_of_request (.encrypt engine key value)
      (congrArg Prod.fst hperform)
    exact ⟨x, hasks⟩

/-- The body of a request to encrypt. -/
theorem body_of_asks (h : c.Asks net (.encrypt engine key value) s x) : x.request.body =
    some ("\x7b\"plaintext\":\"" ++ encoded value ++ "\"\x7d") := by
  obtain ⟨token, -, -, hprepare, -⟩ := h
  obtain ⟨u, -, -, -, -, hrequest⟩ := Http.Client.prepare_eq_ok_iff.1 hprepare
  have hname : Json.quote "plaintext" = "\"plaintext\"" := by decide
  rw [hrequest]
  show some ("\x7b" ++ (Json.quote "plaintext" ++ ":" ++ Json.quote (encoded value)) ++ "\x7d") = _
  rw [hname, quote_encoded, Option.some.injEq, ← String.toList_inj]
  simp only [String.toList_append, List.append_assoc]
  rfl

/-! ### There and back -/

/-- A text is sent to be encrypted as the standard Base64 text of its bytes. What comes back from
decryption is the text that its plaintext is the standard Base64 text of, and if there is none, the
response is refused. -/
theorem transit_law (c : Client) (net : Network ν) (engine key : String)
    (s : Scene (Link (Recorded ν))) :
    (∀ value x, c.Asks net (.encrypt engine key value) s x →
      ∃ text, Base64.Spells text (Utf8.encode value) ∧
        x.request.body = some ("\x7b\"plaintext\":\"" ++ text ++ "\"\x7d")) ∧
    (∀ value ciphertext,
      ((c.encrypt net.recorded engine key value).perform s).1 = .ok ciphertext →
        ∃ x, c.Asks net (.encrypt engine key value) s x) ∧
    (∀ ciphertext x r text, c.Asks net (.decrypt engine key ciphertext) s x →
      x.response = some r → r.plaintext? = some text →
        (∀ value, ((c.decrypt net.recorded engine key ciphertext).perform s).1 = .ok value ↔
          Base64.Spells text (Utf8.encode value)) ∧
        ((∀ value, ¬ Base64.Spells text (Utf8.encode value)) →
          ∃ cause, ((c.decrypt net.recorded engine key ciphertext).perform s).1 =
            .error (.unexpectedResponse cause))) ∧
    ∀ ciphertext value, ((c.decrypt net.recorded engine key ciphertext).perform s).1 = .ok value →
      ∃ x r text, c.Asks net (.decrypt engine key ciphertext) s x ∧ x.response = some r ∧
        r.plaintext? = some text ∧ Base64.Spells text (Utf8.encode value) := by
  refine ⟨fun value x hasks ↦ ⟨encoded value, encoded_eq.1 rfl, body_of_asks hasks⟩,
    fun value ciphertext ↦ exists_asks_of_encrypt, fun ciphertext x r text hasks hresponse htext ↦ ?_,
    fun ciphertext value hvalue ↦ ?_⟩
  · rw [decrypt_of_asks hasks hresponse htext]
    exact ⟨fun value ↦ decoded_eq_ok_iff, exists_decoded_eq_error⟩
  · obtain ⟨x, r, text, hasks, hresponse, htext, hdecoded⟩ := exists_asks_of_decrypt hvalue
    exact ⟨x, r, text, hasks, hresponse, htext, decoded_eq_ok_iff.1 hdecoded⟩

/-- A client with a token. -/
def tokenClient : Client :=
  ⟨⟨⟨"vault-credentials-rust/1.0"⟩, "http://vault.test", none⟩, .token ⟨"s.static"⟩⟩

/-- A network that answers every request with one plaintext. -/
def answering (text : String) : Network Unit where
  exchange _ s :=
    (some ⟨200, .whole (Utf8.encode ("\x7b\"data\":\x7b\"plaintext\":\"" ++ text ++ "\"\x7d\x7d"))⟩, s)
  now _ := ⟨0⟩
  explain _ _ := "expected value at line 1 column 1"

/-- A scene in which nothing has been done. -/
def untouched : Scene (Link (Recorded Unit)) := ⟨⟨{}, ⟨(), []⟩⟩, []⟩

set_option maxRecDepth 8000 in
/-- A short text goes there and back. Without its padding, it does not. -/
theorem transit_law_of_short_text :
    (∃ x, tokenClient.Asks (answering "aGk=") (.encrypt "transit" "app" "hi") untouched x ∧
      x.request.body = some "\x7b\"plaintext\":\"aGk=\"\x7d") ∧
    ((tokenClient.decrypt (answering "aGk=").recorded "transit" "app" "vault:v1:x").perform
      untouched).1 = .ok "hi" ∧
    ∃ cause, ((tokenClient.decrypt (answering "aGk").recorded "transit" "app" "vault:v1:x").perform
      untouched).1 = .error (.unexpectedResponse cause) := by
  have hasks : ∀ (text : String) (call : Backend.Call),
      (∃ q, tokenClient.prepare call ⟨⟨"s.static"⟩, ⟨0⟩, none⟩ = .ok q) →
        ∃ x, tokenClient.Asks (answering text) call untouched x ∧
          x.response = ((answering text).exchange x.request ()).1 := by
    rintro text call ⟨q, hq⟩
    exact ⟨⟨q, _⟩, asks_iff.2 ⟨_, _, rfl, hq, rfl⟩, rfl⟩
  have hencrypt : ∃ q, tokenClient.prepare (.encrypt "transit" "app" "hi")
      ⟨⟨"s.static"⟩, ⟨0⟩, none⟩ = .ok q := ⟨_, rfl⟩
  have hdecrypt : ∃ q, tokenClient.prepare (.decrypt "transit" "app" "vault:v1:x")
      ⟨⟨"s.static"⟩, ⟨0⟩, none⟩ = .ok q := ⟨_, rfl⟩
  have hpadded : Base64.Spells "aGk=" (Utf8.encode "hi") := Base64.spells_iff.2 rfl
  have hunpadded : ∀ value, ¬ Base64.Spells "aGk" (Utf8.encode value) := fun value h ↦
    absurd h.length_mod (by decide)
  obtain ⟨hsent, -, hread, -⟩ :=
    transit_law tokenClient (answering "aGk=") "transit" "app" untouched
  obtain ⟨-, -, hrefused, -⟩ :=
    transit_law tokenClient (answering "aGk") "transit" "app" untouched
  refine ⟨?_, ?_, ?_⟩
  · obtain ⟨x, hx, -⟩ := hasks "aGk=" _ hencrypt
    obtain ⟨text, htext, hbody⟩ := hsent "hi" x hx
    rw [Base64.spells_iff.1 htext] at hbody
    exact ⟨x, hx, hbody⟩
  · obtain ⟨x, hx, hresponse⟩ := hasks "aGk=" _ hdecrypt
    exact ((hread _ x _ _ hx hresponse (by decide +kernel)).1 "hi").2 hpadded
  · obtain ⟨x, hx, hresponse⟩ := hasks "aGk" _ hdecrypt
    exact (hrefused _ x _ _ hx hresponse (by decide +kernel)).2 hunpadded

end Client

end VaultAccess
