import VaultAccess.Proofs.Exchange

/-!
# What a request carries

Whether there is a request at all depends on the target and on whether the values of its headers are
legal, and on nothing else (`Client.prepare_of_read`). If there is one, its headers are those that
were asked for and a few of the client's own, under names that nobody else uses, so what was asked
for can be looked up in it (`Client.header?_assembled`).

Sending exchanges the request with the network once if there is one, and does nothing if there is
none (`Endpoint.perform_send_of_ok`, `Endpoint.perform_send_of_error`). `Network.recorded` adds to
any network a record of what was sent and what came back.
-/

namespace VaultAccess

namespace Http

variable {ν : Type} {c : Client} {method : Method} {target name : String} {u : Url}
  {headers : List (String × String)} {body : Option Json} {q : Request}

/-- A target that requests can be sent to. -/
def Reachable (target : String) : Prop :=
  ∃ u, Url.read? target = some u ∧ hasHost u = true ∧ isRoutable (takeLogin u).2 = true

/-- The request that a client puts together. -/
def Client.assembled (c : Client) (method : Method) (u : Url) (headers : List (String × String))
    (body : Option Json) : Request where
  method
  target := (takeLogin u).2
  headers := ("user-agent", c.userAgent) :: ((takeLogin u).1.map loginHeader).toList ++ headers ++
    bodyHeaders body
  body := body.map Json.render

/-! ### Putting a request together -/

theorem Client.prepare_of_unread (hu : Url.read? target = none) :
    c.prepare method target headers body = .error .malformed := by
  rw [prepare, hu]
  rfl

theorem Client.prepare_of_read (hu : Url.read? target = some u) :
    c.prepare method target headers body =
      if hasHost u = true then
        if headers.all (fun h ↦ isHeaderValue h.2) = true then
          if isRoutable (takeLogin u).2 = true then .ok (c.assembled method u headers body)
          else .error (.unroutable (takeLogin u).2.render)
        else .error .malformed
      else .error (.unroutable u.render) := by
  rw [prepare, hu]
  cases hhost : hasHost u with
  | false =>
    simp only [hhost, Bool.not_false, Bool.false_eq_true, if_true, if_false]
    rfl
  | true =>
    cases hheaders : headers.all fun h ↦ isHeaderValue h.2 with
    | false =>
      simp only [hhost, Bool.not_true, Bool.not_false, Bool.false_eq_true, if_true, if_false]
      rfl
    | true =>
      cases hroute : isRoutable (takeLogin u).2 with
      | false =>
        simp only [hhost, hroute, Bool.not_true, Bool.not_false, Bool.false_eq_true, if_true,
          if_false]
        rfl
      | true =>
        simp only [hhost, hroute, Bool.not_true, Bool.false_eq_true, if_true, if_false]
        rfl

/-- There is a request exactly if the target can be reached and the values of the headers are
legal. -/
theorem Client.prepare_eq_ok_iff :
    c.prepare method target headers body = .ok q ↔
      ∃ u, Url.read? target = some u ∧ hasHost u = true ∧ isRoutable (takeLogin u).2 = true ∧
        (headers.all fun h ↦ isHeaderValue h.2) = true ∧
        q = c.assembled method u headers body := by
  rcases hu : Url.read? target with - | u
  · simp [prepare_of_unread hu]
  · rw [prepare_of_read hu]
    simp only [Option.some.injEq, exists_eq_left']
    split
    next hhost =>
      split
      next hheaders =>
        split
        next hroute => simp [hhost, hroute, hheaders, eq_comm]
        next hroute => simp [hroute]
      next hheaders => simp [hheaders]
    next hhost => simp [hhost]

/-- With legal values there is a request to every target that can be reached. -/
theorem Client.exists_prepare_iff (hheaders : (headers.all fun h ↦ isHeaderValue h.2) = true) :
    (∃ q, c.prepare method target headers body = .ok q) ↔ Reachable target := by
  simp only [prepare_eq_ok_iff, hheaders, Reachable, true_and]
  constructor
  · rintro ⟨q, u, hu, hhost, hroute, -⟩
    exact ⟨u, hu, hhost, hroute⟩
  · rintro ⟨u, hu, hhost, hroute⟩
    exact ⟨_, u, hu, hhost, hroute, rfl⟩

/-! ### Looking at a request -/

/-- The headers that a client adds of its own accord. -/
def ownHeaders : List String := ["user-agent", "authorization", "content-type"]

/-- Under other names a request has the headers that were asked for. -/
theorem Client.header?_assembled (hname : name ∉ ownHeaders) :
    (c.assembled method u headers body).header? name =
      (headers.find? fun h ↦ h.1 == name).map (·.2) := by
  simp only [ownHeaders, List.mem_cons, List.not_mem_nil, not_or, or_false] at hname
  obtain ⟨hagent, hlogin, hbody⟩ := hname
  have hown : ((takeLogin u).1.map loginHeader).toList.find? (fun h ↦ h.1 == name) = none := by
    cases (takeLogin u).1 with
    | none => rfl
    | some login => simp [loginHeader, Ne.symm hlogin]
  have htype : (bodyHeaders body).find? (fun h ↦ h.1 == name) = none := by
    cases body with
    | none => rfl
    | some body => simp [bodyHeaders, Ne.symm hbody]
  simp [Request.header?, assembled, Ne.symm hagent, hown, htype]

/-! ### The record -/

/-- What was sent, and what came back. -/
structure Exchanged where
  request : Request
  response : Option Response

/-- A state with a record of exchanges, the oldest first. -/
structure Recorded (ν : Type) where
  outside : ν
  exchanges : List Exchanged := []

/-- A network with its exchanges recorded. -/
def Network.recorded (net : Network ν) : Network (Recorded ν) where
  exchange q s :=
    let (response, outside) := net.exchange q s.outside
    (response, ⟨outside, s.exchanges ++ [⟨q, response⟩]⟩)
  now s := net.now s.outside
  explain := net.explain

end Http

/-! ### Endpoints -/

namespace Endpoint

open Http

variable {ν : Type} {e : Endpoint} {net : Http.Network ν} {method : Http.Method} {path : String}
  {token : Option Secret} {body : Option Json} {s : Scene ν} {q : Http.Request}

/-- The request for a path, or why there is none. -/
def prepare (e : Endpoint) (method : Http.Method) (path : String) (token : Option Secret)
    (body : Option Json) : Except Http.Fault Http.Request :=
  e.client.prepare method (e.url path) (e.headers token) body

/-- A request carries the token that it was given. -/
theorem header?_token (h : e.prepare method path token body = .ok q) :
    q.header? tokenHeader = token.map (·.expose) := by
  obtain ⟨u, -, -, -, -, rfl⟩ := Client.prepare_eq_ok_iff.1 h
  rw [Client.header?_assembled (by decide), headers]
  cases token <;> cases e.namespaceName <;> rfl

/-- A request carries the namespace of its endpoint. -/
theorem header?_namespace (h : e.prepare method path token body = .ok q) :
    q.header? namespaceHeader = e.namespaceName := by
  obtain ⟨u, -, -, -, -, rfl⟩ := Client.prepare_eq_ok_iff.1 h
  rw [Client.header?_assembled (by decide), headers]
  cases token <;> cases e.namespaceName <;> rfl

/-- The values of all headers are legal if the token and the namespace are. -/
theorem headers_legal (htoken : ∀ t ∈ token, isHeaderValue t.expose = true)
    (hnamespace : ∀ n ∈ e.namespaceName, isHeaderValue n = true) :
    ((e.headers token).all fun h ↦ isHeaderValue h.2) = true := by
  rw [headers, List.all_append]
  cases token <;> cases hname : e.namespaceName <;> simp_all

/-- What a request ends in, given its response if there is one. -/
def received (q : Http.Request) : Option Http.Response → Except Failure Http.Response
  | some r => .ok r
  | none => .error (.unavailable (.unsent (.unanswered q.target.render)))

theorem perform_send :
    (e.send net method path token body).perform s =
      let sent := e.client.send net method (e.url path) (e.headers token) body s.state
      (sent.1.mapError fun fault ↦ .unavailable (.unsent fault), { s with state := sent.2 }) :=
  rfl

/-- Nothing is sent if there is no request. -/
theorem perform_send_of_error {fault : Http.Fault}
    (h : e.prepare method path token body = .error fault) :
    (e.send net method path token body).perform s =
      (.error (.unavailable (.unsent fault)), s) := by
  rw [perform_send, Client.send, show e.client.prepare _ _ _ _ = _ from h]
  rfl

/-- If there is a request, it is sent once. -/
theorem perform_send_of_ok (h : e.prepare method path token body = .ok q) :
    (e.send net method path token body).perform s =
      (received q (net.exchange q s.state).1, { s with state := (net.exchange q s.state).2 }) := by
  rw [perform_send, Client.send, show e.client.prepare _ _ _ _ = _ from h]
  dsimp only
  rcases net.exchange q s.state with ⟨_ | r, t⟩ <;> rfl

/-- Sorting the response does nothing. -/
theorem perform_request_eq {α : Type} {reader : Reply.Reader α} :
    (e.request net reader method path token body).perform s =
      (((e.send net method path token body).perform s).1.bind (classify path reader),
        ((e.send net method path token body).perform s).2) := by
  rw [request, Action.perform_bind]
  rcases (e.send net method path token body).perform s with ⟨f | r, t⟩ <;> rfl

end Endpoint

end VaultAccess
