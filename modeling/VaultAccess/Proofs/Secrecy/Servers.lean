import VaultAccess.Proofs.Secrecy.Requests

/-!
# Servers that are alike

A server answers from two scripts: one for logins and one for everything else. Which of them is
meant can be told from a request, since only a login brings something without a token. Two servers
are alike if their scripts are as long and answers at the same place are alike: those to logins may
issue different tokens, and those to other requests may differ as far as it is agreed.

An answer also says how long it takes, which is all that moves the clock while something is done.
-/

namespace VaultAccess

/-! ### Responses -/

section

variable {α : Type} {read : List UInt8 → Option α} {reader : Reply.Reader α} {V : α → α → Prop}
  {path : String} {r r' : Http.Response}

/-- Two responses are alike as what is read from them: they are the same, or both succeeded and
values that are alike are read from them. -/
def Http.Response.AlikeAs (read : List UInt8 → Option α) (V : α → α → Prop)
    (r r' : Http.Response) : Prop :=
  r = r' ∨ r.status = r'.status ∧ r.status.isSuccess = true ∧
    ∃ bytes bytes' x y, r.body = .whole bytes ∧ r'.body = .whole bytes' ∧ bytes ≠ [] ∧
      bytes' ≠ [] ∧ read bytes = some x ∧ read bytes' = some y ∧ V x y

/-- Bodies from which values that are alike are read are as good as equal. -/
theorem Http.Response.AlikeAs.of_read {bytes bytes' : List UInt8} {x y : α} (hne : bytes ≠ [])
    (hne' : bytes' ≠ []) (hx : read bytes = some x) (hy : read bytes' = some y) (hxy : V x y) :
    Response.AlikeAs read V ⟨200, .whole bytes⟩ ⟨200, .whole bytes'⟩ :=
  .inr ⟨rfl, rfl, bytes, bytes', x, y, rfl, rfl, hne, hne', hx, hy, hxy⟩

theorem alikeOutcomes_refl {ε : Type} (hV : ∀ x, V x x) (r : Except ε (Option α)) :
    AlikeOutcomes (Option.Rel V) r r := by
  rcases r with e | _ | x
  · exact .error e
  · exact .ok .none
  · exact .ok (.some (hV x))

/-- Responses that are alike as what is read from them mean the same but for that. -/
theorem classify_alike (hV : ∀ x, V x x) (h : r.AlikeAs reader.read? V r') :
    AlikeOutcomes (Option.Rel V) (classify path reader r) (classify path reader r') := by
  obtain rfl | ⟨hstatus, hsuccess, bytes, bytes', x, y, hbody, hbody', hne, hne', hx, hy, hxy⟩ := h
  · exact alikeOutcomes_refl hV _
  by_cases hempty : r.status = 204
  · have hnone : ∀ s : Http.Response, s.status = 204 → classify path reader s = .ok none :=
      fun s hs ↦ if_pos (by simp [hs])
    rw [hnone r hempty, hnone r' (hstatus ▸ hempty)]
    exact .ok .none
  · rw [classify_of_isSuccess hsuccess hempty,
      classify_of_isSuccess (hstatus ▸ hsuccess) (hstatus ▸ hempty), hbody, hbody',
      decodeBody_of_ne_nil hne, decodeBody_of_ne_nil hne', hx, hy]
    exact .ok (.some hxy)

end

namespace Reply

/-- Two replies to a login are alike: they differ at most in the token. -/
structure Login.Alike (l l' : Login) : Prop where
  clientToken : l.clientToken.Alike l'.clientToken
  leaseDuration : l.leaseDuration = l'.leaseDuration
  renewable : l.renewable = l'.renewable

/-- Two database users are alike: they differ at most in the password. -/
structure User.Alike (u u' : User) : Prop where
  username : u.username = u'.username
  ttl : u.ttl = u'.ttl

/-- Two replies to reading database credentials are alike: they differ at most in the password. -/
structure Database.Alike (d d' : Database) : Prop where
  data : Option.Rel User.Alike d.data d'.data
  leaseDuration : d.leaseDuration = d'.leaseDuration

theorem Login.Alike.refl (l : Login) : l.Alike l := ⟨rfl, rfl, rfl⟩

theorem Database.Alike.refl (d : Database) : d.Alike d := by
  refine ⟨?_, rfl⟩
  cases d.data with
  | none => exact .none
  | some u => exact .some ⟨rfl, rfl⟩

end Reply

namespace Http

/-- Two responses to a login are alike: if both succeeded, the tokens that they issue may differ. -/
def AlikeLogins : Response → Response → Prop :=
  Response.AlikeAs (Reply.decode? Reply.Login.ofTree?) Reply.Login.Alike

/-- Two responses to reading database credentials are alike: if both succeeded, the passwords may
differ. -/
def AlikeCredentials : Response → Response → Prop :=
  Response.AlikeAs (Reply.decode? Reply.Database.ofTree?) Reply.Database.Alike

/-- Two responses to a request are alike, where those to requests other than logins may differ as
`V` allows. -/
def AlikeAnswers (V : Response → Response → Prop) (q : Request) : Response → Response → Prop :=
  if q.isLogin then AlikeLogins else V

end Http

/-! ### Requests other than logins -/

namespace Endpoint

open Http

variable {ν μ : Type} {R : ν → μ → Prop} {V : Response → Response → Prop} {net : Network ν}
  {net' : Network μ} {e : Endpoint} {method : Method} {path : String} {token token' : Option Secret}
  {body body' : Option Json} {kind : Reply.Kind} {W : kind.Content → kind.Content → Prop}

/-- What responses to other requests than logins may differ in, decides what the requests end in. -/
theorem request_alike_of_not_login (hnet : net.Alike R (AlikeAnswers V) net')
    (hlogin : (method == .post && token.isNone) = false)
    (htoken : Option.Rel Secret.Alike token token') (hbody : AlikeBodies body body')
    (hread : ∀ r r', V r r' → AlikeOutcomes (Option.Rel W) (classify path (net.reader kind) r)
      (classify path (net.reader kind) r')) :
    Action.Alike R (Option.Rel W) (e.request net (net.reader kind) method path token body)
      (e.request net' (net'.reader kind) method path token' body') := by
  rw [← hnet.reader_eq]
  refine request_alike hnet htoken hbody fun q r r' hq hr ↦ hread r r' ?_
  rwa [AlikeAnswers, isLogin_of_prepare hq, hlogin] at hr

/-- If responses may not differ, requests yield the same. -/
theorem request_alike_eq (hnet : net.Alike R (AlikeAnswers Eq) net')
    (hlogin : (method == .post && token.isNone) = false)
    (htoken : Option.Rel Secret.Alike token token') (hbody : AlikeBodies body body') :
    Action.Alike R Eq (e.request net (net.reader kind) method path token body)
      (e.request net' (net'.reader kind) method path token' body') := by
  have hrequest : Action.Alike R (Option.Rel Eq)
      (e.request net (net.reader kind) method path token body)
      (e.request net' (net'.reader kind) method path token' body') :=
    request_alike_of_not_login hnet hlogin htoken hbody fun r r' h ↦ by
      rw [h]
      exact alikeOutcomes_refl (fun _ ↦ rfl) _
  refine hrequest.mono fun o o' h ↦ ?_
  cases h with
  | none => rfl
  | some h => rw [h]

end Endpoint

/-! ### Servers -/

/-- An answer: a response, unless there is none, and how many milliseconds it takes. -/
structure Answer where
  response : Option Http.Response
  takes : Nat := 0

/-- What a server has yet to answer, and a clock. -/
structure Server where
  logins : List Answer := []
  others : List Answer := []
  now : Instant := ⟨0⟩

namespace Server

/-- Answer a request. Once its script is used up there is no response. -/
def answer (q : Http.Request) (s : Server) : Answer × Server :=
  if q.isLogin then (s.logins.headD ⟨none, 0⟩, { s with logins := s.logins.tail })
  else (s.others.headD ⟨none, 0⟩, { s with others := s.others.tail })

/-- The network at the other end of which is a server, for a reader with words of its own. -/
def network (words : Reply.Kind → List UInt8 → String) : Http.Network Server where
  exchange q s :=
    let (answer, s) := s.answer q
    (answer.response, { s with now := s.now.after answer.takes })
  now := Server.now
  explain := words

end Server

variable {V : Http.Response → Http.Response → Prop}

/-- Two answers are alike. -/
structure Answer.Alike (V : Http.Response → Http.Response → Prop) (a b : Answer) : Prop where
  response : Option.Rel V a.response b.response
  takes : a.takes = b.takes

/-- Two servers are alike. -/
structure Server.Alike (V : Http.Response → Http.Response → Prop) (s t : Server) : Prop where
  logins : List.Forall₂ (Answer.Alike Http.AlikeLogins) s.logins t.logins
  others : List.Forall₂ (Answer.Alike V) s.others t.others
  now : s.now = t.now

/-- The next answers of two scripts are alike, also when the scripts have run out. -/
theorem Answer.alike_headD {as bs : List Answer} (h : List.Forall₂ (Answer.Alike V) as bs) :
    Answer.Alike V (as.headD ⟨none, 0⟩) (bs.headD ⟨none, 0⟩) := by
  cases h with
  | nil => exact ⟨.none, rfl⟩
  | cons h _ => exact h

theorem forall₂_tail {α β : Type} {R : α → β → Prop} {as : List α} {bs : List β}
    (h : List.Forall₂ R as bs) : List.Forall₂ R as.tail bs.tail := by
  cases h with
  | nil => exact .nil
  | cons _ h => exact h

/-- Servers with scripts that are alike answer alike, and stay alike. -/
theorem Server.answer_alike {s t : Server} {q q' : Http.Request} (hs : s.Alike V t)
    (hq : q.Alike q') :
    Answer.Alike (Http.AlikeAnswers V q) (s.answer q).1 (t.answer q').1 ∧
      Server.Alike V (s.answer q).2 (t.answer q').2 := by
  rw [answer, answer, ← hq.isLogin_eq, Http.AlikeAnswers]
  cases q.isLogin with
  | true =>
    exact ⟨Answer.alike_headD hs.logins, forall₂_tail hs.logins, hs.others, hs.now⟩
  | false =>
    exact ⟨Answer.alike_headD hs.others, hs.logins, forall₂_tail hs.others, hs.now⟩

/-- Servers that are alike answer alike. -/
theorem Server.network_alike (words : Reply.Kind → List UInt8 → String) :
    (network words).Alike (Server.Alike V) (Http.AlikeAnswers V) (network words) where
  now _ _ h := h.now
  exchange s t q q' hs hq := by
    obtain ⟨⟨hresponse, htakes⟩, hlogins, hothers, hnow⟩ := answer_alike hs hq
    exact ⟨hresponse, hlogins, hothers, congrArg₂ Instant.after hnow htakes⟩
  explain := rfl

end VaultAccess
