import Mathlib.Data.List.Forall2
import VaultAccess.Proofs.Requests
import VaultAccess.Proofs.Secrecy.Actions
import VaultAccess.Session.Login

/-!
# Requests that are alike

Two requests are alike if they differ at most in the token that they carry, in the ids of a login,
or in an unseal key. A token is looked at once before a request is sent: its characters have to be
legal in a header. So tokens may differ as long as both are legal, or neither is.

Responses may differ too, and which of them may depends on what they answer. `Network.Alike` takes
that as a relation: two networks are alike if they answer requests that are alike with responses
that it relates. Of a response that succeeded no more is seen than what is read from it, so
responses from which values that are alike are read are as good as equal (`Response.AlikeAs`).
-/

namespace VaultAccess

/-- Either both may stand in a header, or neither may. -/
def Secret.Alike (a b : Secret) : Prop :=
  Http.isHeaderValue a.expose = Http.isHeaderValue b.expose

instance (a b : Secret) : Decidable (a.Alike b) := inferInstanceAs (Decidable (_ = _))

namespace Http

/-- Two contents of requests are alike: they differ at most in the ids of a login or in an unseal
key. -/
inductive AlikeBodies : Option Json → Option Json → Prop
  | same (body : Option Json) : AlikeBodies body body
  | login (roleId secretId roleId' secretId' : Secret) :
      AlikeBodies (some (Authentication.loginBody roleId secretId))
        (some (Authentication.loginBody roleId' secretId'))
  | key (key key' : Secret) :
      AlikeBodies (some (.object [("key", .text key.expose)]))
        (some (.object [("key", .text key'.expose)]))

/-- Two headers are alike: they differ at most in a token. -/
inductive AlikeHeaders : String × String → String × String → Prop
  | same (h : String × String) : AlikeHeaders h h
  | token (value value' : String) :
      AlikeHeaders (Endpoint.tokenHeader, value) (Endpoint.tokenHeader, value')

/-- Two requests are alike. -/
structure Request.Alike (q q' : Request) : Prop where
  method : q.method = q'.method
  target : q.target = q'.target
  headers : List.Forall₂ AlikeHeaders q.headers q'.headers
  body : ∃ body body', AlikeBodies body body' ∧ q.body = body.map Json.render ∧
    q'.body = body'.map Json.render

/-- A request for a login, as a server can tell: it brings something and has no token yet. -/
def Request.isLogin (q : Request) : Bool :=
  q.method == .post && (q.header? Endpoint.tokenHeader).isNone

section

variable {c : Client} {method : Method} {target name : String}
  {headers headers' : List (String × String)} {body body' : Option Json} {q q' : Request}

theorem find?_isNone_eq (h : List.Forall₂ AlikeHeaders headers headers') :
    (headers.find? fun h ↦ h.1 == name).isNone = (headers'.find? fun h ↦ h.1 == name).isNone := by
  induction h with
  | nil => rfl
  | @cons h h' _ _ hh _ ih =>
    have hname : h.1 = h'.1 := by
      cases hh <;> rfl
    rw [List.find?_cons, List.find?_cons, hname]
    cases h'.1 == name with
    | true => rfl
    | false => exact ih

/-- Requests that are alike have the same headers, whatever is in them. -/
theorem Request.Alike.header?_isNone (h : q.Alike q') :
    (q.header? name).isNone = (q'.header? name).isNone := by
  rw [header?, header?, Option.isNone_map, Option.isNone_map]
  exact find?_isNone_eq h.headers

theorem Request.Alike.isLogin_eq (h : q.Alike q') : q.isLogin = q'.isLogin := by
  rw [isLogin, isLogin, h.method, h.header?_isNone]

/-- The headers of a body do not depend on what is in it. -/
theorem AlikeBodies.bodyHeaders_eq (h : AlikeBodies body body') :
    bodyHeaders body = bodyHeaders body' := by
  cases h <;> rfl

/-- Whether there is a request, and why there is none, does not depend on what may differ. -/
theorem Client.prepare_alike (hheaders : List.Forall₂ AlikeHeaders headers headers')
    (hlegal : (headers.all fun h ↦ isHeaderValue h.2) = headers'.all fun h ↦ isHeaderValue h.2)
    (hbody : AlikeBodies body body') :
    AlikeOutcomes Request.Alike (c.prepare method target headers body)
      (c.prepare method target headers' body') := by
  rcases hu : Url.read? target with - | u
  · rw [prepare_of_unread hu, prepare_of_unread hu]
    exact .error _
  rw [prepare_of_read hu, prepare_of_read hu, hlegal]
  split
  · split
    · split
      · refine .ok ⟨rfl, rfl, ?_, body, body', hbody, rfl, rfl⟩
        rw [assembled, assembled, hbody.bodyHeaders_eq]
        exact List.rel_append (List.rel_append (List.forall₂_same.2 fun h _ ↦ .same h) hheaders)
          (List.forall₂_same.2 fun h _ ↦ .same h)
      · exact .error _
    · exact .error _
  · exact .error _

end

/-! ### Networks -/

/-- Two networks are alike in states that `R` relates: they show the same time, answer requests that
are alike with responses that `A` relates, and have the same words for what cannot be read. -/
structure Network.Alike {ν μ : Type} (R : ν → μ → Prop) (A : Request → Response → Response → Prop)
    (net : Network ν) (net' : Network μ) : Prop where
  now : ∀ s t, R s t → net.now s = net'.now t
  exchange : ∀ s t q q', R s t → q.Alike q' →
    Option.Rel (A q) (net.exchange q s).1 (net'.exchange q' t).1 ∧
      R (net.exchange q s).2 (net'.exchange q' t).2
  explain : net.explain = net'.explain

/-- Networks that are alike say the same of a body that is not read. -/
theorem Network.Alike.reader_eq {ν μ : Type} {R : ν → μ → Prop}
    {A : Request → Response → Response → Prop} {net : Network ν} {net' : Network μ}
    (h : net.Alike R A net') (kind : Reply.Kind) : net.reader kind = net'.reader kind := by
  rw [reader, reader, h.explain]

/-- Two states with a record are alike: what they record is, and the states are. -/
structure Recorded.Alike {ν μ : Type} (R : ν → μ → Prop) (s : Recorded ν) (t : Recorded μ) :
    Prop where
  outside : R s.outside t.outside
  requests : List.Forall₂ (fun x y ↦ x.request.Alike y.request) s.exchanges t.exchanges

theorem Network.Alike.recorded {ν μ : Type} {R : ν → μ → Prop}
    {A : Request → Response → Response → Prop} {net : Network ν} {net' : Network μ}
    (h : net.Alike R A net') : net.recorded.Alike (Recorded.Alike R) A net'.recorded where
  now s t hs := h.now _ _ hs.outside
  exchange s t q q' hs hq := by
    obtain ⟨hresponse, hstate⟩ := h.exchange _ _ q q' hs.outside hq
    exact ⟨hresponse, hstate, List.rel_append hs.requests (.cons hq .nil)⟩
  explain := h.explain

end Http

/-! ### Endpoints -/

namespace Endpoint

open Http

variable {ν μ α β : Type} {R : ν → μ → Prop} {A : Request → Response → Response → Prop}
  {net : Network ν} {net' : Network μ} {e : Endpoint} {method : Method} {path : String}
  {token token' : Option Secret} {body body' : Option Json} {V : α → β → Prop}
  {reader : Reply.Reader α} {reader' : Reply.Reader β}

/-- Requests are put together alike, or neither is. -/
theorem prepare_alike (htoken : Option.Rel Secret.Alike token token')
    (hbody : AlikeBodies body body') :
    AlikeOutcomes Request.Alike (e.prepare method path token body)
      (e.prepare method path token' body') := by
  refine Client.prepare_alike ?_ ?_ hbody
  · refine List.rel_append ?_ (List.forall₂_same.2 fun h _ ↦ .same h)
    cases htoken with
    | none => exact .nil
    | some _ => exact .cons (.token _ _) .nil
  · rw [headers, headers, List.all_append, List.all_append]
    cases htoken with
    | none => rfl
    | some h => simp [show _ = _ from h]

/-- A request is one for a login if it is to bring something and no token is given. -/
theorem isLogin_of_prepare {q : Request} (h : e.prepare method path token body = .ok q) :
    q.isLogin = (method == .post && token.isNone) := by
  rw [Request.isLogin, header?_token h, Option.isNone_map]
  obtain ⟨u, -, -, -, -, rfl⟩ := Client.prepare_eq_ok_iff.1 h
  rfl

/-- No response is the same failure in both networks. -/
theorem received_alike {q q' : Request} {V : Response → Response → Prop}
    {r r' : Option Response} (hq : q.Alike q') (h : Option.Rel V r r') :
    AlikeOutcomes V (received q r) (received q' r') := by
  cases h with
  | none =>
    rw [received, received, hq.target]
    exact .error _
  | some h => exact .ok h

/-- Requests that are alike get responses that may differ as the networks allow. -/
theorem send_alike (hnet : net.Alike R A net') (htoken : Option.Rel Secret.Alike token token')
    (hbody : AlikeBodies body body') :
    Action.Alike R (fun r r' ↦ ∃ q, e.prepare method path token body = .ok q ∧ A q r r')
      (e.send net method path token body) (e.send net' method path token' body') := by
  intro s t hs
  have hprepare : AlikeOutcomes Request.Alike (e.prepare method path token body)
      (e.prepare method path token' body') := prepare_alike htoken hbody
  rcases h : e.prepare method path token body with fault | q <;>
    rcases h' : e.prepare method path token' body' with fault' | q' <;>
    rw [h, h'] at hprepare <;> cases hprepare
  case error.error =>
    rw [perform_send_of_error h, perform_send_of_error h']
    exact ⟨.error _, hs⟩
  case ok.ok hq =>
    rw [perform_send_of_ok h, perform_send_of_ok h']
    obtain ⟨hresponse, hstate⟩ := hnet.exchange _ _ q q' hs.state hq
    exact ⟨(received_alike hq hresponse).mono fun r r' hr ↦ ⟨q, rfl, hr⟩, hstate, hs.log⟩

/-- What is made of the responses has to be alike for the responses to be so. -/
theorem request_alike (hnet : net.Alike R A net') (htoken : Option.Rel Secret.Alike token token')
    (hbody : AlikeBodies body body')
    (hread : ∀ q r r', e.prepare method path token body = .ok q → A q r r' →
      AlikeOutcomes (Option.Rel V) (classify path reader r) (classify path reader' r')) :
    Action.Alike R (Option.Rel V) (e.request net reader method path token body)
      (e.request net' reader' method path token' body') :=
  (send_alike hnet htoken hbody).bind fun r r' ⟨q, hq, hr⟩ ↦
    Action.alike_ofExcept (hread q r r' hq hr)

end Endpoint

end VaultAccess
