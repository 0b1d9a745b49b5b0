import Mathlib.Tactic.SplitIfs
import VaultAccess.Exchange
import VaultAccess.Proofs.Actions

/-!
# What responses mean

A response is sorted by its status before anything is read of its body. So a status decides alone,
unless it is one of success: then the body has to be there in full, and to be empty or to be read.
-/

namespace VaultAccess

variable {α ν : Type} {reader : Reply.Reader α} {path : String} {r : Http.Response}
  {bytes : List UInt8}

/-! ### Statuses -/

theorem Http.Status.isServerError_of_isSuccess {status : Http.Status}
    (h : status.isSuccess = true) : status.isServerError = false := by
  simp only [isSuccess, isServerError, Bool.and_eq_true, decide_eq_true_eq, Bool.and_eq_false_iff,
    decide_eq_false_iff_not, UInt16.le_iff_toNat_le, UInt16.lt_iff_toNat_lt] at h ⊢
  have h300 : (300 : UInt16).toNat = 300 := rfl
  have h500 : (500 : UInt16).toNat = 500 := rfl
  omega

/-! ### Bodies -/

/-- A body is there in full, and it is empty or can be read. -/
def Http.Body.Reads (read : List UInt8 → Option α) (body : Http.Body) : Prop :=
  ∃ bytes, body = .whole bytes ∧ (bytes = [] ∨ (read bytes).isSome)

theorem decodeBody_of_ne_nil (h : bytes ≠ []) :
    decodeBody reader (.whole bytes) = ((reader.read? bytes).map some).elim
      (.error (.undecodable ⟨reader.explain bytes, []⟩)) .ok := by
  cases bytes with
  | nil => exact absurd rfl h
  | cons byte rest =>
    cases hread : reader.read? (byte :: rest) <;> simp [decodeBody, hread]

theorem exists_decodeBody_eq_ok_iff {body : Http.Body} :
    (∃ value, decodeBody reader body = .ok value) ↔ body.Reads reader.read? := by
  rcases body with bytes | _
  · by_cases hempty : bytes = []
    · obtain rfl := hempty
      exact ⟨fun _ ↦ ⟨[], rfl, .inl rfl⟩, fun _ ↦ ⟨none, rfl⟩⟩
    · rw [decodeBody_of_ne_nil hempty]
      cases hread : reader.read? bytes <;> simp [Http.Body.Reads, hempty, hread]
  · exact ⟨nofun, nofun⟩

theorem toOption_decodeBody {reader' : Reply.Reader α} (h : reader.read? = reader'.read?)
    (body : Http.Body) : (decodeBody reader body).toOption = (decodeBody reader' body).toOption := by
  rcases body with bytes | _
  · by_cases hempty : bytes = []
    · obtain rfl := hempty
      rfl
    · rw [decodeBody_of_ne_nil hempty, decodeBody_of_ne_nil hempty, h]
      cases reader'.read? bytes <;> rfl
  · rfl

/-! ### Responses -/

/-- A success other than the one that has no body is what its body is. -/
theorem classify_of_isSuccess (hsuccess : r.status.isSuccess = true) (hbody : r.status ≠ 204) :
    classify path reader r = decodeBody reader r.body := by
  have hne : ∀ status : Http.Status, status.isSuccess = false → (r.status == status) = false :=
    fun status hstatus ↦ beq_false_of_ne fun heq ↦ by rw [heq, hstatus] at hsuccess; cases hsuccess
  rw [classify, hne 404 rfl, hne 403 rfl, hne 429 rfl, beq_false_of_ne hbody, hsuccess,
    Http.Status.isServerError_of_isSuccess hsuccess]
  rfl

/-- A response that is no success is a failure, unless it says that there is nothing. -/
theorem exists_classify_eq_error (hsuccess : r.status.isSuccess = false)
    (habsent : r.status ≠ 404) : ∃ f, classify path reader r = .error f := by
  have hne : r.status ≠ 204 := fun heq ↦ by rw [heq] at hsuccess; cases hsuccess
  rw [classify, beq_false_of_ne hne, beq_false_of_ne habsent, hsuccess]
  split
  · contradiction
  · split
    · exact ⟨_, rfl⟩
    · split
      · exact ⟨_, rfl⟩
      · split <;> exact ⟨_, rfl⟩

/-- A response is no failure if it says that there is nothing, or if it is a success and reads. -/
theorem exists_classify_eq_ok_iff :
    (∃ value, classify path reader r = .ok value) ↔
      r.status = 404 ∨ r.status = 204 ∨ r.status.isSuccess = true ∧ r.body.Reads reader.read? := by
  by_cases hnothing : r.status = 404 ∨ r.status = 204
  · have hvalue : classify path reader r = .ok none := if_pos (by simpa using hnothing)
    exact ⟨fun _ ↦ hnothing.imp_right .inl, fun _ ↦ ⟨none, hvalue⟩⟩
  obtain ⟨habsent, hbody⟩ := not_or.1 hnothing
  cases hsuccess : r.status.isSuccess with
  | false =>
    obtain ⟨f, hf⟩ : ∃ f, classify path reader r = .error f :=
      exists_classify_eq_error hsuccess habsent
    simp [hf, habsent, hbody]
  | true =>
    rw [classify_of_isSuccess hsuccess hbody, exists_decodeBody_eq_ok_iff]
    simp [habsent, hbody]

/-- The path and the words for what is not read are in failures only. -/
theorem toOption_classify {path' : String} {reader' : Reply.Reader α}
    (h : reader.read? = reader'.read?) :
    (classify path reader r).toOption = (classify path' reader' r).toOption := by
  simp only [classify]
  split_ifs
  case neg => exact toOption_decodeBody h r.body
  all_goals rfl

/-- The reply of a kind that a response brings, if it does. -/
def Http.Response.reply? (r : Response) (kind : Reply.Kind) : Option kind.Content :=
  (classify "" ⟨Reply.decode? kind.ofTree?, fun _ ↦ ""⟩ r).toOption.join

theorem Http.Response.reply?_eq (net : Network ν) (path : String) (kind : Reply.Kind) :
    r.reply? kind = (classify path (net.reader kind) r).toOption.join :=
  congrArg Option.join (toOption_classify rfl)

/-- A request ends as its response is sorted, if there is one. -/
theorem Endpoint.perform_request {e : Endpoint} {net : Http.Network ν} {method : Http.Method}
    {token : Option Secret} {body : Option Json} {s : Scene ν} :
    ((e.request net reader method path token body).perform s).1 =
      ((e.send net method path token body).perform s).1.bind (classify path reader) := by
  rw [request, Action.perform_bind]
  rcases (e.send net method path token body).perform s with ⟨f | r, t⟩ <;> rfl

end VaultAccess
