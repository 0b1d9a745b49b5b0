import VaultAccess.Proofs.Url.Encoding
import VaultAccess.Proofs.Url.Hosts
import VaultAccess.Url.Read

/-!
# Authorities are read as they are printed

Between the two slashes and the path stand a user name and a password, the host and the port. Each
ends at a mark that stands in no part before it (`cutAt_behind`): user names and passwords are
encoded, a host has colons between brackets only (`hostAndPort_render`) and a port has digits only.
So what is printed is read as the same parts (`userinfo?_renderUserinfo`, `port?_toDigits`).
-/

namespace VaultAccess.Url

variable {u : Url} {mark c : Char} {cs before : List Char} {host : Host}

/-! ### Marks -/

/-- A text behind a mark, or nothing. -/
def behind (mark : Char) : Option (List Char) → List Char
  | none => []
  | some cs => mark :: cs

theorem eq_or_of_mem_behind {after : Option (List Char)} (h : c ∈ behind mark after) :
    c = mark ∨ ∃ cs ∈ after, c ∈ cs := by
  cases after with
  | none => cases h
  | some after => exact (List.mem_cons.1 h).imp_right fun hc ↦ ⟨after, rfl, hc⟩

/-- A text is cut where the mark first stands. -/
theorem cutAt_behind {after : Option (List Char)} (h : mark ∉ before) :
    cutAt mark (before ++ behind mark after) = (before, after) := by
  have hbefore : ∀ c ∈ before, (c != mark) = true := fun c hc ↦
    bne_iff_ne.2 fun heq ↦ h (heq ▸ hc)
  rw [cutAt, List.dropWhile_append_of_pos hbefore, List.takeWhile_append_of_pos hbefore]
  cases after <;> simp [behind]

/-- The text that is printed behind a mark. -/
theorem toList_renderAfter {mark : String} (hmark : mark.toList = [c]) {after : Option String} :
    (renderAfter mark after).toList = behind c (after.map String.toList) := by
  cases after with
  | none => rfl
  | some after => rw [renderAfter, String.toList_append, hmark]; rfl

/-! ### User names and passwords -/

/-- The user name and the password that are printed, without the sign that ends them. -/
def info (u : Url) : List Char :=
  u.username.toList ++ behind ':' (if u.password.isEmpty then none else some u.password.toList)

theorem toList_renderUserinfo :
    u.renderUserinfo.toList = if u.info.isEmpty then [] else u.info ++ ['@'] := by
  rw [renderUserinfo, info]
  by_cases hname : u.username = "" <;> by_cases hpassword : u.password = "" <;>
    simp [hname, hpassword, behind]

/-- Only the last sign ends the user information. -/
theorem userinfo?_append {isAll : Bool} {info : List Char} (hne : cs ≠ []) (hcs : '@' ∉ cs) :
    userinfo? isAll (info ++ '@' :: cs) =
      let (name, password) := cutAt ':' info
      some (String.ofList (encode userinfoSet name),
        String.ofList (encode userinfoSet (password.getD [])), cs) := by
  have hhost : ((info ++ '@' :: cs).reverse.takeWhile (· != '@')).reverse = cs := by
    have hreverse : ∀ c ∈ cs.reverse, (c != '@') = true := fun c hc ↦
      bne_iff_ne.2 fun heq ↦ hcs (heq ▸ List.mem_reverse.1 hc)
    rw [List.reverse_append, List.reverse_cons, List.append_assoc,
      List.takeWhile_append_of_pos hreverse]
    simp
  have hinfo : (info ++ '@' :: cs).take ((info ++ '@' :: cs).length - cs.length - 1) = info := by
    have hlength : (info ++ '@' :: cs).length - cs.length - 1 = info.length := by
      rw [List.length_append, List.length_cons]
      omega
    rw [hlength, List.take_left]
  rw [userinfo?, if_pos (by simp), hhost]
  dsimp only
  rw [hinfo]
  simp [hne]

/-- A user name and a password are read as they are printed. -/
theorem userinfo?_renderUserinfo {isAll : Bool}
    (hname : ∀ c ∈ u.username.toList, userinfoSet c = false)
    (hpassword : ∀ c ∈ u.password.toList, userinfoSet c = false) (hne : cs ≠ [])
    (hcs : '@' ∉ cs) :
    userinfo? isAll (u.renderUserinfo.toList ++ cs) = some (u.username, u.password, cs) := by
  rw [toList_renderUserinfo]
  -- without a user name and a password there is no sign either, and nothing in the host is one
  split
  next hempty =>
    obtain ⟨huser, hpass⟩ : u.username = "" ∧ u.password = "" := by
      rw [info] at hempty
      by_cases hpass : u.password = ""
      · simpa [hpass, behind] using hempty
      · simp [hpass, behind] at hempty
    rw [List.nil_append, userinfo?, if_neg (by simpa using hcs), huser, hpass]
  next =>
    have hcut : cutAt ':' u.info =
        (u.username.toList, if u.password.isEmpty then none else some u.password.toList) :=
      cutAt_behind fun hmem ↦ absurd (hname _ hmem) (by decide)
    have hempty : (if u.password.isEmpty then none else some u.password.toList).getD [] =
        u.password.toList := by
      by_cases hpass : u.password = "" <;> simp [hpass]
    rw [List.append_assoc, List.singleton_append, userinfo?_append hne hcs, hcut]
    simp only [hempty, encode_eq_self hname, encode_eq_self hpassword, String.ofList_toList]

/-! ### Hosts and ports -/

theorem hostAndPort_behind {port : Option (List Char)} :
    hostAndPort false (behind ':' port) = ([], port) := by
  cases port <;> rfl

theorem hostAndPort_of_name {port : Option (List Char)}
    (h : ∀ c ∈ cs, isForbiddenInName c = false) :
    hostAndPort false (cs ++ behind ':' port) = (cs, port) := by
  induction cs with
  | nil => exact hostAndPort_behind
  | cons c cs ih =>
    obtain ⟨hc, hcs⟩ := List.forall_mem_cons.1 h
    simp only [isForbiddenInName, isForbidden, Bool.or_eq_false_iff, beq_eq_false_iff_ne] at hc
    rw [List.cons_append, hostAndPort]
    simp [hc, ih hcs]

/-- Colons between brackets belong to the host. -/
theorem hostAndPort_bracketed {rest : List Char} (h : ']' ∉ cs) :
    hostAndPort true (cs ++ ']' :: rest) =
      (cs ++ ']' :: (hostAndPort false rest).1, (hostAndPort false rest).2) := by
  induction cs with
  | nil => simp [hostAndPort]
  | cons c cs ih =>
    obtain ⟨hc, hcs⟩ := List.ne_and_not_mem_of_not_mem_cons h
    rw [List.cons_append, hostAndPort]
    simp [hc.symm, ih hcs]

/-- A host that is printed ends where its port begins. -/
theorem hostAndPort_render {port : Option (List Char)} (h : host.IsSettled) :
    hostAndPort false (host.render.toList ++ behind ':' port) = (host.render.toList, port) := by
  cases host with
  | name text => exact hostAndPort_of_name fun c hc ↦ (h.2.1 c hc).2
  | v4 address => exact hostAndPort_of_name fun c hc ↦ (isLow_of_mem_renderV4 hc).2
  | v6 pieces =>
    have hbracket : ']' ∉ (renderV6 pieces).toList := fun hmem ↦
      (eq_colon_or_of_mem_renderV6 hmem).elim (by decide) (by decide)
    rw [toList_render_v6, List.cons_append, hostAndPort, List.append_assoc, List.singleton_append]
    simp [hostAndPort_bracketed hbracket, hostAndPort_behind]

/-- A port that is printed is read. -/
theorem port?_toDigits {scheme : String} {p : Nat} (hle : p ≤ 65535)
    (husual : usualPort? scheme ≠ some p) :
    port? scheme (Nat.toDigits 10 p) = some (some p, []) := by
  have hdigit : ∀ c ∈ Nat.toDigits 10 p, c.isDigit = true := fun c ↦
    Nat.isDigit_of_mem_toDigits (by decide) (by decide)
  have htake : (Nat.toDigits 10 p).takeWhile Char.isDigit = Nat.toDigits 10 p := by
    rw [← List.append_nil (Nat.toDigits 10 p), List.takeWhile_append_of_pos hdigit,
      List.takeWhile_nil]
  have hdrop : (Nat.toDigits 10 p).dropWhile Char.isDigit = [] := by
    rw [← List.append_nil (Nat.toDigits 10 p), List.dropWhile_append_of_pos hdigit,
      List.dropWhile_nil]
  rw [port?, htake, hdrop, numberIn?_toDigits (by decide) (by decide)]
  simp [husual, Nat.not_lt.2 hle, Nat.toDigits_ne_nil]

end VaultAccess.Url
