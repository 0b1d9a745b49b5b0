import VaultAccess.Proofs.Url.Folding
import VaultAccess.Url.Domain.Name

/-!
# Names are sent in one form

A name that is sent consists of ASCII characters without capitals (`isLow_of_sent?`). Such a name
stands for itself when it is read again (`sent?_eq_self`): folding and composing leave it alone,
and each of its labels is sent as it is, if it can be read at all. A label that begins with `xn--`
may not be, when the text that it stands for is too long.
-/

namespace VaultAccess.Url.Domain

variable {c d : Char} {n : Nat} {cs name : List Char} {points : List Nat} {l : Label}

/-! ### Labels -/

/-- Whether a character may stand in a name that is sent: it is of ASCII and no capital. -/
def isLow (c : Char) : Bool := c.toNat < 0x80 && !isCapital c.toNat

/-- The low characters are those of ASCII without the capitals. -/
theorem isLow_iff : isLow c = true ↔ c.toNat < 0x80 ∧ isCapital c.toNat = false := by
  simp [isLow]

namespace Punycode

theorem isLow_digitOf (h : n < 36) : isLow (digitOf n) = true := by
  have hall : ∀ n < 36, isLow (digitOf n) = true := by decide
  exact hall n h

theorem isLow_of_digit? (h : digit? c = some n) : isLow c = true := by
  rw [isLow_iff, isCapital, Bool.and_eq_false_iff, decide_eq_false_iff_not, decide_eq_false_iff_not]
  rw [digit?] at h
  split at h
  next hletter =>
    have hlow : 0x61 ≤ c.toNat := hletter.1
    have hhigh : c.toNat ≤ 0x7A := hletter.2
    omega
  next =>
    split at h
    next hdigit =>
      have hhigh : c.toNat ≤ 0x39 := hdigit.2
      omega
    next => cases h

theorem isLow_of_mem_digitsOf {bias position : Nat} (h : c ∈ digitsOf bias position n) :
    isLow c = true := by
  fun_induction digitsOf bias position n with
  | case1 position n least hlt =>
    obtain rfl := List.mem_singleton.1 h
    have hleast := threshold_bounds bias position
    exact isLow_digitOf (by omega)
  | case2 position n least hge ih =>
    have hleast := threshold_bounds bias position
    rcases List.mem_cons.1 h with rfl | h
    · have hmod := Nat.mod_lt (n - least) (show 0 < 36 - least by omega)
      exact isLow_digitOf (by omega)
    · exact ih h

/-- A pass over the code points writes low digits only. -/
theorem isLow_of_pass {point : Nat} {w : Writing} (hw : ∀ c ∈ w.digits, isLow c = true) :
    ∀ c ∈ (w.pass point n).digits, isLow c = true := by
  rw [Writing.pass]
  split
  · exact hw
  · split
    · intro c hc
      rcases List.mem_append.1 hc with hc | hc
      · exact hw c hc
      · exact isLow_of_mem_digitsOf hc
    · exact hw

theorem isLow_of_passes {point : Nat} {w : Writing} (hw : ∀ c ∈ w.digits, isLow c = true) :
    ∀ c ∈ (points.foldl (Writing.pass point) w).digits, isLow c = true := by
  induction points generalizing w with
  | nil => exact hw
  | cons n points ih => exact ih (isLow_of_pass hw)

/-- So do all the rounds, and nothing else writes digits. -/
theorem isLow_of_rounds {rounds : List Nat} {w : Writing} (hw : ∀ c ∈ w.digits, isLow c = true) :
    ∀ c ∈ (rounds.foldl (Writing.round points) w).digits, isLow c = true := by
  induction rounds generalizing w with
  | nil => exact hw
  | cons point rounds ih => exact ih (isLow_of_passes hw)

/-- What is written for a label without capitals has none. -/
theorem isLow_of_mem_encode (hpoints : ∀ n ∈ points, isCapital n = false)
    (h : c ∈ encode points) : isLow c = true := by
  simp only [encode, List.append_assoc, List.mem_append] at h
  rcases h with h | h | h
  · obtain ⟨n, hn, rfl⟩ := List.mem_map.1 h
    obtain ⟨hmem, hlt⟩ := List.mem_filter.1 hn
    have hlt : (Char.ofNat n).toNat < 0x80 := by
      have hn : n < 0x80 := of_decide_eq_true hlt
      rcases toNat_ofNat_eq_or n with h | h <;> omega
    exact isLow_iff.2 ⟨hlt, isCapital_ofNat (hpoints n hmem)⟩
  · split at h
    · cases h
    · obtain rfl := List.mem_singleton.1 h
      rfl
  · exact isLow_of_rounds (List.forall_mem_nil _) c h

/-- A label ends in its digits, with a hyphen before them unless there is nothing else. -/
theorem cut_cases (cs : List Char) :
    cut cs = ([], cs) ∨ ∃ ascii digits, cs = ascii ++ '-' :: digits ∧ cut cs = (ascii, digits) := by
  have hcs : cs = (cs.reverse.dropWhile (· != '-')).reverse ++
      (cs.reverse.takeWhile (· != '-')).reverse := by
    rw [← List.reverse_append, List.takeWhile_append_dropWhile, List.reverse_reverse]
  rw [cut]
  generalize cs.reverse.takeWhile (· != '-') = digits at hcs ⊢
  rcases hbefore : cs.reverse.dropWhile (· != '-') with - | ⟨c, before⟩ <;> rw [hbefore] at hcs
  · left
    simp [hcs]
  · right
    have hc : c = '-' := by
      have hnot := List.head_dropWhile_not (· != '-') (l := cs.reverse) (by simp [hbefore])
      simpa [hbefore] using hnot
    refine ⟨before.reverse, digits.reverse, ?_, ?_⟩
    · simpa [hc] using hcs
    · have hlength : before.length + (digits.length + 1) - digits.length - 1 =
          before.reverse.length := by
        rw [List.length_reverse]
        omega
      rw [hcs]
      simp [hc, hlength]

/-- What was read as digits is low, unless it was a capital. -/
theorem isLow_of_digits {digits : List Char} {s t : State}
    (h : digits.foldlM step? s = some t) (hc : c ∈ digits) : isLow c = true := by
  induction digits generalizing s with
  | nil => cases hc
  | cons d digits ih =>
    rw [List.foldlM_cons] at h
    obtain ⟨u, hu, hrest⟩ := Option.bind_eq_some_iff.1 h
    rcases List.mem_cons.1 hc with rfl | hc
    · obtain ⟨n, hn, -⟩ := Option.bind_eq_some_iff.1 hu
      exact isLow_of_digit? hn
    · exact ih hrest hc

theorem isLow_of_decode? (hcs : ∀ c ∈ cs, isCapital c.toNat = false)
    (h : decode? cs = some points) (hc : c ∈ cs) : isLow c = true := by
  simp only [decode?] at h
  split at h
  next => cases h
  next =>
    split at h
    next => cases h
    next hascii =>
      obtain ⟨s, hs, -⟩ := Option.bind_eq_some_iff.1 h
      have hfront : ∀ c ∈ (cut cs).1, c.toNat < 0x80 := by simpa using hascii
      rcases cut_cases cs with hcut | ⟨ascii, digits, rfl, hcut⟩ <;> rw [hcut] at hs hfront
      · exact isLow_of_digits hs hc
      · rcases List.mem_append.1 hc with hmem | hmem
        · exact isLow_iff.2 ⟨hfront c hmem, hcs c hc⟩
        · rcases List.mem_cons.1 hmem with rfl | hmem
          · rfl
          · exact isLow_of_digits hs hmem

end Punycode

/-- A label that is written as `xn--` is sent as it is written. -/
theorem encodedLabel?_eq_some (h : encodedLabel? cs = some l) :
    (∃ points, Punycode.decode? cs = some points) ∧ l.sent = "xn--".toList ++ cs := by
  obtain ⟨points, hpoints, h⟩ := Option.bind_eq_some_iff.1 h
  dsimp only at h
  split at h
  · cases h
  · obtain rfl := Option.some.inj h
    exact ⟨⟨points, hpoints⟩, rfl⟩

/-- What is sent of a label is low. -/
theorem isLow_of_label? (hcs : ∀ c ∈ cs, isCapital c.toNat = false) (h : label? cs = some l)
    (hc : c ∈ l.sent) : isLow c = true := by
  have hmark : "xn--".toList.all isLow = true := by decide
  unfold label? at h
  split at h
  next digits =>
    obtain ⟨⟨points, hpoints⟩, hsent⟩ := encodedLabel?_eq_some h
    rw [hsent] at hc
    rcases List.mem_append.1 hc with hc | hc
    · exact List.all_eq_true.1 hmark c hc
    · exact Punycode.isLow_of_decode? (fun c hc ↦ hcs c (by simp [hc])) hpoints hc
  next =>
    split at h
    next hascii =>
      obtain rfl := Option.some.inj h
      exact isLow_iff.2 ⟨by simpa using List.all_eq_true.1 hascii c hc, hcs c hc⟩
    next =>
      split at h
      next =>
        obtain rfl := Option.some.inj h
        rcases List.mem_append.1 hc with hc | hc
        · exact List.all_eq_true.1 hmark c hc
        · refine Punycode.isLow_of_mem_encode (fun n hn ↦ ?_) hc
          obtain ⟨d, hd, rfl⟩ := List.mem_map.1 hn
          exact hcs d hd
      next => cases h

/-- A label in ASCII is sent as it is, if it can be read. -/
theorem sent_of_label? (hcs : ∀ c ∈ cs, c.toNat < 0x80) (h : label? cs = some l) : l.sent = cs := by
  unfold label? at h
  split at h
  next digits => exact (encodedLabel?_eq_some h).2
  next =>
    have hascii : cs.all (·.toNat < 0x80) = true := by simpa using hcs
    rw [if_pos hascii] at h
    obtain rfl := Option.some.inj h
    rfl

/-- A label in ASCII that is not written as `xn--` can be read. -/
theorem label?_of_ascii (hcs : ∀ c ∈ cs, c.toNat < 0x80) (hplain : ¬ "xn--".toList <+: cs) :
    label? cs = some ⟨cs, cs⟩ := by
  have hascii : cs.all (·.toNat < 0x80) = true := by simpa using hcs
  unfold label?
  split
  next digits => exact absurd (List.prefix_append _ _) hplain
  next => rw [if_pos hascii]

theorem isFromRight_of_lt (h : c.toNat < 0x80) : isFromRight c = false := by
  simp only [isFromRight, directionOf, h, if_true]
  split
  · rfl
  · split <;> rfl

/-! ### Names -/

/-- The characters of a name after folding and composing. -/
def settled? (cs : List Char) : Option (List Char) :=
  (fold? cs).map fun folded ↦ (composed (folded.map Char.toNat)).map Char.ofNat

/-- The labels of a name are those between its points, once it has been folded and composed. -/
theorem labels?_eq :
    labels? cs = (settled? cs).bind fun settled ↦
      ((splitAt '.' settled).mapM label?).bind fun labels ↦
        if labels.any (·.shown.any isFromRight) && !labels.all (readsOneWay ·.shown) then none
        else some labels := by
  rw [settled?, Option.bind_map]
  rfl

theorem sent?_eq_some (h : sent? cs = some name) :
    ∃ settled labels, settled? cs = some settled ∧
      (splitAt '.' settled).mapM label? = some labels ∧
        name = ['.'].intercalate (labels.map (·.sent)) := by
  obtain ⟨labels, hlabels, rfl⟩ := Option.map_eq_some_iff.1 h
  rw [labels?_eq] at hlabels
  obtain ⟨settled, hsettled, hlabels⟩ := Option.bind_eq_some_iff.1 hlabels
  obtain ⟨all, hall, hlabels⟩ := Option.bind_eq_some_iff.1 hlabels
  refine ⟨settled, labels, hsettled, ?_, rfl⟩
  split at hlabels
  · cases hlabels
  · obtain rfl := Option.some.inj hlabels
    exact hall

theorem isCapital_of_settled? (h : settled? cs = some name) (hc : c ∈ name) :
    isCapital c.toNat = false := by
  obtain ⟨folded, hfolded, rfl⟩ := Option.map_eq_some_iff.1 h
  obtain ⟨n, hn, rfl⟩ := List.mem_map.1 hc
  refine isCapital_ofNat (isCapital_of_composed (fun m hm ↦ ?_) hn)
  obtain ⟨d, hd, rfl⟩ := List.mem_map.1 hm
  exact isCapital_of_fold? hfolded hd

/-- A low name is folded and composed to itself. -/
theorem settled?_eq_self (h : ∀ c ∈ cs, isLow c = true) : settled? cs = some cs := by
  have hlow : ∀ c ∈ cs, c.toNat < 0x80 ∧ isCapital c.toNat = false :=
    fun c hc ↦ isLow_iff.1 (h c hc)
  have hpoints : ∀ n ∈ cs.map Char.toNat, n < 0x80 := by
    intro n hn
    obtain ⟨c, hc, rfl⟩ := List.mem_map.1 hn
    exact (hlow c hc).1
  rw [settled?, fold?_eq_self hlow, Option.map_some, composed_eq_self hpoints, List.map_map]
  refine congrArg some ((List.map_congr_left fun c _ ↦ ?_).trans (List.map_id cs))
  exact Char.ofNat_toNat c

/-- A name that is sent is of ASCII and has no capitals. -/
theorem isLow_of_sent? (h : sent? cs = some name) (hc : c ∈ name) : isLow c = true := by
  obtain ⟨settled, labels, hsettled, hlabels, rfl⟩ := sent?_eq_some h
  rcases mem_of_mem_intercalate hc with rfl | ⟨sent, hsent, hc⟩
  · rfl
  · obtain ⟨l, hl, rfl⟩ := List.mem_map.1 hsent
    obtain ⟨part, hpart, hl⟩ := exists_of_mem_mapM hlabels hl
    refine isLow_of_label? (fun d hd ↦ ?_) hl hc
    exact isCapital_of_settled? hsettled (mem_of_mem_splitAt hpart hd).1

/-- Such a name is sent as it is, if it can be read. -/
theorem sent?_eq_self {again : List Char} (hlow : ∀ c ∈ name, isLow c = true)
    (h : sent? name = some again) : again = name := by
  obtain ⟨settled, labels, hsettled, hlabels, rfl⟩ := sent?_eq_some h
  obtain rfl := Option.some.inj ((settled?_eq_self hlow).symm.trans hsettled)
  have hsame : labels.map (·.sent) = splitAt '.' name :=
    map_of_mapM hlabels fun part hpart l hl ↦ sent_of_label?
      (fun c hc ↦ (isLow_iff.1 (hlow c (mem_of_mem_splitAt hpart hc).1)).1) hl
  rw [hsame, intercalate_splitAt]

/-- It can be read if none of its labels is written as `xn--`. -/
theorem sent?_of_unencoded (hlow : ∀ c ∈ name, isLow c = true)
    (hplain : ∀ part ∈ splitAt '.' name, ¬ "xn--".toList <+: part) : sent? name = some name := by
  have hascii : ∀ part ∈ splitAt '.' name, ∀ c ∈ part, c.toNat < 0x80 := fun part hpart c hc ↦
    (isLow_iff.1 (hlow c (mem_of_mem_splitAt hpart hc).1)).1
  let labels := (splitAt '.' name).map fun part ↦ (⟨part, part⟩ : Label)
  have hsent : labels.map (·.sent) = splitAt '.' name :=
    (List.map_map ..).trans (List.map_id _)
  have hread : (splitAt '.' name).mapM label? = some labels := by
    rw [← hsent]
    refine mapM_map_eq_some fun l hl ↦ ?_
    obtain ⟨part, hpart, rfl⟩ := List.mem_map.1 hl
    exact label?_of_ascii (hascii part hpart) (hplain part hpart)
  have hleft : labels.any (·.shown.any isFromRight) = false := by
    simp only [labels, List.any_map, List.any_eq_false, Function.comp_apply]
    intro part hpart
    simpa using fun c hc ↦ isFromRight_of_lt (hascii part hpart c hc)
  rw [sent?, labels?_eq, settled?_eq_self hlow, Option.bind_some, hread, Option.bind_some, hleft,
    Bool.false_and, if_neg Bool.false_ne_true, Option.map_some, hsent, intercalate_splitAt]

end VaultAccess.Url.Domain
