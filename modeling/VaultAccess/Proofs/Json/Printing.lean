import VaultAccess.Ciphertext
import VaultAccess.Json.Value

/-!
# What printed values look like

A value that is no text is printed with a first character of its kind: a bracket, the first letter of
one of three words, or a character of a number. Numbers are written with digits and a few marks
(`Decimal.Style.writes_render`), whichever way their digits were found. So what is printed is never
taken for a ciphertext (`Json.isCiphertext_render`).
-/

namespace VaultAccess

/-! ### Numbers -/

namespace Decimal

variable {b : Binary} {d : Digits} {s : Style} {c : Char} {text rest : String}

/-- A text has only the characters that numbers are written with in a style. -/
def Style.Writes (s : Style) (text : String) : Prop :=
  ∀ c ∈ text.toList, c.isDigit = true ∨ c ∈ ['.', 'e', '-'] ∨ c ∈ s.wholeFraction.toList ∨
    c ∈ s.exponentPlus.toList

namespace Style.Writes

/-- What is put together from such texts is such a text. -/
theorem append (h : s.Writes text) (hrest : s.Writes rest) : s.Writes (text ++ rest) := by
  intro c hc
  rw [String.toList_append] at hc
  exact (List.mem_append.1 hc).elim (h c) (hrest c)

theorem digits {cs : List Char} (h : ∀ c ∈ cs, c.isDigit = true) : s.Writes (String.ofList cs) := by
  intro c hc
  rw [String.toList_ofList] at hc
  exact .inl (h c hc)

theorem empty : s.Writes "" := fun _ hc ↦ absurd hc List.not_mem_nil

theorem point : s.Writes "." := fun _ hc ↦ .inr (.inl (List.mem_singleton.1 hc ▸ by decide))

theorem minus : s.Writes "-" := fun _ hc ↦ .inr (.inl (List.mem_singleton.1 hc ▸ by decide))

theorem mark : s.Writes "e" := fun _ hc ↦ .inr (.inl (List.mem_singleton.1 hc ▸ by decide))

theorem zero : s.Writes "0" := fun _ hc ↦ .inl (List.mem_singleton.1 hc ▸ by decide)

theorem wholeFraction : s.Writes s.wholeFraction := fun _ hc ↦ .inr (.inr (.inl hc))

theorem exponentPlus : s.Writes s.exponentPlus := fun _ hc ↦ .inr (.inr (.inr hc))

/-- Whole numbers are written with digits only. -/
theorem nat {n : Nat} : s.Writes (toString n) := by
  rw [Nat.toString_eq_ofList_toDigits]
  exact digits fun _ hc ↦ Nat.isDigit_of_mem_toDigits (by decide) (by decide) hc

end Style.Writes

/-- The fewest digits that read back are digits. -/
theorem isDigit_of_mem_shortest (h : c ∈ b.shortest.digits) : c.isDigit = true := by
  rw [Binary.shortest, List.mem_reverse] at h
  have hmem := List.mem_reverse.1 ((List.dropWhile_suffix _).subset h)
  exact Nat.isDigit_of_mem_toDigits (by decide) (by decide) hmem

section

variable (hdigits : ∀ c ∈ d.digits, c.isDigit = true)

include hdigits

/-- Positional notation has digits and a point, with what is put behind whole numbers. -/
theorem Digits.writes_inPlace : s.Writes (d.inPlace s.wholeFraction) := by
  have hzeros : ∀ n, ∀ c ∈ List.replicate n '0', c.isDigit = true := fun n c hc ↦
    List.eq_of_mem_replicate hc ▸ rfl
  rw [inPlace]
  split
  · exact .append (.append .zero .point)
      (.digits (List.forall_mem_append.2 ⟨hzeros _, hdigits⟩))
  · dsimp only
    split
    · exact .append (.digits (List.forall_mem_append.2 ⟨hdigits, hzeros _⟩)) .wholeFraction
    · exact .append (.append (.digits fun c hc ↦ hdigits c (List.mem_of_mem_take hc)) .point)
        (.digits fun c hc ↦ hdigits c (List.mem_of_mem_drop hc))

/-- Scientific notation adds a mark, a sign and the digits of the exponent. -/
theorem Digits.writes_scientific : s.Writes (d.scientific s.exponentPlus) := by
  have hfirst : s.Writes (String.ofList (d.digits.take 1)) :=
    .digits fun c hc ↦ hdigits c (List.mem_of_mem_take hc)
  have hfraction : s.Writes (if (d.digits.drop 1).isEmpty then ""
      else "." ++ String.ofList (d.digits.drop 1)) := by
    split
    · exact .empty
    · exact .append .point (.digits fun c hc ↦ hdigits c (List.mem_of_mem_drop hc))
  have hsign : s.Writes (if d.point - 1 < 0 then "-" else s.exponentPlus) := by
    split
    · exact .minus
    · exact .exponentPlus
  exact .append (.append (.append (.append hfirst hfraction) .mark) hsign) .nat

end

/-- A float is written with the characters of numbers. -/
theorem Style.writes_render (x : Float) : s.Writes (s.render x) := by
  have hdigits : ∀ c ∈ (Binary.ofFloat x).shortest.digits, c.isDigit = true :=
    fun _ ↦ isDigit_of_mem_shortest
  rw [render]
  refine .append ?_ ?_
  · split
    · exact .minus
    · exact .empty
  · split
    · exact .append .zero .wholeFraction
    · dsimp only
      split
      · exact Digits.writes_inPlace hdigits
      · split
        · exact Digits.writes_inPlace hdigits
        · exact Digits.writes_scientific hdigits

end Decimal

/-! ### Values -/

namespace Json

open Ciphertext

variable {v : Json} {text : String}

/-- A ciphertext has the letter that its mark begins with. -/
theorem mem_of_isCiphertext (h : isCiphertext text = true) : 'v' ∈ text.toList :=
  (List.isPrefixOf_iff_prefix.1 h).subset (by decide)

/-- Numbers have no letter but the mark of an exponent. -/
theorem Number.writes_render (n : Number) : numberStyle.Writes n.render := by
  cases n with
  | real x => exact Decimal.Style.writes_render x
  | whole i =>
    cases i with
    | ofNat n => exact .nat
    | negSucc n => exact .append .minus .nat

/-- No number begins as a ciphertext does. -/
theorem Number.isCiphertext_render (n : Number) : isCiphertext n.render = false := by
  have hv : 'v' ∉ n.render.toList := fun hv ↦ absurd (n.writes_render _ hv) (by decide)
  exact Bool.eq_false_iff.2 (mt mem_of_isCiphertext hv)

/-- What is printed is no ciphertext, unless it is a text. -/
theorem isCiphertext_render (hv : ∀ s, v ≠ .text s) : isCiphertext v.render = false := by
  cases v with
  | null => rfl
  | bool b => cases b <;> rfl
  | number n => exact n.isCiphertext_render
  | text s => exact absurd rfl (hv s)
  | array items | object members =>
    rw [render, isCiphertext, String.toList_append, String.toList_append]
    rfl

end Json

end VaultAccess
