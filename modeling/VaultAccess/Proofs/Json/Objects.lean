import VaultAccess.Json.Value
import VaultAccess.Proofs.Json.Strings

/-!
# Objects of texts are read as they are printed

Configurations and documents of secrets are printed as objects whose members are texts or null. The
tokens of such an object are those of its members, with commas between (`tokens?_render`), and the
builder puts the members together again in their order (`read?_render`). A word ends at whatever
follows it, so what follows must be known not to belong to it.
-/

namespace VaultAccess.Json

variable {bs : List UInt8} {l : List (String × Option String)}

/-- An object whose members are texts or null. -/
def ofOptions (l : List (String × Option String)) : Json :=
  .object (l.map fun e ↦ (e.1, ofText? e.2))

/-- A text or null as it is written. -/
def treeOf : Option String → Tree
  | none => .null
  | some s => .string (bodyOf s)

/-- The token of a text or null. -/
def tokenOf : Option String → Token
  | none => .null
  | some s => .string (bodyOf s)

/-- The tokens of members, with commas between. -/
def memberTokens : List (String × Option String) → List Token
  | [] => []
  | [(name, v)] => [.string (bodyOf name), .colon, tokenOf v]
  | (name, v) :: m :: rest =>
    .string (bodyOf name) :: .colon :: tokenOf v :: .comma :: memberTokens (m :: rest)

/-! ### Scanning -/

namespace Scanner

/-- A token that is complete once something follows that does not belong to it. -/
theorem scan?_ended {s : State} {t : Token} (hend : finish? s = some [t])
    (hstep : ∀ b ∈ bs.head?, step? s b = (between? b).map fun next ↦ (next.1, t :: next.2)) :
    scan? s bs = (scan? .between bs).map (t :: ·) := by
  cases bs with
  | nil =>
    rw [scan?, hend]
    rfl
  | cons b bs =>
    rw [scan?, scan?, hstep b rfl, step?]
    cases between? b with
    | none => rfl
    | some next =>
      show (scan? next.1 bs).bind _ = ((scan? next.1 bs).bind _).map _
      cases scan? next.1 bs <;> rfl

/-- A word ends where something follows that is no letter. -/
theorem scan?_word {read : List UInt8} {t : Token} (hword : word? read = some t)
    (h : ∀ b ∈ bs.head?, isLetter b = false) :
    scan? (.word read) bs = (scan? .between bs).map (t :: ·) := by
  refine scan?_ended (by rw [finish?, hword]; rfl) fun b hb ↦ ?_
  rw [step?, if_neg (by simp [h b hb]), hword]
  exact (Option.map_eq_bind ..).symm

theorem scan?_null (h : ∀ b ∈ bs.head?, isLetter b = false) :
    scan? .between (Utf8.encode "null" ++ bs) = (scan? .between bs).map (.null :: ·) := by
  have hnull : Utf8.encode "null" = [0x6E, 0x75, 0x6C, 0x6C] := rfl
  have hbegin : step? .between 0x6E = some (.word [0x6E], []) := rfl
  have hletter : ∀ {b : UInt8} {read : List UInt8}, isLetter b = true →
      step? (.word read) b = some (.word (b :: read), []) := fun hb ↦ if_pos hb
  rw [hnull]
  simp only [List.cons_append, List.nil_append]
  rw [scan?_cons_of_silent hbegin, scan?_cons_of_silent (hletter rfl),
    scan?_cons_of_silent (hletter rfl), scan?_cons_of_silent (hletter rfl)]
  exact scan?_word rfl h

theorem scan?_value (v : Option String) (h : ∀ b ∈ bs.head?, isLetter b = false) :
    scan? .between (Utf8.encode (ofText? v).render ++ bs) =
      (scan? .between bs).map (tokenOf v :: ·) := by
  cases v with
  | none => exact scan?_null h
  | some s => exact scan?_quote s

theorem scan?_member (name : String) (v : Option String)
    (h : ∀ b ∈ bs.head?, isLetter b = false) :
    scan? .between (Utf8.encode (quote name ++ ":" ++ (ofText? v).render) ++ bs) =
      (scan? .between bs).map fun ts ↦ .string (bodyOf name) :: .colon :: tokenOf v :: ts := by
  have hbytes : Utf8.encode ":" = [0x3A] := rfl
  have hcolon : step? .between 0x3A = some (.between, [.colon]) := rfl
  rw [Utf8.encode_append, Utf8.encode_append, List.append_assoc, List.append_assoc, scan?_quote,
    hbytes, List.singleton_append, scan?_cons hcolon, scan?_value v h, Option.map_map,
    Option.map_map]
  rfl

theorem scan?_members (l : List (String × Option String))
    (h : ∀ b ∈ bs.head?, isLetter b = false) :
    scan? .between (Utf8.encode (renderMembers (l.map fun e ↦ (e.1, ofText? e.2))) ++ bs) =
      (scan? .between bs).map (memberTokens l ++ ·) := by
  induction l using memberTokens.induct with
  | case1 => exact Option.map_id'.symm
  | case2 name v => exact scan?_member name v h
  | case3 name v m rest ih =>
    have hbytes : Utf8.encode "," = [0x2C] := rfl
    have hcomma : step? .between 0x2C = some (.between, [.comma]) := rfl
    have hrender : renderMembers (((name, v) :: m :: rest).map fun e ↦ (e.1, ofText? e.2)) =
        quote name ++ ":" ++ (ofText? v).render ++
          ("," ++ renderMembers ((m :: rest).map fun e ↦ (e.1, ofText? e.2))) := by
      rw [← String.append_assoc]
      rfl
    rw [hrender, Utf8.encode_append, Utf8.encode_append ",", hbytes, List.append_assoc,
      List.append_assoc, List.singleton_append, scan?_member name v (by simp [isLetter]),
      scan?_cons hcomma, ih, Option.map_map, Option.map_map]
    rfl

end Scanner

theorem tokens?_render (l : List (String × Option String)) :
    tokens? (Utf8.encode (ofOptions l).render) =
      some (.openObject :: (memberTokens l ++ [.closeObject])) := by
  have hbytes : Utf8.encode (ofOptions l).render =
      0x7B :: (Utf8.encode (renderMembers (l.map fun e ↦ (e.1, ofText? e.2))) ++ [0x7D]) := by
    rw [ofOptions, render, Utf8.encode_append, Utf8.encode_append]
    rfl
  have hopen : Scanner.step? .between 0x7B = some (.between, [.openObject]) := rfl
  have hclose : Scanner.step? .between 0x7D = some (.between, [.closeObject]) := rfl
  rw [tokens?, hbytes, Scanner.scan?_cons hopen,
    Scanner.scan?_members l (by simp [Scanner.isLetter]), Scanner.scan?_cons hclose]
  rfl

/-! ### Building -/

namespace Builder

variable {members : List (List UInt8 × Tree)} {stack : List Frame}

/-- A member that is due after a comma is put behind the members before it. -/
theorem foldlM_member (name : String) (v : Option String) (ts : List Token) :
    (.string (bodyOf name) :: .colon :: tokenOf v :: ts).foldlM step? ⟨.key members, stack⟩ =
      ts.foldlM step? ⟨.after (treeOf v), .member members (bodyOf name) :: stack⟩ := by
  cases v <;> rfl

theorem foldlM_members (h : l ≠ []) :
    (memberTokens l ++ [Token.closeObject]).foldlM step? ⟨.key members, stack⟩ =
      some ⟨.after (.object (members.reverse ++ l.map fun e ↦ (bodyOf e.1, treeOf e.2))),
        stack⟩ := by
  induction l using memberTokens.induct generalizing members with
  | case1 => exact absurd rfl h
  | case2 name v =>
    have hend : [Token.closeObject].foldlM step?
        ⟨.after (treeOf v), .member members (bodyOf name) :: stack⟩ =
          some ⟨.after (.object ((bodyOf name, treeOf v) :: members).reverse), stack⟩ := rfl
    rw [memberTokens, List.cons_append, List.cons_append, List.cons_append, foldlM_member,
      List.nil_append, hend, List.reverse_cons]
    rfl
  | case3 name v m rest ih =>
    have hcomma : ∀ ts, (.comma :: ts).foldlM step?
        ⟨.after (treeOf v), .member members (bodyOf name) :: stack⟩ =
          ts.foldlM step? ⟨.key ((bodyOf name, treeOf v) :: members), stack⟩ := fun _ ↦ rfl
    rw [memberTokens, List.cons_append, List.cons_append, List.cons_append, List.cons_append,
      foldlM_member, hcomma, ih (List.cons_ne_nil _ _), List.reverse_cons, List.append_assoc]
    rfl

/-- The first member of an object needs no comma before it. -/
theorem foldlM_firstKey (h : l ≠ []) (ts : List Token) :
    (memberTokens l ++ ts).foldlM step? ⟨.firstKey, stack⟩ =
      (memberTokens l ++ ts).foldlM step? ⟨.key [], stack⟩ := by
  match l, h with
  | [_], _ => rfl
  | _ :: _ :: _, _ => rfl

end Builder

/-- A printed object of texts is read as its members in their order. -/
theorem read?_render (l : List (String × Option String)) :
    Tree.read? (Utf8.encode (ofOptions l).render) =
      some (.object (l.map fun e ↦ (bodyOf e.1, treeOf e.2))) := by
  have hbegin : ∀ ts, (.openObject :: ts).foldlM Builder.step? ⟨.value, []⟩ =
      ts.foldlM Builder.step? ⟨.firstKey, []⟩ := fun _ ↦ rfl
  have hbuild : (memberTokens l ++ [Token.closeObject]).foldlM Builder.step? ⟨.firstKey, []⟩ =
      some ⟨.after (.object (l.map fun e ↦ (bodyOf e.1, treeOf e.2))), []⟩ := by
    by_cases h : l = []
    · subst h
      rfl
    · rw [Builder.foldlM_firstKey h, Builder.foldlM_members h]
      rfl
  rw [Tree.read?, tokens?_render]
  show (List.foldlM Builder.step? _ _).bind Builder.finish? = _
  rw [hbegin, hbuild]
  rfl

end VaultAccess.Json
