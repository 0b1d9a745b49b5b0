import VaultAccess.Proofs.Json.Grammar

/-!
# Only what writes a tree is read as it

The other direction of the grammar: a document that is read as a tree writes it
(`Tree.read?_eq_some_iff`). Scanner and builder are machines that take one symbol at a time, and for
each there is a view of its state as what it has taken in so far: the bytes of a token that is not
complete (`Scanner.State.pending`), and the tokens of the containers that are open and of the value
in them (`Builder.State.spelled`). One step adds its symbol to the view. At the end there is nothing
open, so what has been taken in is a document.
-/

namespace VaultAccess.Json

open Numeral (IsDigits)

/-! ### Numbers -/

namespace Literal

variable {cs ds rest : List Char} {fraction : Option (List Char)}
  {exponent : Option (Bool × List Char)} {negative : Bool} {l : Literal}

/-- The check of the scanner lets digits through and nothing else. -/
theorem isDigits_of_checked
    (h : (ds.isEmpty || !ds.all fun d ↦ (Numeral.digit? d).isSome) = false) : IsDigits ds := by
  rw [Bool.or_eq_false_iff, List.isEmpty_eq_false_iff, Bool.not_eq_false', List.all_eq_true] at h
  exact ⟨h.1, fun c hc ↦ (Numeral.isSome_digit? c).symm.trans (h.2 c hc)⟩

theorem spellsExponent_of_exponentPart? (h : Decimal.exponentPart? cs = some exponent) :
    SpellsExponent exponent cs := by
  -- the digits behind the sign, whichever it is
  have hdigits : ∀ {negative ds}, (if (ds.isEmpty ||
      !ds.all fun d ↦ (Numeral.digit? d).isSome) = true then none
        else some (some (negative, ds))) = some exponent →
      IsDigits ds ∧ exponent = some (negative, ds) := by
    intro negative ds h
    split at h
    next => cases h
    next hchecked =>
      exact ⟨isDigits_of_checked (Bool.eq_false_iff.2 hchecked), (Option.some.inj h).symm⟩
  cases cs with
  | nil =>
    obtain rfl : none = exponent := Option.some.inj h
    exact .absent
  | cons c cs =>
    rw [Decimal.exponentPart?.eq_def] at h
    dsimp only at h
    split at h
    next hmarker =>
      have hmarker : c = 'e' ∨ c = 'E' := by simpa using hmarker
      split at h
      · obtain ⟨hds, rfl⟩ := hdigits h
        exact .minus hmarker hds
      · obtain ⟨hds, rfl⟩ := hdigits h
        exact .plus hmarker hds
      · obtain ⟨hds, rfl⟩ := hdigits h
        exact .plain hmarker hds
    next => cases h

theorem exists_spellsFraction_of_fractionPart? (h : fractionPart? cs = some (fraction, rest)) :
    ∃ after, cs = after ++ rest ∧ SpellsFraction fraction after := by
  rw [fractionPart?.eq_def] at h
  split at h
  next cs =>
    cases hspan : Decimal.spanDigits cs with
    | mk ds after =>
    obtain ⟨rfl, hds, -⟩ := Decimal.spanDigits_eq_iff.1 hspan
    rw [hspan] at h
    dsimp only at h
    split at h
    next => cases h
    next hne =>
      obtain ⟨rfl, rfl⟩ := Prod.mk.inj (Option.some.inj h)
      have hdigits : IsDigits ds := ⟨by simpa using hne, hds⟩
      exact ⟨'.' :: ds, rfl, .present hdigits⟩
  next =>
    obtain ⟨rfl, rfl⟩ := Prod.mk.inj (Option.some.inj h)
    exact ⟨[], rfl, .absent⟩

/-- The literal of what stands behind the sign. -/
def behindSign? (negative : Bool) (cs : List Char) : Option Literal :=
  let (whole, rest) := Decimal.spanDigits cs
  if whole.isEmpty || (whole.head? == some '0' && whole.length > 1) then none
  else do
    let (fraction, rest) ← fractionPart? rest
    let exponent ← Decimal.exponentPart? rest
    return { negative, whole, fraction, exponent }

/-- What stands behind a sign spells the number with that sign. -/
theorem spells_of_behindSign? (h : behindSign? negative cs = some l) :
    Spells l ((if negative then ['-'] else []) ++ cs) := by
  cases hspan : Decimal.spanDigits cs with
  | mk whole rest =>
  obtain ⟨rfl, hwhole, -⟩ := Decimal.spanDigits_eq_iff.1 hspan
  rw [behindSign?, hspan] at h
  dsimp only at h
  split at h
  next => cases h
  next hlegal =>
    obtain ⟨⟨fraction, marked⟩, hfraction, h⟩ := Option.bind_eq_some_iff.1 h
    obtain ⟨exponent, hexponent, h⟩ := Option.bind_eq_some_iff.1 h
    obtain rfl := Option.some.inj h
    obtain ⟨after, rfl, hafter⟩ := exists_spellsFraction_of_fractionPart? hfraction
    simp only [Bool.or_eq_true, List.isEmpty_iff, Bool.and_eq_true, beq_iff_eq,
      decide_eq_true_eq, not_or, not_and, Nat.not_lt] at hlegal
    refine .mk ⟨⟨hlegal.1, hwhole⟩, fun hzero ↦ ?_⟩ hafter
      (spellsExponent_of_exponentPart? hexponent)
    -- there is at most one digit if the first is zero
    obtain ⟨c, cs, rfl⟩ := List.exists_cons_of_ne_nil hlegal.1
    obtain rfl : c = '0' := Option.some.inj hzero
    rw [List.eq_nil_of_length_eq_zero (Nat.le_zero.1 (Nat.le_of_succ_le_succ (hlegal.2 hzero)))]

/-- A number is read only from what spells it. -/
theorem spells_of_ofChars? (h : ofChars? cs = some l) : l.Spells cs := by
  obtain ⟨negative, ds, rfl, hds⟩ : ∃ negative ds,
      cs = (if negative then ['-'] else []) ++ ds ∧ behindSign? negative ds = some l := by
    rw [ofChars?.eq_def] at h
    dsimp only at h
    split at h
    · exact ⟨true, _, rfl, h⟩
    · exact ⟨false, _, rfl, h⟩
  exact spells_of_behindSign? hds

end Literal

/-! ### Strings -/

variable {b : UInt8} {bs body bytes read : List UInt8} {ts : List Token} {t : Tree}

theorem IsBody.append (h : IsBody body) (hbs : IsBody bs) : IsBody (body ++ bs) := by
  induction h with
  | nil => exact hbs
  | plain hquote hslash hcontrol _ ih => exact .plain hquote hslash hcontrol ih
  | short he _ ih => exact .short he ih
  | digits hdigits _ ih => exact .digits hdigits ih

theorem mem_of_isSome_shortEscape? (h : (shortEscape? b).isSome = true) :
    b ∈ [0x22, 0x5C, 0x2F, 0x62, 0x66, 0x6E, 0x72, 0x74] := by
  revert h
  exact Scanner.forall_byte (p := fun b ↦ (shortEscape? b).isSome = true →
    b ∈ [0x22, 0x5C, 0x2F, 0x62, 0x66, 0x6E, 0x72, 0x74]) (by decide +kernel) b

/-! ### Tokens -/

namespace Scanner

variable {s s' : State} {u : Token} {us : List Token}

/-- The bytes that have been taken in of a token that is not complete. -/
def State.pending : State → List UInt8
  | .between => []
  | .word read | .number read => read.reverse
  | .string read | .escape read | .hex _ read => 0x22 :: read.reverse

/-- What has been taken in of a string may stand in one, up to an escape that is not complete. -/
def State.IsSound : State → Prop
  | .between | .word _ | .number _ => True
  | .string read => IsBody read.reverse
  | .escape read => ∃ before, read = 0x5C :: before ∧ IsBody before.reverse
  | .hex owed read => ∃ before ds, read = ds ++ 0x75 :: 0x5C :: before ∧ IsBody before.reverse ∧
      (∀ d ∈ ds, (hexValue? d).isSome = true) ∧ ds.length + owed = 4 ∧ 0 < owed

/-- The characters of bytes are the bytes in another type. -/
theorem characters_inj {xs ys : List UInt8} : characters xs = characters ys ↔ xs = ys := by
  refine ⟨fun h ↦ List.map_injective_iff.2 (fun b c hbc ↦ ?_) h, congrArg characters⟩
  have hnumber : ∀ b : UInt8, (Char.ofNat b.toNat).toNat = b.toNat := fun b ↦
    Utf8.toNat_ofNat (.inl (Nat.lt_trans b.toNat_lt (by decide)))
  have htoNat := congrArg Char.toNat hbc
  rw [hnumber, hnumber] at htoNat
  exact UInt8.toNat_inj.1 htoNat

/-- A word that was taken in letter by letter is one of the three. -/
theorem isRun_of_word? (h : word? read = some u) : u.IsRun read.reverse := by
  have hbytes : ∀ {word : String}, String.ofList (characters read.reverse) = word →
      characters (Utf8.encode word) = word.toList → read.reverse = Utf8.encode word := by
    rintro _ rfl hword
    rw [String.toList_ofList] at hword
    exact (characters_inj.1 hword).symm
  rw [word?] at h
  split at h
  next hnull =>
    obtain rfl := Option.some.inj h
    exact hbytes hnull rfl ▸ .null
  next htrue =>
    obtain rfl := Option.some.inj h
    exact hbytes htrue rfl ▸ .true
  next hfalse =>
    obtain rfl := Option.some.inj h
    exact hbytes hfalse rfl ▸ .false
  next => cases h

/-- A number that was taken in is spelled by its characters. -/
theorem isRun_of_number? (h : number? read = some u) : u.IsRun read.reverse := by
  obtain ⟨l, hl, rfl⟩ := Option.map_eq_some_iff.1 h
  exact .number (Literal.spells_of_ofChars? hl)

/-- What one byte makes of a state: it is sound if the state before was, and whatever follows it, the
tokens that the byte completes are spelled in front of those. -/
def Extends (s : State) (b : UInt8) (s' : State) (us : List Token) : Prop :=
  s'.IsSound ∧ ∀ ts bs, Lexes ts (s'.pending ++ bs) → Lexes (us ++ ts) (s.pending ++ b :: bs)

/-- A byte that completes no token is one more of the token that is under way. -/
theorem extends_of_silent (hsound : s'.IsSound) (hpending : s'.pending = s.pending ++ [b]) :
    Extends s b s' [] := by
  refine ⟨hsound, fun ts bs h ↦ ?_⟩
  rwa [hpending, List.append_assoc] at h

/-- A mark is a token of its own. -/
theorem extends_of_mark (hmark : u.IsMark b) : Extends .between b .between [u] :=
  ⟨trivial, fun _ _ h ↦ .mark hmark h⟩

/-- Between tokens a byte is a blank, a mark, or the first of a token. -/
theorem extends_between (h : between? b = some (s', us)) : Extends .between b s' us := by
  rw [between?] at h
  split at h
  next hblank =>
    obtain ⟨rfl, rfl⟩ := Prod.mk.inj (Option.some.inj h)
    refine ⟨trivial, fun ts bs h ↦ .blank ?_ h⟩
    simpa [isBlank, or_assoc] using hblank
  next =>
  split at h
  next =>
    obtain ⟨rfl, rfl⟩ := Prod.mk.inj (Option.some.inj h)
    exact extends_of_silent trivial rfl
  next =>
  split at h
  next =>
    obtain ⟨rfl, rfl⟩ := Prod.mk.inj (Option.some.inj h)
    exact extends_of_silent trivial rfl
  next =>
  have hmark : ∀ {n : Nat} {u : Token}, b.toNat = n → u.IsMark (UInt8.ofNat n) →
      some (State.between, [u]) = some (s', us) → Extends .between b s' us := by
    intro n u hb hmark h
    obtain ⟨rfl, rfl⟩ := Prod.mk.inj (Option.some.inj h)
    rw [Utf8.ofNat_eq hb.symm] at hmark
    exact extends_of_mark hmark
  split at h
  next hb =>
    obtain ⟨rfl, rfl⟩ := Prod.mk.inj (Option.some.inj h)
    refine extends_of_silent .nil ?_
    rw [← Utf8.ofNat_eq (a := b) hb.symm]
    rfl
  next hb => exact hmark hb .openObject h
  next hb => exact hmark hb .closeObject h
  next hb => exact hmark hb .openArray h
  next hb => exact hmark hb .closeArray h
  next hb => exact hmark hb .colon h
  next hb => exact hmark hb .comma h
  next => cases h

/-- A byte that does not belong to a word or a number ends it and is taken between tokens. -/
theorem extends_of_ended (hpending : u.IsRun s.pending)
    (h : (do let (s, us) ← between? b; return (s, u :: us)) = some (s', us)) :
    Extends s b s' us := by
  obtain ⟨⟨t, ts⟩, hbetween, hnext⟩ := Option.bind_eq_some_iff.1 h
  obtain ⟨rfl, rfl⟩ := Prod.mk.inj (Option.some.inj hnext)
  obtain ⟨hsound, hlexes⟩ := extends_between hbetween
  exact ⟨hsound, fun ts bs h ↦ .run hpending (hlexes ts bs h)⟩

/-- Within a string a byte ends it, begins an escape, or stands for itself. -/
theorem extends_string (hbody : IsBody read.reverse)
    (h : step? (.string read) b = some (s', us)) : Extends (.string read) b s' us := by
  rw [step?] at h
  split at h
  next hquote =>
    obtain ⟨rfl, rfl⟩ := Prod.mk.inj (Option.some.inj h)
    obtain rfl : b = 0x22 := beq_iff_eq.1 hquote
    refine ⟨trivial, fun ts bs h ↦ ?_⟩
    exact .string hbody h
  next hquote =>
  split at h
  next hslash =>
    obtain ⟨rfl, rfl⟩ := Prod.mk.inj (Option.some.inj h)
    obtain rfl : b = 0x5C := beq_iff_eq.1 hslash
    exact extends_of_silent ⟨read, rfl, hbody⟩ (by simp [State.pending])
  next hslash =>
  split at h
  next => cases h
  next hcontrol =>
    obtain ⟨rfl, rfl⟩ := Prod.mk.inj (Option.some.inj h)
    have hcontrol : 0x20 ≤ b.toNat := Nat.not_lt.1 fun hlt ↦
      hcontrol (UInt8.lt_iff_toNat_lt.2 hlt)
    have hplain : IsBody [b] := .plain (by simpa using hquote) (by simpa using hslash) hcontrol .nil
    refine extends_of_silent ?_ (by simp [State.pending])
    rw [State.IsSound, List.reverse_cons]
    exact hbody.append hplain

/-- Behind a backslash stands a letter, or four digits are owed. -/
theorem extends_escape (hsound : (State.escape read).IsSound)
    (h : step? (.escape read) b = some (s', us)) : Extends (.escape read) b s' us := by
  obtain ⟨before, rfl, hbody⟩ := hsound
  rw [step?] at h
  split at h
  next hmarker =>
    obtain ⟨rfl, rfl⟩ := Prod.mk.inj (Option.some.inj h)
    obtain rfl : b = 0x75 := beq_iff_eq.1 hmarker
    exact extends_of_silent ⟨before, [], rfl, hbody, List.forall_mem_nil _, rfl, by decide⟩
      (by simp [State.pending])
  next =>
  split at h
  next hshort =>
    obtain ⟨rfl, rfl⟩ := Prod.mk.inj (Option.some.inj h)
    have hescape : IsBody [0x5C, b] := .short (mem_of_isSome_shortEscape? hshort) .nil
    refine extends_of_silent ?_ (by simp [State.pending])
    have hread : (b :: 0x5C :: before).reverse = before.reverse ++ [0x5C, b] := by simp
    rw [State.IsSound, hread]
    exact hbody.append hescape
  next => cases h

/-- Each hexadecimal digit pays one that is owed. -/
theorem extends_hex {owed : Nat} (hsound : (State.hex owed read).IsSound)
    (h : step? (.hex owed read) b = some (s', us)) : Extends (.hex owed read) b s' us := by
  obtain ⟨before, ds, rfl, hbody, hds, hlength, howed⟩ := hsound
  rw [step?] at h
  split at h
  next hb =>
    obtain ⟨rfl, rfl⟩ := Prod.mk.inj (Option.some.inj h)
    have hall : ∀ d ∈ b :: ds, (hexValue? d).isSome = true := List.forall_mem_cons.2 ⟨hb, hds⟩
    split
    next hlast =>
      -- the fourth digit completes the escape
      obtain ⟨d₃, d₂, d₁, rfl⟩ := List.length_eq_three.1 (show ds.length = 3 by omega)
      have hescape : IsBody [0x5C, 0x75, d₁, d₂, d₃, b] :=
        .digits (fun d hd ↦ hall d (by simp only [List.mem_cons] at hd ⊢; tauto)) .nil
      refine extends_of_silent ?_ (by simp [State.pending])
      have hread : (b :: ([d₃, d₂, d₁] ++ 0x75 :: 0x5C :: before)).reverse =
        before.reverse ++ [0x5C, 0x75, d₁, d₂, d₃, b] := by simp
      rw [State.IsSound, hread]
      exact hbody.append hescape
    next hmore =>
      exact extends_of_silent ⟨before, b :: ds, rfl, hbody, hall, by simp; omega, by omega⟩
        (by simp [State.pending])
  next => cases h

/-- One byte extends what has been taken in, whatever the scanner is in the middle of. -/
theorem extends_of_step (hsound : s.IsSound) (h : step? s b = some (s', us)) :
    Extends s b s' us := by
  cases s with
  | between => exact extends_between h
  | word read =>
    rw [step?] at h
    split at h
    next =>
      obtain ⟨rfl, rfl⟩ := Prod.mk.inj (Option.some.inj h)
      exact extends_of_silent trivial (by simp [State.pending])
    next =>
      obtain ⟨u, hu, hrest⟩ := Option.bind_eq_some_iff.1 h
      exact extends_of_ended (isRun_of_word? hu) hrest
  | number read =>
    rw [step?] at h
    split at h
    next =>
      obtain ⟨rfl, rfl⟩ := Prod.mk.inj (Option.some.inj h)
      exact extends_of_silent trivial (by simp [State.pending])
    next =>
      obtain ⟨u, hu, hrest⟩ := Option.bind_eq_some_iff.1 h
      exact extends_of_ended (isRun_of_number? hu) hrest
  | string => exact extends_string hsound h
  | escape => exact extends_escape hsound h
  | hex => exact extends_hex hsound h

/-- A text may end between tokens, or where a run of characters may. -/
theorem lexes_of_finish? (h : finish? s = some us) : Lexes us s.pending := by
  have hrun : ∀ {read u}, u.IsRun read → Lexes [u] read := fun {read u} hu ↦ by
    have hlexes := Lexes.run hu .nil
    rwa [List.append_nil] at hlexes
  cases s with
  | between =>
    obtain rfl := Option.some.inj h
    exact .nil
  | word =>
    obtain ⟨u, hu, rfl⟩ := Option.map_eq_some_iff.1 h
    exact hrun (isRun_of_word? hu)
  | number =>
    obtain ⟨u, hu, rfl⟩ := Option.map_eq_some_iff.1 h
    exact hrun (isRun_of_number? hu)
  | string | escape | hex => cases h

/-- What is scanned from a state on is spelled by what it has taken in and what follows. -/
theorem lexes_of_scan? (hsound : s.IsSound) (h : scan? s bs = some us) :
    Lexes us (s.pending ++ bs) := by
  induction bs generalizing s us with
  | nil => simpa using lexes_of_finish? h
  | cons b bs ih =>
    obtain ⟨⟨t, ts⟩, hstep, hrest⟩ := Option.bind_eq_some_iff.1 h
    obtain ⟨more, hmore, heq⟩ := Option.bind_eq_some_iff.1 hrest
    obtain rfl := Option.some.inj heq
    obtain ⟨hsound, hextends⟩ := extends_of_step hsound hstep
    exact hextends more bs (ih hsound hmore)

end Scanner

/-- What was scanned spells its tokens. -/
theorem lexes_of_tokens? (h : tokens? bytes = some ts) : Lexes ts bytes :=
  Scanner.lexes_of_scan? (s := .between) trivial h

/-! ### Trees -/

theorem Tree.itemTokens_append (ts us : List Tree) :
    Tree.itemTokens (ts ++ us) = Tree.itemTokens ts ++ Tree.itemTokens us := by
  induction ts with
  | nil => rfl
  | cons t ts ih => simp [Tree.itemTokens, ih]

theorem Tree.memberTokens_append (ms ns : List (List UInt8 × Tree)) :
    Tree.memberTokens (ms ++ ns) = Tree.memberTokens ms ++ Tree.memberTokens ns := by
  induction ms with
  | nil => rfl
  | cons m ms ih => simp [Tree.memberTokens, ih]

namespace Builder

variable {s s' : State} {stack : List Frame} {u : Token} {value : Tree}

/-- The tokens of an array up to where its next item is due. -/
def itemsBefore : List Tree → List Token
  | [] => [.openArray]
  | t :: ts => .openArray :: (t.tokens ++ Tree.itemTokens ts ++ [.comma])

/-- The tokens of an object up to where its next key is due. -/
def membersBefore : List (List UInt8 × Tree) → List Token
  | [] => [.openObject]
  | (key, t) :: ms =>
    .openObject :: .string key :: .colon :: (t.tokens ++ Tree.memberTokens ms ++ [.comma])

/-- The tokens of a container up to where the value under way is due. -/
def Frame.spelled : Frame → List Token
  | .array items => itemsBefore items.reverse
  | .member members key => membersBefore members.reverse ++ [.string key, .colon]

/-- The tokens of the containers that are open. -/
def opened : List Frame → List Token
  | [] => []
  | f :: stack => opened stack ++ f.spelled

/-- The tokens of the innermost container up to where a state is in it. -/
def Mode.spelled : Mode → List Token
  | .value => []
  | .firstItem => [.openArray]
  | .firstKey => [.openObject]
  | .key members => membersBefore members.reverse
  | .colon members name => membersBefore members.reverse ++ [.string name]
  | .after value => value.tokens

/-- The tokens that have been taken in. -/
def State.spelled (s : State) : List Token := opened s.stack ++ s.mode.spelled

/-- An item is followed by a comma where another one is to come. -/
theorem itemsBefore_concat (ts : List Tree) (t : Tree) :
    itemsBefore (ts ++ [t]) = itemsBefore ts ++ t.tokens ++ [.comma] := by
  cases ts with
  | nil => simp [itemsBefore, Tree.itemTokens]
  | cons => simp [itemsBefore, Tree.itemTokens, Tree.itemTokens_append]

/-- The last item is followed by the end of the array. -/
theorem tokens_array_concat (ts : List Tree) (t : Tree) :
    (Tree.array (ts ++ [t])).tokens = itemsBefore ts ++ t.tokens ++ [.closeArray] := by
  cases ts with
  | nil => simp [itemsBefore, Tree.tokens, Tree.itemTokens]
  | cons => simp [itemsBefore, Tree.tokens, Tree.itemTokens, Tree.itemTokens_append]

/-- A member is followed by a comma where another one is to come. -/
theorem membersBefore_concat (ms : List (List UInt8 × Tree)) (key : List UInt8) (t : Tree) :
    membersBefore (ms ++ [(key, t)]) =
      membersBefore ms ++ [.string key, .colon] ++ t.tokens ++ [.comma] := by
  cases ms with
  | nil => simp [membersBefore, Tree.memberTokens]
  | cons => simp [membersBefore, Tree.memberTokens, Tree.memberTokens_append]

/-- The last member is followed by the end of the object. -/
theorem tokens_object_concat (ms : List (List UInt8 × Tree)) (key : List UInt8) (t : Tree) :
    (Tree.object (ms ++ [(key, t)])).tokens =
      membersBefore ms ++ [.string key, .colon] ++ t.tokens ++ [.closeObject] := by
  cases ms with
  | nil => simp [membersBefore, Tree.tokens, Tree.memberTokens]
  | cons => simp [membersBefore, Tree.tokens, Tree.memberTokens, Tree.memberTokens_append]

/-- Where a value may begin, the token is added to what is open. -/
theorem spelled_of_beginValue? (h : beginValue? stack u = some s') :
    s'.spelled = opened stack ++ [u] := by
  cases u <;> cases h <;> rfl

/-- Behind a value the token is added to what is open and to the value. -/
theorem spelled_of_afterValue? (h : afterValue? value stack u = some s') :
    s'.spelled = opened stack ++ value.tokens ++ [u] := by
  rw [afterValue?.eq_def] at h
  split at h
  next items stack =>
    obtain rfl := Option.some.inj h
    simp [State.spelled, opened, Frame.spelled, Mode.spelled, itemsBefore_concat]
  next items stack =>
    obtain rfl := Option.some.inj h
    simp [State.spelled, opened, Frame.spelled, Mode.spelled, tokens_array_concat]
  next members key stack =>
    obtain rfl := Option.some.inj h
    simp [State.spelled, opened, Frame.spelled, Mode.spelled, membersBefore_concat]
  next members key stack =>
    obtain rfl := Option.some.inj h
    simp [State.spelled, opened, Frame.spelled, Mode.spelled, tokens_object_concat]
  next => cases h

/-- One token is added to what has been taken in. -/
theorem spelled_of_step? (h : step? s u = some s') : s'.spelled = s.spelled ++ [u] := by
  obtain ⟨mode, stack⟩ := s
  cases mode with
  | value => simpa [State.spelled, Mode.spelled] using spelled_of_beginValue? h
  | firstItem =>
    dsimp only [step?] at h
    split at h
    next hclose =>
      obtain rfl := Option.some.inj h
      subst hclose
      simp [State.spelled, Mode.spelled, Tree.tokens]
    next => exact spelled_of_beginValue? h
  | firstKey =>
    dsimp only [step?] at h
    split at h
    next =>
      obtain rfl := Option.some.inj h
      simp [State.spelled, Mode.spelled, Tree.tokens]
    next =>
      obtain rfl := Option.some.inj h
      simp [State.spelled, Mode.spelled, membersBefore]
    next => cases h
  | key members =>
    dsimp only [step?] at h
    split at h
    next =>
      obtain rfl := Option.some.inj h
      simp [State.spelled, Mode.spelled]
    next => cases h
  | colon members name =>
    dsimp only [step?] at h
    split at h
    next hcolon =>
      obtain rfl := Option.some.inj h
      subst hcolon
      simp [State.spelled, Mode.spelled, opened, Frame.spelled]
    next => cases h
  | after value => exact spelled_of_afterValue? h

/-- Any number of steps add their tokens. -/
theorem spelled_of_foldlM (h : ts.foldlM step? s = some s') : s'.spelled = s.spelled ++ ts := by
  induction ts generalizing s with
  | nil =>
    obtain rfl := Option.some.inj h
    exact (List.append_nil _).symm
  | cons u ts ih =>
    obtain ⟨s₁, hstep, hrest⟩ := Option.bind_eq_some_iff.1 h
    rw [ih hrest, spelled_of_step? hstep, List.append_assoc]
    rfl

/-- At the end nothing is open, so what was taken in is the value. -/
theorem spelled_of_finish? (h : finish? s = some value) : s.spelled = value.tokens := by
  rw [finish?] at h
  split at h
  next hmode hstack =>
    obtain rfl := Option.some.inj h
    rw [State.spelled, hmode, hstack]
    rfl
  next => cases h

end Builder

/-- A document is read as a tree exactly if it writes it. -/
theorem Tree.read?_eq_some_iff : Tree.read? bytes = some t ↔ t.Writes bytes := by
  refine ⟨fun h ↦ ?_, Tree.Writes.read?_eq⟩
  obtain ⟨ts, hts, h⟩ := Option.bind_eq_some_iff.1 h
  obtain ⟨s, hs, hfinish⟩ := Option.bind_eq_some_iff.1 h
  have htokens : t.tokens = ts :=
    (Builder.spelled_of_finish? hfinish).symm.trans (Builder.spelled_of_foldlM hs)
  rw [Tree.Writes, htokens]
  exact lexes_of_tokens? hts

end VaultAccess.Json
