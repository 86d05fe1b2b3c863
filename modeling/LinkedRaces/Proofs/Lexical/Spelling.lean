import LinkedRaces.Proofs.Lexical.Lexing
import LinkedRaces.Rdf.Term

/-!
How each kind of token is written, and that it is read as what was written: marks, words, prefixed
names, variables, whole numbers, and terms as they are displayed.
-/

namespace LinkedRaces

namespace Scanner

theorem ne_of_separated {c : Char} (hc : Text.isBlank c = false) {rest : List Char}
    (hr : Separated rest) : rest.head? ≠ some c := by
  intro h
  have := hr c h
  simp [hc] at this

theorem reference?_of_separated {rest : List Char} (h : Separated rest) : reference? rest = none := by
  cases rest with
  | nil => rfl
  | cons c rest =>
    have hc := h c rfl
    have hgt : c ≠ '>' := by rintro rfl; revert hc; decide
    simp [reference?, hgt, endsReference, hc]

theorem either_of_separated {second : Char} (hs : Text.isBlank second = false) (long short : Mark)
    {rest : List Char} (h : Separated rest) :
    either second long short rest = (.mark short, rest) := by
  cases rest with
  | nil => rfl
  | cons c rest =>
    have hc : c ≠ second := fun hc => ne_of_separated hs h (by rw [hc]; rfl)
    simp [either, hc]

theorem beginsWithDigit_of_separated {rest : List Char} (h : Separated rest) :
    beginsWithDigit rest = false := by
  cases rest with
  | nil => rfl
  | cons c rest => exact isDigit_of_isBlank (h c rfl)

theorem takeWhile_of_separated {p : Char → Bool} (hp : ∀ c, Text.isBlank c → p c = false)
    {rest : List Char} (h : Separated rest) : rest.takeWhile p = [] := by
  cases rest with
  | nil => rfl
  | cons c rest =>
    have hc := hp c (h c rfl)
    simp [hc]

end Scanner

open Scanner

theorem lexes_mark (x : Context) (m : Mark) : Lexes x m.text.toList [.mark m] := by
  cases m
  -- what follows matters to a mark that could be the beginning of another token
  case dot =>
    refine show Lexes x ['.'] _ from .single '.' [] fun rest hr => ?_
    simp [tokenAfter, show start '.' = .dot by decide, beginsWithDigit_of_separated hr]
  case less =>
    refine show Lexes x ['<'] _ from .single '<' [] fun rest hr => ?_
    simp [tokenAfter, show start '<' = .angle by decide, reference?_of_separated hr,
      either_of_separated (show Text.isBlank '=' = false by decide) _ _ hr]
  case atMost =>
    refine show Lexes x ['<', '='] _ from .single '<' ['='] fun rest hr => ?_
    have : reference? ('=' :: rest) = none := by
      simp [reference?, reference?_of_separated hr]
    simp [tokenAfter, show start '<' = .angle by decide, this, either]
  case greater =>
    refine show Lexes x ['>'] _ from .single '>' [] fun rest hr => ?_
    simp [tokenAfter, show start '>' = .greater by decide,
      either_of_separated (show Text.isBlank '=' = false by decide) _ _ hr]
  case bang =>
    refine show Lexes x ['!'] _ from .single '!' [] fun rest hr => ?_
    simp [tokenAfter, show start '!' = .bang by decide,
      either_of_separated (show Text.isBlank '=' = false by decide) _ _ hr]
  case bar =>
    refine show Lexes x ['|'] _ from .single '|' [] fun rest hr => ?_
    simp [tokenAfter, show start '|' = .bar by decide,
      either_of_separated (show Text.isBlank '|' = false by decide) _ _ hr]
  case caret =>
    refine show Lexes x ['^'] _ from .single '^' [] fun rest hr => ?_
    simp [tokenAfter, show start '^' = .caret by decide,
      either_of_separated (show Text.isBlank '^' = false by decide) _ _ hr]
  case plus =>
    refine show Lexes x ['+'] _ from .single '+' [] fun rest hr => ?_
    simp [tokenAfter, show start '+' = .sign by decide, beginsWithDigit_of_separated hr, signMark]
  case minus =>
    refine show Lexes x ['-'] _ from .single '-' [] fun rest hr => ?_
    simp [tokenAfter, show start '-' = .sign by decide, beginsWithDigit_of_separated hr, signMark]
  case question =>
    refine show Lexes x ['?'] _ from .single '?' [] fun rest hr => ?_
    simp [tokenAfter, show start '?' = .sigil by decide,
      takeWhile_of_separated (fun _ => isNameChar_of_isBlank) hr]
  -- any other mark is known by its own characters
  case doubleCaret => exact show Lexes x ['^', '^'] _ from .single _ _ fun _ _ => rfl
  case and => exact show Lexes x ['&', '&'] _ from .single _ _ fun _ _ => rfl
  case or => exact show Lexes x ['|', '|'] _ from .single _ _ fun _ _ => rfl
  case notEqual => exact show Lexes x ['!', '='] _ from .single _ _ fun _ _ => rfl
  case atLeast => exact show Lexes x ['>', '='] _ from .single _ _ fun _ _ => rfl
  case openBrace => exact show Lexes x ['\x7b'] _ from .single _ _ fun _ _ => rfl
  case closeBrace => exact show Lexes x ['\x7d'] _ from .single _ _ fun _ _ => rfl
  case openParen => exact show Lexes x ['('] _ from .single _ _ fun _ _ => rfl
  case closeParen => exact show Lexes x [')'] _ from .single _ _ fun _ _ => rfl
  case openBracket => exact show Lexes x ['['] _ from .single _ _ fun _ _ => rfl
  case closeBracket => exact show Lexes x [']'] _ from .single _ _ fun _ _ => rfl
  case semicolon => exact show Lexes x [';'] _ from .single _ _ fun _ _ => rfl
  case comma => exact show Lexes x [','] _ from .single _ _ fun _ _ => rfl
  case star => exact show Lexes x ['*'] _ from .single _ _ fun _ _ => rfl
  case slash => exact show Lexes x ['/'] _ from .single _ _ fun _ _ => rfl
  case equal => exact show Lexes x ['='] _ from .single _ _ fun _ _ => rfl

namespace Scanner

/-- A letter with word characters after it, of which a dot is not the last. -/
def isBareWord (cs : List Char) : Bool :=
  cs.head?.any Text.isAlphabetic && cs.all isWordChar && cs.getLast? != some '.'

def isLabel (cs : List Char) : Bool := cs.isEmpty || isBareWord cs

def isName (cs : List Char) : Bool := cs.all isLocalChar && cs.getLast? != some '.'

theorem isWordChar_of_isBareWord {cs : List Char} (h : isBareWord cs) : ∀ c ∈ cs, isWordChar c := by
  simp only [isBareWord, Bool.and_eq_true, List.all_eq_true] at h
  exact h.1.2

theorem getLast?_of_isBareWord {cs : List Char} (h : isBareWord cs) : cs.getLast? ≠ some '.' := by
  simp only [isBareWord, Bool.and_eq_true, bne_iff_ne] at h
  exact h.2

theorem exists_cons_of_isBareWord {cs : List Char} (h : isBareWord cs) :
    ∃ c rest, cs = c :: rest ∧ Text.isAlphabetic c := by
  cases cs with
  | nil => simp [isBareWord] at h
  | cons c rest =>
    simp only [isBareWord, Bool.and_eq_true, List.head?_cons, Option.any_some] at h
    exact ⟨c, rest, rfl, h.1.1⟩

theorem start_of_isAlphabetic {c : Char} (h : Text.isAlphabetic c) : start c = .word := by
  simp [start, h]

theorem isAlphabetic_of_isDigit {c : Char} (h : c.isDigit) : Text.isAlphabetic c = false := by
  simp only [Char.isDigit, Bool.and_eq_true, decide_eq_true_eq, UInt32.le_iff_toNat_le] at h
  have : c.toNat < 65 := by
    have : c.val.toNat ≤ 57 := h.2
    exact Nat.lt_of_le_of_lt this (by decide)
  exact if_pos this

theorem start_of_isDigit {c : Char} (h : c.isDigit) : start c = .digit := by
  have hcolon : c ≠ ':' := by rintro rfl; revert h; decide
  simp [start, hcolon, isAlphabetic_of_isDigit h, h]

end Scanner

theorem kinds_word {cs rest : List Char} (h : isBareWord cs)
    (hr : ∀ c ∈ rest.head?, isWordChar c = false ∧ c ≠ ':') (x : Context) :
    Tokenizer.kinds x (cs ++ rest) =
      (Tokenizer.kinds (x.next (.word (String.ofList cs))) rest).map (.word (String.ofList cs) :: ·) := by
  have hw := word_append (isWordChar_of_isBareWord h) (getLast?_of_isBareWord h) hr
  obtain ⟨c, cs, rfl, hc⟩ := exists_cons_of_isBareWord h
  rw [List.cons_append] at hw ⊢
  refine Tokenizer.kinds_cons ?_
  simp only [tokenAfter, start_of_isAlphabetic hc, hw]

theorem lexes_word {cs : List Char} (h : isBareWord cs) (x : Context) :
    Lexes x cs [.word (String.ofList cs)] := by
  intro rest hr
  refine kinds_word h (fun c hc => ⟨isWordChar_of_isBlank (hr c hc), ?_⟩) x
  rintro rfl
  exact ne_of_separated (by decide) hr hc

theorem exists_tokenAfter_prefixed {label name rest : List Char} (hl : isLabel label)
    (hn : isName name) (hr : ∀ c ∈ rest.head?, isLocalChar c = false) :
    ∃ c cs, label ++ ':' :: (name ++ rest) = c :: cs ∧ ∀ comparing afterValue,
      tokenAfter comparing afterValue c cs =
        .ok (.prefixed (String.ofList label) (String.ofList name), rest) := by
  simp only [isName, Bool.and_eq_true, List.all_eq_true, bne_iff_ne] at hn
  rcases Bool.or_eq_true_iff.1 hl with hl | hl
  · obtain rfl := List.isEmpty_iff.1 hl
    have hword := word_prefixed (List.forall_mem_nil _) (by simp) hn.1 hn.2 hr
    refine ⟨':', name ++ rest, rfl, fun _ _ => ?_⟩
    simp only [tokenAfter, show start ':' = .word by decide]
    exact congrArg Except.ok hword
  · have hword := word_prefixed (isWordChar_of_isBareWord hl) (getLast?_of_isBareWord hl) hn.1 hn.2 hr
    obtain ⟨c, cs, rfl, hc⟩ := exists_cons_of_isBareWord hl
    refine ⟨c, cs ++ ':' :: (name ++ rest), rfl, fun _ _ => ?_⟩
    simp only [tokenAfter, start_of_isAlphabetic hc]
    exact congrArg Except.ok hword

theorem lexes_prefixed {label name : List Char} (hl : isLabel label) (hn : isName name)
    (x : Context) :
    Lexes x (label ++ ':' :: name) [.prefixed (String.ofList label) (String.ofList name)] := by
  intro rest hr
  obtain ⟨c, cs, hcs, htoken⟩ := exists_tokenAfter_prefixed hl hn
    fun c hc => isLocalChar_of_isBlank (hr c hc)
  rw [List.append_assoc, List.cons_append, hcs]
  exact Tokenizer.kinds_cons (htoken _ _)

theorem tokenize_prefixed {label name : List Char} (hl : isLabel label) (hn : isName name) :
    tokenize (label ++ ':' :: name) =
      .ok [⟨.prefixed (String.ofList label) (String.ofList name), label ++ ':' :: name⟩] := by
  obtain ⟨c, cs, hcs, htoken⟩ := exists_tokenAfter_prefixed hl hn
    (show ∀ c ∈ ([] : List Char).head?, isLocalChar c = false from nofun)
  rw [List.append_nil] at hcs
  rw [hcs]
  exact tokenize_of_tokenAfter (htoken _ _)

theorem lexes_digits {digits : List Char} (hne : digits ≠ []) (hd : ∀ c ∈ digits, c.isDigit)
    (x : Context) : Lexes x digits [.integer (String.ofList digits)] := by
  intro rest hr
  have hnumber := number_digits hd hr
  cases digits with
  | nil => exact absurd rfl hne
  | cons d digits =>
    rw [List.cons_append] at hnumber ⊢
    refine Tokenizer.kinds_cons ?_
    simp only [tokenAfter, start_of_isDigit (hd d List.mem_cons_self), hnumber]

def IsVarName (name : String) : Prop := name ≠ "" ∧ ∀ c ∈ name.toList, isNameChar c

def IsTag (tag : String) : Prop := tag ≠ "" ∧ ∀ c ∈ tag.toList, isTagChar c

instance (tag : String) : Decidable (IsTag tag) :=
  decidable_of_iff (tag ≠ "" ∧ tag.toList.all isTagChar) (by rw [IsTag, List.all_eq_true])

theorem lexes_var {name : String} (h : IsVarName name) (x : Context) :
    Lexes x ('?' :: name.toList) [.var name] := by
  refine .single '?' name.toList fun rest hr => ?_
  have hstop : ∀ c ∈ rest.head?, isNameChar c = false :=
    fun c hc => isNameChar_of_isBlank (hr c hc)
  have hne : name.toList ≠ [] := by simpa using h.1
  simp only [tokenAfter, show start '?' = .sigil by decide, takeWhile_append_stop h.2 hstop,
    dropWhile_append_stop h.2 hstop, String.ofList_toList]

theorem lexes_tag {tag : String} (h : IsTag tag) (x : Context) :
    Lexes x ('@' :: tag.toList) [.tag tag] := by
  refine .single '@' tag.toList fun rest hr => ?_
  have hstop : ∀ c ∈ rest.head?, isTagChar c = false :=
    fun c hc => isTagChar_of_isBlank (hr c hc)
  have hne : tag.toList ≠ [] := by simpa using h.1
  simp only [tokenAfter, show start '@' = .at by decide, takeWhile_append_stop h.2 hstop,
    dropWhile_append_stop h.2 hstop, String.ofList_toList]

def Iri.token (i : Iri) : Token := .iri i.text

def Iri.Legible (i : Iri) : Prop := ∀ c ∈ i.text.toList, isReferenceChar c

instance (i : Iri) : Decidable i.Legible :=
  decidable_of_iff (i.text.toList.all isReferenceChar) List.all_eq_true

theorem kinds_reference {body : List Char} (h : ∀ c ∈ body, isReferenceChar c)
    {x : Context} (hx : x.compares = false) (rest : List Char) :
    Tokenizer.kinds x ('<' :: (body ++ '>' :: rest)) =
      (Tokenizer.kinds (x.next (.iri (String.ofList body))) rest).map
        (.iri (String.ofList body) :: ·) := by
  refine Tokenizer.kinds_cons ?_
  simp only [tokenAfter, show start '<' = .angle by decide, hx, Bool.false_eq_true, if_false,
    reference?_append h]

theorem lexes_reference {body : List Char} (h : ∀ c ∈ body, isReferenceChar c) {x : Context}
    (hx : x.compares = false) : Lexes x ('<' :: (body ++ ['>'])) [.iri (String.ofList body)] := by
  intro rest _
  simpa using kinds_reference h hx rest

theorem lexes_iri {i : Iri} (h : i.Legible) {x : Context} (hx : x.compares = false) :
    Lexes x i.display.toList [i.token] := by
  simpa [Iri.display, Iri.token] using lexes_reference h hx

theorem kinds_string (lexical : String) {rest : List Char} (hr : rest.head? ≠ some '"')
    (x : Context) :
    Tokenizer.kinds x ((Literal.quoted lexical).toList ++ rest) =
      (Tokenizer.kinds (x.next (.string lexical)) rest).map (.string lexical :: ·) := by
  have : (Literal.quoted lexical).toList ++ rest =
      '"' :: (lexical.toList.flatMap Literal.escapeChar ++ '"' :: rest) := by
    simp [Literal.quoted, Literal.escape]
  rw [this]
  refine Tokenizer.kinds_cons ?_
  simp [tokenAfter, show start '"' = .quote by decide, string, stringBody_escape _ hr, bind,
    Except.bind]

def Literal.suffix (name : Iri → Token) (l : Literal) : List Token :=
  match l.kind with
  | .plain => []
  | .language tag => [.tag tag]
  | .typed datatype => [.mark .doubleCaret, name datatype]

def Literal.tokens (name : Iri → Token) (l : Literal) : List Token :=
  .string l.lexical :: l.suffix name

def Literal.Legible (l : Literal) : Prop :=
  match l.kind with
  | .plain => True
  | .language tag => IsTag tag
  | .typed datatype => datatype.Legible

instance (l : Literal) : Decidable l.Legible :=
  match l with
  | ⟨_, .plain, _⟩ => isTrue trivial
  | ⟨_, .language tag, _⟩ => inferInstanceAs (Decidable (IsTag tag))
  | ⟨_, .typed datatype, _⟩ => inferInstanceAs (Decidable datatype.Legible)

def Term.tokens (name : Iri → Token) : Term → List Token
  | .iri i => [name i]
  | .literal l => l.tokens name
  | .var v => [.var v]

def Term.Legible : Term → Prop
  | .iri i => i.Legible
  | .literal l => l.Legible
  | .var name => IsVarName name

theorem lexes_string (x : Context) (lexical : String) :
    Lexes x (Literal.quoted lexical).toList [.string lexical] := by
  intro rest hr
  exact kinds_string lexical (ne_of_separated (by decide) hr) x

theorem lexes_tagged {tag : String} (h : IsTag tag) (x : Context) (lexical : String) :
    Lexes x ((Literal.quoted lexical).toList ++ '@' :: tag.toList)
      [.string lexical, .tag tag] := by
  intro rest hr
  rw [List.append_assoc, kinds_string lexical (by simp), lexes_tag h _ rest hr]
  simp only [Context.through_cons, Context.through_nil]
  cases Tokenizer.kinds ((x.next (.string lexical)).next (.tag tag)) rest <;> rfl

theorem lexes_typed {x : Context} {cs : List Char} {t : Token} (lexical : String)
    (h : ∀ y : Context, y.afterValue = false → Lexes y cs [t]) :
    Lexes x ((Literal.quoted lexical).toList ++ '^' :: '^' :: cs)
      [.string lexical, .mark .doubleCaret, t] := by
  intro rest hr
  rw [List.append_assoc, kinds_string lexical (by simp), List.cons_append, List.cons_append]
  have hmark : ∀ y : Context, Tokenizer.kinds y ('^' :: '^' :: (cs ++ rest)) =
      (Tokenizer.kinds (y.next (.mark .doubleCaret)) (cs ++ rest)).map
        (.mark .doubleCaret :: ·) := fun y => Tokenizer.kinds_cons rfl
  rw [hmark, h _ rfl rest hr]
  simp only [Context.through_cons, Context.through_nil]
  cases Tokenizer.kinds _ rest <;> rfl

theorem lexes_literal {l : Literal} (h : l.Legible) (x : Context) :
    Lexes x l.display.toList (l.tokens Iri.token) := by
  unfold Literal.Legible at h
  unfold Literal.display Literal.tokens Literal.suffix
  cases hk : l.kind with
  | plain => exact lexes_string x l.lexical
  | language tag =>
    simp only [hk] at h
    simpa using lexes_tagged h x l.lexical
  | typed datatype =>
    simp only [hk] at h
    have hiri : ∀ y : Context, y.afterValue = false →
        Lexes y datatype.display.toList [datatype.token] :=
      fun y hy => lexes_iri h (by simp [Context.compares, hy])
    simpa using lexes_typed (x := x) l.lexical hiri

theorem lexes_term {t : Term} (h : t.Legible) {x : Context} (hx : x.compares = false) :
    Lexes x t.display.toList (t.tokens Iri.token) := by
  cases t with
  | iri i => exact lexes_iri h hx
  | literal l => exact lexes_literal h x
  | var name => simpa [Term.display, Term.tokens] using lexes_var h x

end LinkedRaces
