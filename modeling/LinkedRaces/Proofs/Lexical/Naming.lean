import LinkedRaces.Proofs.Lexical.Spelling
import LinkedRaces.Lexical.Tokens

/-!
The variables that a text names can be written again. The readers that take tokens from the front
of a list leave the rest as it is, so that what holds of all tokens holds of those that are left.
-/

namespace LinkedRaces

def Ensures {ε α : Type} (x : Except ε α) (P : α → Prop) : Prop := ∀ a, x = .ok a → P a

namespace Ensures

variable {ε α β : Type} {x : Except ε α} {P Q : α → Prop}

theorem ok {a : α} (h : P a) : Ensures (.ok a : Except ε α) P := by
  rintro _ ⟨⟩
  exact h

theorem error (e : ε) : Ensures (.error e) P := nofun

theorem trivial (x : Except ε α) : Ensures x fun _ => True := fun _ _ => True.intro

theorem bind {f : α → Except ε β} {R : β → Prop} (hx : Ensures x P)
    (hf : ∀ a, P a → Ensures (f a) R) : Ensures (x >>= f) R := by
  intro b hb
  obtain ⟨a, ha, hfa⟩ := Scanner.bind_eq_ok.1 hb
  exact hf a (hx a ha) b hfa

theorem mono (hx : Ensures x P) (h : ∀ a, P a → Q a) : Ensures x Q := fun a ha => h a (hx a ha)

end Ensures

def Token.Named : Token → Prop
  | var name => IsVarName name
  | _ => True

/-- A property of tokens which says of a variable, among others, that its name can be written. -/
class NamesVariables (T : Token → Prop) : Prop where
  named : ∀ {token}, T token → token.Named

instance : NamesVariables Token.Named := ⟨id⟩

def Token.Spelled : Token → Prop
  | var name => IsVarName name
  | prefixed _ name => ∀ c ∈ name.toList, Scanner.isLocalChar c
  | _ => True

instance : NamesVariables Token.Spelled where
  named {token} h := by
    cases token with
    | var name => exact h
    | _ => trivial

namespace Scanner

theorem spelled_number (sign cs : List Char) : (number sign cs).1.Spelled := by
  simp only [number]
  split
  · trivial
  · split <;> trivial

theorem spelled_either (second : Char) (long short : Mark) (rest : List Char) :
    (either second long short rest).1.Spelled := by
  cases rest with
  | nil => trivial
  | cons c rest => by_cases h : c = second <;> simp [either, h, Token.Spelled]

theorem forall_dottedRun (p : Char → Bool) (cs : List Char) : ∀ c ∈ dottedRun p cs, p c := by
  intro c hc
  have hrun : c ∈ cs.takeWhile p :=
    List.mem_reverse.1 ((List.dropWhile_suffix _).mem (List.mem_reverse.1 hc))
  exact List.all_eq_true.1 List.all_takeWhile c hrun

theorem spelled_word (cs : List Char) : (word cs).1.Spelled := by
  unfold word
  split
  · intro c hc
    rw [String.toList_ofList] at hc
    exact forall_dottedRun _ _ c hc
  · trivial

theorem isVarName_takeWhile {cs : List Char} (h : cs.takeWhile isNameChar ≠ []) :
    IsVarName (String.ofList (cs.takeWhile isNameChar)) := by
  refine ⟨fun hempty => h (by simpa using hempty), fun c hc => ?_⟩
  rw [String.toList_ofList] at hc
  exact List.all_eq_true.1 List.all_takeWhile c hc

theorem spelled_tokenAfter (comparing afterValue : Bool) (c : Char) (rest : List Char) :
    Ensures (tokenAfter comparing afterValue c rest) fun r => r.1.Spelled := by
  unfold tokenAfter
  cases start c with
  | angle =>
    dsimp only
    split
    · exact .ok trivial
    · exact .ok (spelled_either ..)
  | quote => exact Ensures.bind (fun _ _ => trivial) fun _ _ => .ok trivial
  | sigil =>
    dsimp only
    split
    · split
      · exact .error _
      · exact .ok trivial
    · next hname => exact .ok (isVarName_takeWhile hname)
  | «at» =>
    dsimp only
    split
    · exact .error _
    · exact .ok trivial
  | underscore =>
    dsimp only
    split
    · exact .ok trivial
    · exact .error _
  | digit => exact .ok (spelled_number ..)
  | sign =>
    dsimp only
    split
    · exact .ok (spelled_number ..)
    · exact .ok trivial
  | dot =>
    dsimp only
    split
    · exact .ok (spelled_number ..)
    · exact .ok trivial
  | caret => exact .ok (spelled_either ..)
  | bang => exact .ok (spelled_either ..)
  | greater => exact .ok (spelled_either ..)
  | ampersand =>
    dsimp only
    split
    · exact .ok trivial
    · exact .error _
  | bar => exact .ok (spelled_either ..)
  | mark m => exact .ok trivial
  | word => exact .ok (spelled_word _)
  | other => exact .error _

end Scanner

namespace Tokens

variable {T : Token → Prop}

def All (T : Token → Prop) (ts : Tokens) : Prop := ∀ x ∈ ts, T x.token

theorem all_nil : All T [] := nofun

theorem all_cons {x : Located} {ts : Tokens} : All T (x :: ts) ↔ T x.token ∧ All T ts :=
  List.forall_mem_cons

theorem All.of_cons {x : Located} {ts : Tokens} (h : All T (x :: ts)) : All T ts :=
  (all_cons.1 h).2

end Tokens

open Tokens (All all_cons)

theorem all_tokensFrom {T : Token → Prop}
    (h : ∀ comparing afterValue c rest,
      Ensures (Scanner.tokenAfter comparing afterValue c rest) fun r => T r.1)
    (depth : Nat) (afterValue : Bool) (cs : List Char) :
    Ensures (Tokenizer.tokensFrom depth afterValue cs) (All T) := by
  fun_induction Tokenizer.tokensFrom depth afterValue cs with
  | case1 => exact .ok Tokens.all_nil
  | case2 => exact .error _
  | case3 => exact .error _
  | case4 depth afterValue cs c rest hs token rest' htoken hlt tokens htokens ih =>
    exact .ok (all_cons.2 ⟨h _ _ _ _ _ htoken, ih _ htokens⟩)

theorem spelled_tokenize (text : List Char) : Ensures (tokenize text) (All Token.Spelled) :=
  all_tokensFrom Scanner.spelled_tokenAfter 0 false text

theorem named_tokenize (text : List Char) : Ensures (tokenize text) (All Token.Named) :=
  (spelled_tokenize text).mono fun _ h x hx => NamesVariables.named (h x hx)

def Reading.Sound {α : Type} {n : Nat} (T : Token → Prop) (P : α → Prop) (r : Reading Located α n) :
    Prop :=
  P r.value ∧ All T r.rest

namespace Reading.Sound

variable {α β : Type} {T : Token → Prop} {P : α → Prop} {Q : β → Prop} {n : Nat}
  {r r' : Reading Located α n}

theorem map {f : α → β} (h : r.Sound T P) (hf : ∀ a, P a → Q (f a)) : (r.map f).Sound T Q :=
  ⟨hf _ h.1, h.2⟩

theorem andThen {s : Reading Located β r.rest.length} (h : s.Sound T Q) :
    (r.andThen s).Sound T Q := h

theorem skip? {p : Located → Bool} (h : r.Sound T P) (hr : r.skip? p = some r') :
    r'.Sound T P := by
  unfold Reading.skip? at hr
  split at hr
  · cases hr
  · next x rest _ heq _ =>
    split at hr
    · cases hr
      have hrest := h.2
      rw [heq] at hrest
      exact ⟨h.1, hrest.of_cons⟩
    · cases hr

theorem skipAll (p : Located → Bool) (h : r.Sound T P) : (r.skipAll p).Sound T P :=
  ⟨h.1, fun x hx => h.2 x ((List.dropWhile_suffix p).mem hx)⟩

end Reading.Sound

namespace Tokens

variable {ε α β : Type} {T : Token → Prop} {P : α → Prop}

def Sound (T : Token → Prop) (read : TokenReader ε α) (P : α → Prop) : Prop :=
  ∀ ts, All T ts → Ensures (read ts) (Reading.Sound T P)

theorem ensures_took {value : α} (h : P value) {x : Located} {ts : Tokens} (hts : All T ts) :
    Ensures (took value x ts : Taken ε α (x :: ts)) (Reading.Sound T P) := .ok ⟨h, hts⟩

theorem sound_mark (m : Mark) (fault : Tokens → ε) : Sound T (mark m fault) fun _ => True := by
  intro ts hts
  cases ts with
  | nil => exact .error _
  | cons x ts =>
    rw [mark]
    split
    · exact ensures_took trivial hts.of_cons
    · exact .error _

theorem sound_reference {t : Namespaces} {I : Iri → Prop}
    (hI : ∀ {body}, T (.iri body) → I (t.resolve body)) (fault : Tokens → ε) :
    Sound T (reference t fault) I := by
  intro ts hts
  unfold reference
  split
  · exact ensures_took (hI (all_cons.1 hts).1) hts.of_cons
  · exact .error _

theorem sound_prefixDeclaration {t : Namespaces} {N : Namespaces → Prop}
    (hN : ∀ {label body}, T (.iri body) → N (t.insert label (t.resolve body).text))
    (labelFault : Tokens → ε) (referenceFault : Located → Tokens → ε) :
    Sound T (prefixDeclaration t labelFault referenceFault) N := by
  intro ts hts
  cases ts with
  | nil => exact .error _
  | cons x ts =>
    rw [prefixDeclaration]
    split
    · next label _ =>
      have hreference := sound_reference (t := t) (I := fun i => N (t.insert label i.text)) hN
        (referenceFault x)
      exact (hreference ts hts.of_cons).bind fun r hr => .ok hr
    · exact .error _

theorem ensures_quoted {iri : TokenReader ε Iri} {I : Iri → Prop} (hiri : Sound T iri I)
    (value : String) (x : Located) {ts : Tokens} (hts : All T ts) :
    Ensures (quoted iri value x ts) (Reading.Sound T fun l => ∀ i, l.kind = .typed i → I i) := by
  cases ts with
  | nil => exact ensures_took nofun hts
  | cons y ts =>
    rw [quoted]
    split
    · refine .ok ⟨?_, hts.of_cons⟩
      rintro _ ⟨⟩
    · refine (hiri ts hts.of_cons).bind fun r hr => .ok ⟨?_, hr.2⟩
      rintro _ ⟨⟩
      exact hr.1
    · exact ensures_took nofun hts

theorem sound_commaSeparated {item : TokenReader ε α} (hitem : Sound T item P) :
    Sound T (commaSeparated item) fun items => ∀ a ∈ items, P a := by
  intro ts hts
  rw [commaSeparated]
  refine (hitem ts hts).bind fun r hr => ?_
  split
  · next r' hskip =>
    have hr' := hr.skip? hskip
    refine (sound_commaSeparated hitem r'.rest hr'.2).bind fun more hmore => .ok ?_
    exact .andThen (hmore.map fun items hitems => List.forall_mem_cons.2 ⟨hr.1, hitems⟩)
  · exact .ok (hr.map fun a ha => List.forall_mem_singleton.2 ha)
termination_by ts => ts.length
decreasing_by exact Reading.shorter _

theorem sound_semicolonSeparated {part : TokenReader ε (List α)}
    (hpart : Sound T part fun items => ∀ a ∈ items, P a) (atEnd : Tokens → Bool) :
    Sound T (semicolonSeparated part atEnd) fun items => ∀ a ∈ items, P a := by
  intro ts hts
  rw [semicolonSeparated]
  refine (hpart ts hts).bind fun r hr => ?_
  split
  · next r' hskip =>
    obtain ⟨r₀, hr₀, rfl⟩ := Option.map_eq_some_iff.1 hskip
    have hr' := (hr.skip? hr₀).skipAll (isMark .semicolon)
    split
    · exact .ok hr'
    · refine (sound_semicolonSeparated hpart atEnd _ hr'.2).bind fun more hmore => .ok ?_
      exact .andThen (hmore.map fun items hitems => List.forall_mem_append.2 ⟨hr.1, hitems⟩)
  · exact .ok hr
termination_by ts => ts.length
decreasing_by exact Reading.shorter _

end Tokens

end LinkedRaces
