import LinkedRaces.Proofs.Lexical.Layout
import LinkedRaces.Proofs.Query.Parser.Conditions

/-!
The neighbours of a token in a condition. Behind an operand stands what goes on with a condition,
elsewhere an operand begins, and the parentheses of a condition are its own. So its tokens are read
from its text whether blanks stand between them or not, unless an angle bracket is taken for the
beginning of a reference; then what is read has a token that stands behind no operand, and is no
condition.
-/

namespace LinkedRaces.QueryParser

variable {t : Namespaces} {us vs : List Token} {e : Expression} {l : Level}

def closes (tok : Token) : Bool := tok.endsValue || tok.isTagOrWord

def opens : Token → Bool
  | .mark .openParen | .mark .bang => true
  | .mark _ | .tag _ | .blank _ => false
  | _ => true

def continuingMarks : List Mark :=
  [.openParen, .closeParen, .comma, .doubleCaret, .and, .or, .equal, .notEqual, .less, .greater,
    .atMost, .atLeast]

def continues : Token → Bool
  | .mark m => continuingMarks.contains m
  | .tag _ => true
  | _ => false

/-- A place inside the parentheses of a filter: how many are open, and whether an operand may have
ended. -/
structure Place where
  depth : Nat
  closed : Bool
deriving DecidableEq

namespace Place

def admits : Place → Token → Bool
  | ⟨_, true⟩, tok => continues tok
  | ⟨_, false⟩, tok => opens tok

/-- The place behind a token that may stand there. No token stands behind the last parenthesis. -/
def step? (p : Place) (tok : Token) : Option Place :=
  if 0 < p.depth ∧ p.admits tok then some ⟨Tokenizer.depthAfter p.depth tok, closes tok⟩ else none

def run? (p : Place) (us : List Token) : Option Place := us.foldlM step? p

@[simp] theorem run?_nil (p : Place) : p.run? [] = some p := rfl

@[simp] theorem run?_cons (p : Place) (tok : Token) (us : List Token) :
    p.run? (tok :: us) = (p.step? tok).bind (·.run? us) := rfl

@[simp] theorem run?_append (p : Place) (us vs : List Token) :
    p.run? (us ++ vs) = (p.run? us).bind (·.run? vs) :=
  List.foldlM_append

end Place

def RunsThrough (us : List Token) : Prop :=
  ∀ depth, Place.run? ⟨depth + 1, false⟩ us = some ⟨depth + 1, true⟩

theorem runsThrough_between (hu : RunsThrough us) (hv : RunsThrough vs) {m : Mark}
    (hm : m ∈ [Mark.or, .and, .comma, .equal, .notEqual, .less, .greater, .atMost, .atLeast]) :
    RunsThrough (us ++ .mark m :: vs) := by
  intro depth
  have hstep : Place.step? ⟨depth + 1, true⟩ (.mark m) = some ⟨depth + 1, false⟩ := by
    simp only [List.mem_cons, List.not_mem_nil, or_false] at hm
    rcases hm with rfl | rfl | rfl | rfl | rfl | rfl | rfl | rfl | rfl <;> rfl
  simp [hu depth, hstep, hv depth]

theorem runsThrough_parens (hu : RunsThrough us) : RunsThrough (parens us) := by
  intro depth
  have hopen : Place.step? ⟨depth + 1, false⟩ (.mark .openParen) = some ⟨depth + 2, false⟩ := rfl
  have hclose : Place.step? ⟨depth + 2, true⟩ (.mark .closeParen) = some ⟨depth + 1, true⟩ := rfl
  simp [parens, hopen, hu (depth + 1), hclose]

theorem runsThrough_call (word : String) (hu : RunsThrough us) :
    RunsThrough (.word word :: parens us) := by
  intro depth
  have hword : Place.step? ⟨depth + 1, false⟩ (.word word) = some ⟨depth + 1, true⟩ := rfl
  have hopen : Place.step? ⟨depth + 1, true⟩ (.mark .openParen) = some ⟨depth + 2, false⟩ := rfl
  have hclose : Place.step? ⟨depth + 2, true⟩ (.mark .closeParen) = some ⟨depth + 1, true⟩ := rfl
  simp [parens, hword, hopen, hu (depth + 1), hclose]

theorem runsThrough_iri {tok : Token} {i : Iri} (h : NamesIri t tok i) : RunsThrough [tok] := by
  cases h <;> exact fun _ => rfl

theorem runsThrough_literal {l : Literal} (h : SpellsLiteral t us l) : RunsThrough us := by
  cases h with
  | plain value | tagged value tag => exact fun _ => rfl
  | typed value h => cases h <;> exact fun _ => rfl
  | @shorthand tok _ h =>
    cases tok with
    | integer digits | decimal digits | double digits | word word => exact fun _ => rfl
    | _ => cases h

theorem runsThrough_pattern {p : TextPattern} (hu : RunsThrough us) (h : SpellsPattern vs p) :
    RunsThrough (us ++ vs) := by
  have hstring (value : String) : RunsThrough [.string value] := fun _ => rfl
  cases h with
  | plain => exact runsThrough_between hu (hstring _) (by decide)
  | @flagged pattern flags _ _ =>
    have harguments := runsThrough_between (hstring pattern) (hstring flags) (m := .comma) (by decide)
    exact runsThrough_between hu harguments (by decide)

/-- A condition begins where an operand may begin, its parentheses are its own, and it ends as an
operand does. -/
theorem runsThrough_of_reads (h : Reads t l us e) : RunsThrough us := by
  induction h with
  | or _ _ iha ihb | and _ _ iha ihb => exact runsThrough_between iha ihb (by decide)
  | compare op _ _ iha ihb => exact runsThrough_between iha ihb (by cases op <;> decide)
  | disjunct _ ih | conjunct _ ih | plain _ ih | single _ ih => exact ih
  | not _ ih =>
    intro depth
    have hbang : Place.step? ⟨depth + 1, false⟩ (.mark .bang) = some ⟨depth + 1, false⟩ := rfl
    simp [hbang, ih depth]
  | enclosed _ ih => exact runsThrough_parens ih
  | var name => exact fun _ => rfl
  | iri h => exact runsThrough_iri h
  | literal h => exact runsThrough_literal h
  | bound _ name => exact runsThrough_call _ fun _ => rfl
  | unary _ _ ih => exact runsThrough_call _ ih
  | binary _ _ _ iha ihb => exact runsThrough_call _ (runsThrough_between iha ihb (by decide))
  | regex _ _ hp ih => exact runsThrough_call _ (runsThrough_pattern ih hp)

open Scanner (Ends isEnd tokenAfter reference? separators)

variable {p q z : Place} {a b : Placed} {L : Layout} {s r : List Char}

theorem closes_of_endsValue {tok : Token} (h : tok.endsValue) : closes tok := by
  simp [closes, h]

theorem Place.step?_eq_some {tok : Token} (h : p.step? tok = some q) :
    0 < p.depth ∧ p.admits tok ∧ q = ⟨Tokenizer.depthAfter p.depth tok, closes tok⟩ := by
  unfold step? at h
  split at h
  next hp => exact ⟨hp.1, hp.2, (Option.some.inj h).symm⟩
  next => cases h

theorem isEnd_of_continues (h : continues a.token) : isEnd a.first := by
  have hreads := a.reads
  cases htok : a.token with
  | tag tag =>
    rw [htok] at hreads
    obtain hfirst : a.first = '@' := Scanner.begins_of_start (Scanner.start_of_tag hreads)
    rw [hfirst]
    decide
  | mark m =>
    rw [htok] at hreads h
    have htext := Scanner.text_of_mark hreads
    have hend : ∀ m ∈ continuingMarks, m.text.toList.head?.all isEnd := by decide
    simpa [← htext] using hend m (by simpa [continues] using h)
  | _ =>
    rw [htok] at h
    cases h

theorem first_ne_of_opens (h : opens a.token) : a.first ≠ '=' := by
  intro hfirst
  have hreads := a.reads
  rw [hfirst] at hreads
  have htok : a.token = .mark .equal := (congrArg Prod.fst (Except.ok.inj hreads)).symm
  rw [htok] at h
  cases h

def Place.Follows : Place → List Char → Prop
  | ⟨_, true⟩, r => Ends r
  | ⟨_, false⟩, r => r.head? ≠ some '='

theorem follows_text (hrun : p.run? L.tokens = some q) (hs : Separated s) :
    p.Follows (L.text ++ s) := by
  obtain ⟨depth, closed⟩ := p
  cases L with
  | nil =>
    cases closed with
    | true => exact Scanner.ends_of_separated hs
    | false => exact Scanner.ne_of_separated (by decide) hs
  | cons b L =>
    obtain ⟨p', hstep, -⟩ := Option.bind_eq_some_iff.1 hrun
    obtain ⟨-, hb, -⟩ := Place.step?_eq_some hstep
    rw [Layout.text_cons, List.append_assoc]
    cases closed with
    | true => exact b.ends_text (isEnd_of_continues hb) _
    | false => exact b.head?_text_ne (by decide) (first_ne_of_opens hb) _

def Place.context (p : Place) (prev : Token) : Context := ⟨p.depth, prev.endsValue⟩

theorem mem_separators {tok : Token} {m : Mark} (htok : tok = .mark m) (h : p.admits tok) :
    m ∈ separators := by
  subst htok
  obtain ⟨depth, closed⟩ := p
  cases closed with
  | true =>
    have hsub : ∀ m ∈ continuingMarks, m ∈ separators := by decide
    exact hsub m (by simpa [Place.admits, continues] using h)
  | false => cases m <;> first | decide | cases h

theorem closes_of_admits {tok : Token} (h : p.admits tok) (htok : ∀ m, tok ≠ .mark m) :
    closes tok := by
  obtain ⟨depth, closed⟩ := p
  cases tok with
  | mark m => exact absurd rfl (htok m)
  | blank label => cases closed <;> cases h
  | _ => rfl

theorem reads_in_place {prev : Token} (hp : p.closed = closes prev) (hadmits : p.admits b.token)
    (hvalue : ∀ m, b.token ≠ .mark m) :
    tokenAfter prev.endsValue prev.endsValue b.first b.more = .ok (b.token, []) := by
  have hreads := b.reads
  obtain ⟨depth, closed⟩ := p
  cases closed with
  | true =>
    obtain ⟨tag, htag⟩ : ∃ tag, b.token = .tag tag := by
      cases htok : b.token with
      | tag tag => exact ⟨tag, rfl⟩
      | mark m => exact absurd htok (hvalue m)
      | _ =>
        rw [htok] at hadmits
        cases hadmits
    rw [htag] at hreads ⊢
    exact Scanner.tokenAfter_tag hreads _ _
  | false =>
    have hprev : prev.endsValue = false := by
      cases hends : prev.endsValue with
      | false => rfl
      | true => exact absurd (hp.trans (closes_of_endsValue hends)) Bool.false_ne_true
    rw [hprev]
    exact hreads

theorem tokenAfter_step {prev : Token} (hp : p.closed = closes prev)
    (hstep : p.step? b.token = some q) (hr : q.Follows r)
    (hangle : b.token.isAngle → prev.endsValue = false → reference? (b.more ++ r) = none) :
    tokenAfter (p.context prev).compares (p.context prev).afterValue b.first (b.more ++ r) =
      .ok (b.token, r) := by
  obtain ⟨hdepth, hadmits, rfl⟩ := Place.step?_eq_some hstep
  have hcompares : (p.context prev).compares = prev.endsValue := by
    simp [Place.context, Context.compares, hdepth]
  have hafter : (p.context prev).afterValue = prev.endsValue := rfl
  rw [hcompares, hafter]
  by_cases hmark : ∃ m, b.token = .mark m
  · obtain ⟨m, hm⟩ := hmark
    have hreads := b.reads
    rw [hm] at hreads hadmits hangle hr ⊢
    refine Scanner.tokenAfter_separator (mem_separators rfl hadmits) (Scanner.text_of_mark hreads) _ _
      (fun hlonger => ?_) fun hless hcomparing => hangle ?_ hcomparing
    · rcases hlonger with rfl | rfl | rfl <;> exact hr
    · rcases hless with rfl | rfl <;> rfl
  · have hvalue : ∀ m, b.token ≠ .mark m := fun m hm => hmark ⟨m, hm⟩
    have hcloses : closes b.token := closes_of_admits hadmits hvalue
    rw [hcloses] at hr
    exact Scanner.tokenAfter_value (reads_in_place hp hadmits hvalue) hvalue hr

theorem isTagOrWord_of_angle {prev : Token} (hp : p.closed = closes prev)
    (hadmits : p.admits b.token) (hangle : b.token.isAngle) (hprev : prev.endsValue = false) :
    prev.isTagOrWord := by
  obtain ⟨depth, closed⟩ := p
  cases closed with
  | true => simpa [closes, hprev] using hp.symm
  | false =>
    -- no angle bracket opens an operand
    have hopens : opens b.token := hadmits
    unfold Token.isAngle at hangle
    split at hangle <;> simp_all [opens]

theorem kinds_cons_of_not_lured (hp : p.closed = closes a.token) (hstep : p.step? b.token = some q)
    (hrun : q.run? L.tokens = some z) (hs : Separated s) (hhere : Layout.luredHere a b L = false) :
    Tokenizer.kinds (p.context a.token) (Layout.text (b :: L) ++ s) =
      (Tokenizer.kinds (q.context b.token) (L.text ++ s)).map (b.token :: ·) := by
  obtain ⟨-, hadmits, hq⟩ := Place.step?_eq_some hstep
  have htoken := tokenAfter_step hp hstep (follows_text hrun hs) fun hangle hprev => by
    have hnone : reference? (b.more ++ Layout.text L) = none := by
      simpa [Layout.luredHere, isTagOrWord_of_angle hp hadmits hangle hprev, hangle] using hhere
    rw [← List.append_assoc, Scanner.reference?_append_separated _ hs, hnone, Option.map_none]
  have hnext : (p.context a.token).next b.token = q.context b.token := by
    rw [hq]
    rfl
  rw [Layout.text_cons, List.append_assoc, b.kinds_text htoken, hnext]

theorem exists_reference_of_lured (hhere : Layout.luredHere a b L) (s : List Char) :
    ∃ body x r, Tokenizer.kinds (p.context a.token) (Layout.text (b :: L) ++ s) =
      (Tokenizer.kinds x r).map (.iri body :: ·) := by
  simp only [Layout.luredHere, Bool.and_eq_true, Option.isSome_iff_exists] at hhere
  obtain ⟨⟨htag, hangle⟩, ⟨body, rest⟩, hreference⟩ := hhere
  have hfirst : b.first = '<' := by
    have hreads := b.reads
    unfold Token.isAngle at hangle
    split at hangle
    next hless => exact (List.cons.inj (Scanner.text_of_mark (hless ▸ hreads))).1
    next hatMost => exact (List.cons.inj (Scanner.text_of_mark (hatMost ▸ hreads))).1
    next => cases hangle
  have hprev : a.token.endsValue = false := by
    cases htok : a.token <;> simp_all [Token.isTagOrWord, Token.endsValue]
  have hcompares : (p.context a.token).compares = false := Context.compares_of_afterValue hprev
  have hmore := Scanner.reference?_append_of_some hreference s
  rw [List.append_assoc] at hmore
  have htoken : tokenAfter (p.context a.token).compares (p.context a.token).afterValue b.first
      (b.more ++ (Layout.text L ++ s)) = .ok (.iri (String.ofList body), rest ++ s) := by
    rw [hcompares, hfirst]
    simp only [tokenAfter, show Scanner.start '<' = .angle by decide, Bool.false_eq_true, if_false,
      hmore]
  exact ⟨String.ofList body, _, rest ++ s, by
    rw [Layout.text_cons, List.append_assoc, b.kinds_text htoken]⟩

theorem kinds_of_not_lured (hp : p.closed = closes a.token) (hrun : p.run? L.tokens = some q)
    (hs : Separated s) (hlured : Layout.lured (a :: L) = false) :
    Tokenizer.kinds (p.context a.token) (L.text ++ s) =
      (Tokenizer.kinds ((p.context a.token).through L.tokens) s).map (L.tokens ++ ·) := by
  induction L generalizing a p with
  | nil =>
    change Tokenizer.kinds (p.context a.token) s = (Tokenizer.kinds (p.context a.token) s).map ([] ++ ·)
    cases Tokenizer.kinds (p.context a.token) s <;> rfl
  | cons b L ih =>
    obtain ⟨p', hstep, hrun⟩ := Option.bind_eq_some_iff.1 hrun
    obtain ⟨hhere, hlured⟩ := Bool.or_eq_false_iff.1 hlured
    obtain ⟨-, -, hp'⟩ := Place.step?_eq_some hstep
    have hnext : (p.context a.token).next b.token = p'.context b.token := by
      rw [hp']
      rfl
    have hclosed : p'.closed = closes b.token := by rw [hp']
    rw [kinds_cons_of_not_lured hp hstep hrun hs hhere, ih hclosed hrun hlured, Layout.tokens_cons,
      Context.through_cons, hnext]
    cases Tokenizer.kinds ((p'.context b.token).through (Layout.tokens L)) s <;> rfl

theorem map_cons_eq_ok {x : Except LexicalError (List Token)} {tok : Token} {ts : List Token}
    (h : x.map (tok :: ·) = .ok ts) : ∃ us, x = .ok us ∧ ts = tok :: us := by
  cases x with
  | error e => cases h
  | ok us => exact ⟨us, rfl, (Except.ok.inj h).symm⟩

/-- Where a bracket is taken for that of a reference, what is read does not go on as a condition
does, so that its parentheses are never closed. -/
theorem depth_pos_of_lured (hp : p.closed = closes a.token) (hrun : p.run? L.tokens = some z)
    (hs : Separated s) (hlured : Layout.lured (a :: L)) {ts us : List Token}
    (hts : Tokenizer.kinds (p.context a.token) (L.text ++ s) = .ok ts) (hus : us <+: ts)
    (hq : p.run? us = some q) : 0 < q.depth := by
  induction L generalizing a p ts us with
  | nil => cases hlured
  | cons b L ih =>
    obtain ⟨p', hstep, hrun⟩ := Option.bind_eq_some_iff.1 hrun
    obtain ⟨hdepth, -, hp'⟩ := Place.step?_eq_some hstep
    cases us with
    | nil =>
      obtain rfl : p = q := Option.some.inj hq
      exact hdepth
    | cons tok us =>
      obtain ⟨p'', hstep', hq⟩ := Option.bind_eq_some_iff.1 hq
      cases hhere : Layout.luredHere a b L with
      | true =>
        obtain ⟨body, x, r, hkinds⟩ := exists_reference_of_lured (p := p) hhere s
        obtain ⟨ts, -, rfl⟩ := map_cons_eq_ok (hkinds.symm.trans hts)
        obtain ⟨rfl, -⟩ := List.cons_prefix_cons.1 hus
        obtain ⟨-, hadmits, -⟩ := Place.step?_eq_some hstep'
        have htag : a.token.isTagOrWord := by simp_all [Layout.luredHere]
        obtain ⟨depth, closed⟩ := p
        obtain rfl : closed = true := hp.trans (by simp [closes, htag])
        cases hadmits
      | false =>
        have hkinds := kinds_cons_of_not_lured hp hstep hrun hs hhere
        obtain ⟨ts', hts', rfl⟩ := map_cons_eq_ok (hkinds.symm.trans hts)
        obtain ⟨rfl, hus'⟩ := List.cons_prefix_cons.1 hus
        obtain rfl : p' = p'' := Option.some.inj (hstep.symm.trans hstep')
        have hclosed : p'.closed = closes b.token := by rw [hp']
        exact ih hclosed hrun (by simpa [Layout.lured, hhere] using hlured) hts' hus' hq

theorem depth_through {x : Context} (hx : x.depth = p.depth) (hrun : p.run? us = some q) :
    (x.through us).depth = q.depth := by
  induction us generalizing x p with
  | nil =>
    obtain rfl : p = q := Option.some.inj hrun
    exact hx
  | cons tok us ih =>
    obtain ⟨p', hstep, hrun⟩ := Option.bind_eq_some_iff.1 hrun
    obtain ⟨-, -, rfl⟩ := Place.step?_eq_some hstep
    have hnext : (x.next tok).depth = Tokenizer.depthAfter p.depth tok := by rw [Context.next, hx]
    exact ih hnext hrun

theorem run?_enclosed (hus : RunsThrough us) :
    Place.run? ⟨1, false⟩ (us ++ [.mark .closeParen]) = some ⟨0, true⟩ := by
  have hclose : Place.step? ⟨1, true⟩ (.mark .closeParen) = some ⟨0, true⟩ := rfl
  simp [hus 0, hclose]

theorem through_enclosed (hus : RunsThrough us) {x : Context} (hx : x.depth = 1) :
    x.through (us ++ [.mark .closeParen]) = ⟨0, true⟩ := by
  have hdepth := depth_through (p := ⟨1, false⟩) hx (hus 0)
  rw [Context.through_append]
  simp [Context.next, hdepth, Tokenizer.depthAfter, Token.endsValue]

theorem kinds_openParen (ha : a.token = .mark .openParen) (afterValue : Bool) (r : List Char) :
    Tokenizer.kinds ⟨0, afterValue⟩ (a.text ++ r) =
      (Tokenizer.kinds (Place.context ⟨1, false⟩ a.token) r).map (.mark .openParen :: ·) := by
  have hreads := a.reads
  rw [ha] at hreads
  have htoken := Scanner.tokenAfter_separator (r := r) (by decide) (Scanner.text_of_mark hreads)
    (Context.compares ⟨0, afterValue⟩) afterValue (by simp) (by simp)
  rw [a.kinds_text htoken, ha]
  rfl

theorem exists_enclosed (hL : L.tokens = parens us) (hus : RunsThrough us) :
    ∃ a M, L = a :: M ∧ a.token = .mark .openParen ∧
      Layout.tokens M = us ++ [.mark .closeParen] ∧
        Place.run? ⟨1, false⟩ (Layout.tokens M) = some ⟨0, true⟩ := by
  obtain ⟨a, M, rfl, ha, hM⟩ := List.map_eq_cons_iff.1 hL
  exact ⟨a, M, rfl, ha, hM, (congrArg _ hM).trans (run?_enclosed hus)⟩

variable {t : Namespaces}

theorem kinds_parens (hL : L.tokens = parens us) (hus : RunsThrough us) (hs : Separated s)
    (hlured : L.lured = false) (afterValue : Bool) :
    Tokenizer.kinds ⟨0, afterValue⟩ (L.text ++ s) =
      (Tokenizer.kinds ⟨0, true⟩ s).map (parens us ++ ·) := by
  obtain ⟨a, L, rfl, ha, hL, hrun⟩ := exists_enclosed hL hus
  have hclosed : (⟨1, false⟩ : Place).closed = closes a.token := by rw [ha]; rfl
  have hinner := kinds_of_not_lured hclosed hrun hs hlured
  rw [Layout.text_cons, List.append_assoc, kinds_openParen ha, hinner, hL, through_enclosed hus rfl]
  cases Tokenizer.kinds ⟨0, true⟩ s <;> rfl

theorem exists_parens_of_reads {vs : List Token}
    (h : Reads t .operand (.mark .openParen :: vs) e) :
    ∃ us, vs = us ++ [.mark .closeParen] ∧ Reads t .disjunction us e := by
  generalize hts : Token.mark .openParen :: vs = ts at h
  cases h with
  | enclosed h =>
    obtain ⟨-, rfl⟩ := List.cons.inj hts
    exact ⟨_, rfl, h⟩
  | iri h => cases h <;> cases hts
  | literal h =>
    cases h with
    | shorthand h =>
      obtain ⟨rfl, -⟩ := List.cons.inj hts
      cases h
    | _ => cases hts
  | _ => cases hts

theorem not_reads_of_lured (hL : L.tokens = parens us) (hus : RunsThrough us) (hs : Separated s)
    (hlured : L.lured) {afterValue : Bool} {ts vs : List Token}
    (hts : Tokenizer.kinds ⟨0, afterValue⟩ (L.text ++ s) = .ok ts) (hvs : vs <+: ts) :
    ¬ Reads t .operand vs e := by
  intro hreads
  obtain ⟨a, L, rfl, ha, hL, hrun⟩ := exists_enclosed hL hus
  have hclosed : (⟨1, false⟩ : Place).closed = closes a.token := by rw [ha]; rfl
  rw [Layout.text_cons, List.append_assoc, kinds_openParen ha] at hts
  obtain ⟨ts, hts', rfl⟩ := map_cons_eq_ok hts
  cases vs with
  | nil => cases runsThrough_of_reads hreads 0
  | cons tok vs =>
    obtain ⟨rfl, hvs'⟩ := List.cons_prefix_cons.1 hvs
    obtain ⟨ws, rfl, hws⟩ := exists_parens_of_reads hreads
    exact absurd (depth_pos_of_lured hclosed hrun hs hlured hts' hvs'
      (run?_enclosed (runsThrough_of_reads hws))) (by decide)

end LinkedRaces.QueryParser
