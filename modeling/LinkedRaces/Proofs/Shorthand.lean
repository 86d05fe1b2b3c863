import LinkedRaces.Proofs.Graph.Turtle.Unquoting
import LinkedRaces.Proofs.Query.Parser.QueryUnquoting
import LinkedRaces.Query.Parser.Forms

/-!
A number without quotes stands for the literal with its datatype, in documents and in queries. A
signed number does not where the token before it ends a value: the sign is an operator there, and
nothing that holds the number is read. That was meant for arithmetic, but behind a verb it keeps
signed numbers out.
-/

namespace LinkedRaces

open Tokenizer (kinds kinds_cons)

def EndsAt (cs : List Char) (ts : List Token) (rest : List Char) : Prop :=
  kinds .start (cs ++ rest) = (kinds (Context.start.through ts) rest).map (ts ++ ·)

namespace Numeral

variable {n : Numeral}

theorem legible_datatype (n : Numeral) : n.datatype.Legible := by
  unfold datatype
  split
  · decide
  · split <;> decide

theorem kinds_literal (n : Numeral) (x : Context) (rest : List Char) :
    kinds x (n.literal.display.toList ++ rest) =
      (kinds ⟨x.depth, true⟩ rest).map (n.literal.tokens Iri.token ++ ·) := by
  have hdisplay : n.literal.display.toList ++ rest =
      (Literal.quoted (String.ofList n.text)).toList ++
        '^' :: '^' :: '<' :: (n.datatype.text.toList ++ '>' :: rest) := by
    simp [literal, Literal.typed, Literal.display, Iri.display]
  have hmark : ∀ y : Context, ∀ cs, kinds y ('^' :: '^' :: cs) =
      (kinds (y.next (.mark .doubleCaret)) cs).map (.mark .doubleCaret :: ·) :=
    fun y cs => kinds_cons rfl
  rw [hdisplay, kinds_string _ (by simp), hmark,
    kinds_reference n.legible_datatype (Context.compares_of_afterValue rfl), String.ofList_toList]
  -- neither the string nor its datatype opens or closes a parenthesis
  have hcontext : ((x.next (.string (String.ofList n.text))).next (.mark .doubleCaret)).next
      (.iri n.datatype.text) = ⟨x.depth, true⟩ := rfl
  rw [hcontext]
  cases kinds ⟨x.depth, true⟩ rest <;> rfl

/-- A place in a text. A token ends in front of it, whether the number stands there with quotes or
without, and what is behind it does not go on with the number. -/
structure Place (n : Numeral) where
  before : List Char
  after : List Char
  tokens : List Token
  quoted : EndsAt before tokens (n.literal.display.toList ++ after)
  bare : EndsAt before tokens (n.text ++ after)
  ends : n.EndsBefore after

namespace Place

def quotedText (p : n.Place) : String :=
  String.ofList (p.before ++ (n.literal.display.toList ++ p.after))

def bareText (p : n.Place) : String := String.ofList (p.before ++ (n.text ++ p.after))

def Splits (p : n.Place) : Prop := n.Splits (Context.start.through p.tokens)

theorem unquoted (p : n.Place) {ts : Tokens} (h : tokenize p.quotedText.toList = .ok ts) :
    ∃ us, tokenize p.bareText.toList = .ok us ∧
      Unquoted n (Context.start.through p.tokens) ts us := by
  have hts := Tokenizer.kinds_start_eq_ok.2 ⟨ts, h, rfl⟩
  rw [quotedText, String.toList_ofList, p.quoted, kinds_literal] at hts
  cases hafter : kinds ⟨(Context.start.through p.tokens).depth, true⟩ p.after with
  | error e =>
    rw [hafter] at hts
    cases hts
  | ok after =>
    rw [hafter] at hts
    have hbare : kinds .start p.bareText.toList =
        .ok (p.tokens ++ (n.tokens (Context.start.through p.tokens) ++ after)) := by
      rw [bareText, String.toList_ofList, p.bare, n.kinds_text p.ends, hafter]
      rfl
    obtain ⟨us, hus, htokens⟩ := Tokenizer.kinds_start_eq_ok.1 hbare
    exact ⟨us, hus, .ahead p.tokens after (Except.ok.inj hts).symm htokens⟩

theorem readFrom_bareText (p : n.Place) {t t' : Namespaces} {triples : List Triple}
    (h : Turtle.readFrom t p.quotedText = (t', .ok triples)) :
    ¬ p.Splits ∧ Turtle.readFrom t p.bareText = (t', .ok triples) ∨
      p.Splits ∧ ∃ e, (Turtle.readFrom t p.bareText).2 = .error e := by
  unfold Turtle.readFrom at h
  split at h
  · cases h
  · next ts hts =>
    obtain ⟨us, hus, hunquoted⟩ := p.unquoted hts
    simp only [Turtle.readFrom, hus]
    exact Turtle.Reader.document_unquoted hunquoted h

theorem parseWith_bareText (p : n.Place) {t : Namespaces} {maxLimit : Nat} {q : Query}
    (h : Query.parseWith t maxLimit p.quotedText = .ok q) :
    ¬ p.Splits ∧ Query.parseWith t maxLimit p.bareText = .ok q ∨
      p.Splits ∧ ∃ e, Query.parseWith t maxLimit p.bareText = .error e := by
  unfold Query.parseWith at h
  split at h
  · cases h
  · next ts hts =>
    obtain ⟨us, hus, hunquoted⟩ := p.unquoted hts
    simp only [Query.parseWith, hus]
    refine (QueryParser.follows_query t maxLimit hunquoted q h).imp_left ?_
    rintro ⟨_, hq, hwhole, rfl⟩
    exact ⟨hwhole, hq⟩

end Place

/-- The numbers of the tokenizer are the numerals. As an object each stands for the literal with its
datatype. What is read with the literal in its place is read to the same with the number, unless
that has a sign behind a value. Then it is not read. -/
theorem read_without_quotes (t : Namespaces) :
    (∀ comparing afterValue c cs tok rest,
      Scanner.tokenAfter comparing afterValue c cs = .ok (tok, rest) → tok.isNumber →
        ∃ n : Numeral, c :: cs = n.text ++ rest ∧ n.token = tok ∧ n.EndsBefore rest) ∧
    ∀ n : Numeral,
      (∀ (text : List Char) (rest : Tokens),
        Turtle.Reader.object t (⟨n.token, text⟩ :: rest) =
            Tokens.took (.literal n.literal) ⟨n.token, text⟩ rest ∧
          QueryParser.object t (⟨n.token, text⟩ :: rest) =
            Tokens.took (.literal n.literal) ⟨n.token, text⟩ rest) ∧
      ∀ p : n.Place,
        (∀ t' triples, Turtle.readFrom t p.quotedText = (t', .ok triples) →
          (¬ p.Splits → Turtle.readFrom t p.bareText = (t', .ok triples)) ∧
            (p.Splits → ∃ e, (Turtle.readFrom t p.bareText).2 = .error e)) ∧
        ∀ maxLimit q, Query.parseWith t maxLimit p.quotedText = .ok q →
          (¬ p.Splits → Query.parseWith t maxLimit p.bareText = .ok q) ∧
            (p.Splits → ∃ e, Query.parseWith t maxLimit p.bareText = .error e) := by
  refine ⟨fun _ _ _ _ _ _ => Scanner.exists_numeral_of_tokenAfter, fun n => ⟨fun text rest => ?_,
    fun p => ⟨fun t' triples h => ?_, fun maxLimit q h => ?_⟩⟩⟩
  · have hliteral := n.shorthand?_token
    exact ⟨Turtle.Reader.object_of_shorthand hliteral text rest,
      QueryParser.object_of_shorthand hliteral text rest⟩
  · rcases p.readFrom_bareText h with ⟨hwhole, hread⟩ | ⟨hsplit, hfails⟩
    · exact ⟨fun _ => hread, fun hsplit => absurd hsplit hwhole⟩
    · exact ⟨absurd hsplit, fun _ => hfails⟩
  · rcases p.parseWith_bareText h with ⟨hwhole, hread⟩ | ⟨hsplit, hfails⟩
    · exact ⟨fun _ => hread, fun hsplit => absurd hsplit hwhole⟩
    · exact ⟨absurd hsplit, fun _ => hfails⟩

def minusFive : Numeral where
  sign := ['-']
  whole := ['5']
  fraction := []
  exponent := []
  isSign := .inr (.inr rfl)
  isDigits := List.forall_mem_singleton.2 rfl
  isFraction := .inl rfl
  isExponent := .inl rfl
  begins := .inl (by decide)

def listed : minusFive.Place where
  before := "<http://e/1> <http://e/level> 12 , ".toList
  after := [' ', '.']
  tokens := [.iri "http://e/1", .iri "http://e/level", .integer "12", .mark .comma]
  quoted := by
    unfold EndsAt
    decide +kernel
  bare := by
    unfold EndsAt
    decide +kernel
  ends := ⟨by rintro _ ⟨⟩; rfl, fun _ => rfl, fun _ _ => rfl⟩

def asked : minusFive.Place where
  before := "ASK \x7b ?race <http://e/level> 12 , ".toList
  after := [' ', '\x7d']
  tokens := [.word "ASK", .mark .openBrace, .var "race", .iri "http://e/level", .integer "12",
    .mark .comma]
  quoted := by
    unfold EndsAt
    decide +kernel
  bare := by
    unfold EndsAt
    decide +kernel
  ends := ⟨by rintro _ ⟨⟩; rfl, fun _ => rfl, fun _ _ => rfl⟩

def levels : List Literal :=
  [.typed "12" Vocabulary.xsdInteger, .typed "-5" Vocabulary.xsdInteger]

theorem read_without_quotes_levels :
    (Turtle.readFrom .empty listed.quotedText =
        (.empty, .ok (levels.map fun l => ⟨⟨"http://e/1"⟩, ⟨"http://e/level"⟩, .literal l⟩)) ∧
      ¬ listed.Splits ∧ listed.bareText = "<http://e/1> <http://e/level> 12 , -5 ." ∧
      Turtle.readFrom .empty listed.bareText =
        (.empty, .ok (levels.map fun l => ⟨⟨"http://e/1"⟩, ⟨"http://e/level"⟩, .literal l⟩))) ∧
    ∃ q, Query.parseWith .empty 100 asked.quotedText = .ok q ∧ ¬ asked.Splits ∧
      asked.bareText = "ASK \x7b ?race <http://e/level> 12 , -5 \x7d" ∧
      Query.parseWith .empty 100 asked.bareText = .ok q ∧
      q.group.required =
        levels.map fun l => ⟨.var "race", .iri ⟨"http://e/level"⟩, .literal l⟩ := by
  have hdocument : Turtle.readFrom .empty listed.quotedText =
      (.empty, .ok (levels.map fun l => ⟨⟨"http://e/1"⟩, ⟨"http://e/level"⟩, .literal l⟩)) := by
    decide +kernel
  have hquery : Query.parseWith .empty 100 asked.quotedText = .ok ⟨.ask,
      ⟨levels.map fun l => ⟨.var "race", .iri ⟨"http://e/level"⟩, .literal l⟩, [], []⟩,
      .ofLimit 100, .empty⟩ := by decide +kernel
  have hlisted : ¬ listed.Splits := by
    unfold Place.Splits
    decide +kernel
  have hasked : ¬ asked.Splits := by
    unfold Place.Splits
    decide +kernel
  refine ⟨⟨hdocument, hlisted, by decide +kernel, ?_⟩,
    _, hquery, hasked, by decide +kernel, ?_, rfl⟩
  · exact ((((read_without_quotes .empty).2 minusFive).2 listed).1 _ _ hdocument).1 hlisted
  · exact ((((read_without_quotes .empty).2 minusFive).2 asked).2 _ _ hquery).1 hasked

theorem read_minusFive_behind_verb :
    Turtle.read ("<http://e/1> <http://e/level> " ++ minusFive.literal.display ++ " .") =
        .ok [⟨⟨"http://e/1"⟩, ⟨"http://e/level"⟩,
          .literal (.typed "-5" Vocabulary.xsdInteger)⟩] ∧
      (∃ e, Turtle.read "<http://e/1> <http://e/level> -5 ." = .error e) ∧
      ∃ e, Query.parse "ASK \x7b ?race <http://e/level> -5 \x7d" = .error e := by
  refine ⟨by decide +kernel, ⟨.malformed .iri "-5 .".toList, by decide +kernel⟩, ?_⟩
  exact ⟨.malformed .object "-5 \x7d".toList, by decide +kernel⟩

end Numeral

end LinkedRaces
