import LinkedRaces.Proofs.Lexical.Recasing
import LinkedRaces.Proofs.Query.Parser.PromptForms

/-!
Small and capital letters in the words of queries. All words but three are keywords in any case: not
`a`, which states a class, and not the two booleans.
-/

namespace LinkedRaces.Query

open QueryParser

variable {t : Namespaces} {maxLimit : Nat} {text text' : String} {ts : Tokens}

/-- In whatever letters the words of a text are, outside of these three, it has tokens that are
alike one by one, and is the same query, or has the same error at the same token. -/
theorem parseWith_recasing (h : tokenize text.toList = .ok ts)
    (hcase : Recasing ts text.toList text'.toList) :
    ∃ us, tokenize text'.toList = .ok us ∧ AllAlike ts us ∧
      SameOutcome ts us (parseWith t maxLimit text) (parseWith t maxLimit text') := by
  obtain ⟨us, hus, halike⟩ := Tokenizer.tokensFrom_recasing h hcase
  refine ⟨us, hus, halike, ?_⟩
  rw [parseWith_of_tokenize h, parseWith_of_tokenize hus]
  exact sameOutcome_query t maxLimit halike

theorem parseWith_recasing_order :
    let text := "select Distinct ?s Where \x7b ?s a ?o \x7d order by desc(?o) limit 5"
    let text' := "SELECT dISTINCT ?s where \x7b ?s a ?o \x7d ORDER By DESC(?o) LiMiT 5"
    let q : Query := ⟨.select (.vars ["s"]),
      ⟨[⟨.var "s", .iri Vocabulary.rdfType, .var "o"⟩], [], []⟩,
      ⟨true, [⟨"o", false⟩], 5, 0⟩, .wellKnown⟩
    ∃ ts, tokenize text.toList = .ok ts ∧ Recasing ts text.toList text'.toList ∧
      parse text = .ok q ∧ parse text' = .ok q := by
  intro text text' q
  let ts := (tokenize text.toList).toOption.getD []
  have htokens : tokenize text.toList = .ok ts := by decide +kernel
  have hcase : Recasing ts text.toList text'.toList := by decide +kernel
  have hq : parse text = .ok q := by decide +kernel
  refine ⟨ts, htokens, hcase, hq, ?_⟩
  obtain ⟨us, -, -, hsame⟩ := parseWith_recasing htokens hcase
  change SameOutcome ts us (parse text) (parse text') at hsame
  rw [hq] at hsame
  generalize parse text' = r at hsame
  cases hsame
  rfl

end LinkedRaces.Query
