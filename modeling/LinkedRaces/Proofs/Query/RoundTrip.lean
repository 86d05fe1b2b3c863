import LinkedRaces.Proofs.Query.Lexing
import LinkedRaces.Proofs.Query.Parser.Forms
import LinkedRaces.Proofs.Query.Parser.QuerySoundness

/-! A query that was parsed is parsed again from its text. -/

namespace LinkedRaces.Query

variable {t t₀ : Namespaces} {maxLimit maxLimit₀ : Nat} {source : String} {q : Query}

theorem ensures_parseWith (t : Namespaces) (maxLimit : Nat) (source : String) :
    Ensures (parseWith t maxLimit source) fun q =>
      q.Grammatical ∧ QueryParser.ModifiersBounded maxLimit q.modifiers := by
  unfold parseWith
  split
  · exact .error _
  · next ts hts => exact QueryParser.ensures_query t maxLimit ts (named_tokenize _ ts hts)

theorem parseWith_text_of_grammatical (h : q.Grammatical) (hs : ∀ c ∈ q.terms, c.Spellable)
    (hlimit : q.modifiers.limit ≤ maxLimit) (hmax : maxLimit ≤ QueryParser.maxCount)
    (ht : t.base = none) : parseWith t maxLimit q.text = .ok { q with namespaces := t } := by
  obtain ⟨ls, htokenize, hls⟩ := tokenize_text h hs
  have hquery := QueryParser.query_words h ht hmax hlimit hls
  simp only [parseWith, htokenize, hquery]

/-- Parsing undoes printing. Limits are words of the machine, and the table that the text is read
with has no base; it may have any prefixes. -/
theorem parseWith_text (hq : parseWith t₀ maxLimit₀ source = .ok q)
    (hs : ∀ c ∈ q.terms, c.Spellable) (hlimit : q.modifiers.limit ≤ maxLimit)
    (hmax : maxLimit ≤ QueryParser.maxCount) (ht : t.base = none) :
    parseWith t maxLimit q.text = .ok { q with namespaces := t } := by
  have hgrammatical := (ensures_parseWith t₀ maxLimit₀ source q hq).1
  exact parseWith_text_of_grammatical hgrammatical hs hlimit hmax ht

def cups : Query where
  form := .select (.vars ["r"])
  group :=
    { required :=
        [⟨.var "r", .iri Vocabulary.rdfType, .iri ⟨"http://e/Race"⟩⟩,
          ⟨.var "r", .iri ⟨"http://e/name"⟩, .literal (.tagged "Cup" "EN")⟩]
      optionals := [⟨[⟨.var "r", .iri ⟨"http://e/year"⟩, .var "y"⟩], []⟩]
      filters := [] }
  modifiers := ⟨true, [⟨"y", false⟩], 20, 0⟩
  namespaces := Namespaces.wellKnown.insert "e" "http://e/"

def cupsSource : String :=
  "PREFIX e: <http://e/> SELECT DISTINCT ?r \x7b ?r a e:Race ; e:name 'Cup'@EN " ++
    "OPTIONAL \x7b ?r e:year ?y \x7d \x7d ORDER BY DESC(?y) LIMIT 20"

theorem parseWith_text_cups :
    (parseWith .wellKnown 100 cupsSource = .ok cups ∧ (∀ c ∈ cups.terms, c.Spellable) ∧
      cups.modifiers.limit ≤ 100 ∧ 100 ≤ QueryParser.maxCount ∧ Namespaces.empty.base = none) ∧
    parseWith .empty 100 cups.text = .ok { cups with namespaces := .empty } := by
  have hparse : parseWith .wellKnown 100 cupsSource = .ok cups := by decide +kernel
  have hs : ∀ c ∈ cups.terms, c.Spellable := by decide +kernel
  have hlimit : cups.modifiers.limit ≤ 100 := by decide
  have hmax : 100 ≤ QueryParser.maxCount := by decide
  exact ⟨⟨hparse, hs, hlimit, hmax, rfl⟩, parseWith_text hparse hs hlimit hmax rfl⟩

example : cups.text =
    "SELECT DISTINCT ?r WHERE \x7b ?r <http://www.w3.org/1999/02/22-rdf-syntax-ns#type> " ++
      "<http://e/Race> . ?r <http://e/name> \"Cup\"@en . " ++
      "OPTIONAL \x7b ?r <http://e/year> ?y . \x7d \x7d ORDER BY DESC ( ?y ) LIMIT 20 OFFSET 0" := by
  decide +kernel

end LinkedRaces.Query
