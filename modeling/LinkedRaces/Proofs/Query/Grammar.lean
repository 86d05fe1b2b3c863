import LinkedRaces.Proofs.Lexical.Spelling
import LinkedRaces.Query.Basic
import LinkedRaces.Query.Parser.Forms

/-!
The queries of the grammar: where literals and variables may stand, and which names and counts can
be written. Apart from that, the IRIs and the language tags of a query have to be spellable.
-/

namespace LinkedRaces

namespace Term

def isLiteral : Term → Bool
  | literal _ => true
  | _ => false

def Named : Term → Prop
  | var name => IsVarName name
  | _ => True

def Spellable : Term → Prop
  | iri i => i.Legible
  | literal l => l.Legible
  | var _ => True

instance (t : Term) : Decidable t.Spellable :=
  match t with
  | iri i => inferInstanceAs (Decidable i.Legible)
  | literal l => inferInstanceAs (Decidable l.Legible)
  | var _ => isTrue trivial

theorem legible_of_spellable {t : Term} (hn : t.Named) (hs : t.Spellable) : t.Legible := by
  cases t with
  | iri i => exact hs
  | literal l => exact hs
  | var name => exact hn

end Term

def Expression.terms : Expression → List Term
  | .var _ | .bound _ => []
  | .const t => [t]
  | .not e | .regex e _ | .str e | .lang e | .isIri e | .isLiteral e => e.terms
  | .and a b | .or a b | .compare _ a b | .contains a b | .strStarts a b | .strEnds a b =>
    a.terms ++ b.terms

def Block.terms (b : Block) : List Term :=
  b.required.flatMap TriplePattern.terms ++ b.filters.flatMap Expression.terms

def Group.terms (g : Group) : List Term :=
  g.required.flatMap TriplePattern.terms ++ g.optionals.flatMap Block.terms ++
    g.filters.flatMap Expression.terms

def QueryForm.terms : QueryForm → List Term
  | .construct template => template.flatMap TriplePattern.terms
  | .describe resources => resources
  | .select _ | .ask => []

def Query.terms (q : Query) : List Term := q.form.terms ++ q.group.terms

structure TriplePattern.Grammatical (p : TriplePattern) : Prop where
  subject : p.subject.isLiteral = false
  predicate : p.predicate.isLiteral = false
  named : ∀ t ∈ p.terms, t.Named

namespace Expression

/-- Constants are no variables, names can be written, and patterns have flags that are known. -/
def Grammatical : Expression → Prop
  | var name | bound name => IsVarName name
  | const t => t.isVar = false
  | regex e p => e.Grammatical ∧ ∀ c ∈ p.flags.toList, c ∈ TextPattern.knownFlags
  | not e | str e | lang e | isIri e | isLiteral e => e.Grammatical
  | and a b | or a b | compare _ a b | contains a b | strStarts a b | strEnds a b =>
    a.Grammatical ∧ b.Grammatical

end Expression

structure Block.Grammatical (b : Block) : Prop where
  required : ∀ p ∈ b.required, p.Grammatical
  filters : ∀ e ∈ b.filters, e.Grammatical

structure Group.Grammatical (g : Group) : Prop where
  required : ∀ p ∈ g.required, p.Grammatical
  optionals : ∀ b ∈ g.optionals, b.Grammatical
  filters : ∀ e ∈ g.filters, e.Grammatical

theorem Group.grammatical_empty : Group.empty.Grammatical :=
  ⟨List.forall_mem_nil _, List.forall_mem_nil _, List.forall_mem_nil _⟩

def QueryForm.Grammatical : QueryForm → Prop
  | .select .all | .ask => True
  | .select (.vars names) => names ≠ [] ∧ names.Nodup ∧ ∀ name ∈ names, IsVarName name
  | .construct template => ∀ p ∈ template, p.Grammatical
  | .describe resources => ∀ t ∈ resources, t.isLiteral = false ∧ t.Named

structure Query.Grammatical (q : Query) : Prop where
  form : q.form.Grammatical
  group : q.group.Grammatical
  distinct : q.modifiers.distinct → ∃ p, q.form = .select p
  orderBy : ∀ k ∈ q.modifiers.orderBy, IsVarName k.var
  offset : q.modifiers.offset ≤ QueryParser.maxCount

end LinkedRaces
