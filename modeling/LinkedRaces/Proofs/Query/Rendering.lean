import LinkedRaces.Proofs.Lexical.Spelling
import LinkedRaces.Query.Basic

/-!
Queries as text, in one way: every word stands behind one blank, IRIs are written in full, operands
with operators stand in parentheses, and a group has its patterns first, then its blocks, then its
filters. The text is read as the tokens of its words.
-/

namespace LinkedRaces

inductive Word
  | term (t : Term)
  | mark (m : Mark)
  | name (text : String)
  | count (n : Nat)

namespace Word

def text : Word → String
  | term t => t.display
  | mark m => m.text
  | name text => text
  | count n => toString n

def tokens : Word → List Token
  | term t => t.tokens Iri.token
  | mark m => [.mark m]
  | name text => [.word text]
  | count n => [.integer (toString n)]

def string (value : String) : Word := .term (.literal (.plain value))

def var (name : String) : Word := .term (.var name)

end Word

namespace Words

def text (ws : List Word) : String := Text.join " " (ws.map Word.text)

def tokens (ws : List Word) : List Token := ws.flatMap Word.tokens

def parens (ws : List Word) : List Word := .mark .openParen :: (ws ++ [.mark .closeParen])

def braces (ws : List Word) : List Word := .mark .openBrace :: (ws ++ [.mark .closeBrace])

@[simp] theorem tokens_nil : tokens [] = [] := rfl

@[simp] theorem tokens_cons (w : Word) (ws : List Word) :
    tokens (w :: ws) = w.tokens ++ tokens ws := rfl

@[simp] theorem tokens_append (ws vs : List Word) :
    tokens (ws ++ vs) = tokens ws ++ tokens vs := by
  simp [tokens]

end Words

open Words (parens braces)

namespace Comparison

def mark : Comparison → Mark
  | equal => .equal
  | notEqual => .notEqual
  | less => .less
  | greater => .greater
  | atMost => .atMost
  | atLeast => .atLeast

end Comparison

namespace Expression

def isCompound : Expression → Bool
  | not _ | and .. | or .. | compare .. => true
  | _ => false

def enclose (e : Expression) (ws : List Word) : List Word := if e.isCompound then parens ws else ws

def words : Expression → List Word
  | var name => [.var name]
  | const t => [.term t]
  | bound name => .name "bound" :: parens [.var name]
  | not e => .mark .bang :: e.enclose e.words
  | and a b => a.enclose a.words ++ .mark .and :: b.enclose b.words
  | or a b => a.enclose a.words ++ .mark .or :: b.enclose b.words
  | compare op a b => a.enclose a.words ++ .mark op.mark :: b.enclose b.words
  | regex e p => .name "regex" :: parens (e.words ++ .mark .comma :: .string p.pattern ::
      if p.flags.isEmpty then [] else [.mark .comma, .string p.flags])
  | contains a b => .name "contains" :: parens (a.words ++ .mark .comma :: b.words)
  | strStarts a b => .name "strstarts" :: parens (a.words ++ .mark .comma :: b.words)
  | strEnds a b => .name "strends" :: parens (a.words ++ .mark .comma :: b.words)
  | str e => .name "str" :: parens e.words
  | lang e => .name "lang" :: parens e.words
  | isIri e => .name "isiri" :: parens e.words
  | isLiteral e => .name "isliteral" :: parens e.words

def operandWords (e : Expression) : List Word := e.enclose e.words

end Expression

def TriplePattern.words (p : TriplePattern) : List Word :=
  [.term p.subject, .term p.predicate, .term p.object, .mark .dot]

def filterWords (e : Expression) : List Word := .name "FILTER" :: parens e.words

def Block.words (b : Block) : List Word :=
  .name "OPTIONAL" ::
    braces (b.required.flatMap TriplePattern.words ++ b.filters.flatMap filterWords)

def Group.words (g : Group) : List Word :=
  braces (g.required.flatMap TriplePattern.words ++
    (g.optionals.flatMap Block.words ++ g.filters.flatMap filterWords))

def Projection.words : Projection → List Word
  | all => [.mark .star]
  | vars names => names.map .var

def resourceWords : List Term → List Word
  | [] => [.mark .star]
  | resources => resources.map .term

def QueryForm.words (distinct : Bool) : QueryForm → List Word
  | select p => .name "SELECT" :: ((if distinct then [.name "DISTINCT"] else []) ++ p.words)
  | construct template => .name "CONSTRUCT" :: braces (template.flatMap TriplePattern.words)
  | ask => [.name "ASK"]
  | describe resources => .name "DESCRIBE" :: resourceWords resources

def OrderKey.words (k : OrderKey) : List Word :=
  .name (if k.ascending then "ASC" else "DESC") :: parens [.var k.var]

def orderWords : List OrderKey → List Word
  | [] => []
  | keys => .name "ORDER" :: .name "BY" :: keys.flatMap OrderKey.words

def Modifiers.words (m : Modifiers) : List Word :=
  orderWords m.orderBy ++
    [.name "LIMIT", .count m.limit, .name "OFFSET", .count m.offset]

namespace Query

def words (q : Query) : List Word :=
  q.form.words q.modifiers.distinct ++ .name "WHERE" :: (q.group.words ++ q.modifiers.words)

def text (q : Query) : String := Words.text q.words

end Query

end LinkedRaces
