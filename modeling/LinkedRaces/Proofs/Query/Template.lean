import LinkedRaces.Proofs.Lexical.LineBreaks
import LinkedRaces.Proofs.Query.Parser.Forms
import LinkedRaces.Proofs.Query.Parser.Template

/-!
A graph document in a query. Its lines of declarations are a prologue, and the triples below them
are a template: the query constructs what the document states.
-/

namespace LinkedRaces

open Tokenizer (kinds kinds_line kinds_blank kinds_cons kinds_nil)

/-- Declarations of prefixes and bases as queries have them, without dots. -/
inductive Prologue : List Token → Prop
  | nil : Prologue []
  | label {keyword : Token} {label reference : String} {ts : List Token} :
      keyword.isKeyword "PREFIX" → Prologue ts →
      Prologue (keyword :: .prefixed label "" :: .iri reference :: ts)
  | base {keyword : Token} {reference : String} {ts : List Token} :
      keyword.isKeyword "BASE" → Prologue ts → Prologue (keyword :: .iri reference :: ts)

namespace Prologue

variable {ts us : List Token}

theorem append (h : Prologue ts) (hus : Prologue us) : Prologue (ts ++ us) := by
  induction h with
  | nil => exact hus
  | label hkeyword _ ih => exact .label hkeyword ih
  | base hkeyword _ ih => exact .base hkeyword ih

theorem exists_word {keyword : String} {t : Token} (h : t.isKeyword keyword) :
    ∃ text, t = .word text := by
  cases t with
  | word text => exact ⟨text, rfl⟩
  | _ => cases h

theorem isKeyword_prefix_of_base {t : Token} (h : t.isKeyword "BASE") :
    t.isKeyword "PREFIX" = false := by
  obtain ⟨text, rfl⟩ := exists_word h
  have hbase : text.toList.map Char.toLower = "BASE".toList.map Char.toLower := by
    simpa [Token.isKeyword, Text.eqIgnoringCase] using h
  simp only [Token.isKeyword, Text.eqIgnoringCase, hbase]
  decide

theorem unsigned_head (h : Prologue ts) : ∀ t ∈ ts.head?, t.Unsigned := by
  cases h with
  | nil => simp
  | label hkeyword _ =>
    obtain ⟨text, rfl⟩ := exists_word hkeyword
    simp [Token.Unsigned]
  | base hkeyword _ =>
    obtain ⟨text, rfl⟩ := exists_word hkeyword
    simp [Token.Unsigned]

theorem mark_notMem (h : Prologue ts) (m : Mark) : .mark m ∉ ts := by
  induction h with
  | nil => simp
  | label hkeyword _ ih =>
    obtain ⟨text, rfl⟩ := exists_word hkeyword
    simpa using ih
  | base hkeyword _ ih =>
    obtain ⟨text, rfl⟩ := exists_word hkeyword
    simpa using ih

open Turtle.Reader (document directive?)
open QueryParser (prologue)

theorem document_label {x y z : Located} {label reference : String}
    (hx : x.token.isKeyword "PREFIX") (hy : y.token = .prefixed label "")
    (hz : z.token = .iri reference) (t : Namespaces) (rest : Tokens) :
    document t (x :: y :: z :: rest) = document (t.insert label (t.resolve reference).text) rest ∧
      prologue t (x :: y :: z :: rest) =
        prologue (t.insert label (t.resolve reference).text) rest := by
  obtain ⟨_, x⟩ := x
  obtain ⟨_, y⟩ := y
  obtain ⟨_, z⟩ := z
  obtain ⟨text, rfl⟩ := exists_word hx
  obtain rfl : _ = Token.prefixed label "" := hy
  obtain rfl : _ = Token.iri reference := hz
  have hdirective : directive? (.word text) = some (.declarePrefix false) := by
    have hkeyword : Token.isKeyword "PREFIX" (.word text) = true := hx
    simp [directive?, hkeyword]
  constructor
  · rw [document]
    simp only [hdirective]
    rfl
  · rw [prologue]
    simp only [hx, if_true]
    rfl

theorem document_base {x z : Located} {reference : String} (hx : x.token.isKeyword "BASE")
    (hz : z.token = .iri reference) (t : Namespaces) (rest : Tokens) :
    document t (x :: z :: rest) = document (t.setBase (t.resolve reference)) rest ∧
      prologue t (x :: z :: rest) = prologue (t.setBase (t.resolve reference)) rest := by
  obtain ⟨_, x⟩ := x
  obtain ⟨_, z⟩ := z
  obtain ⟨text, rfl⟩ := exists_word hx
  obtain rfl : _ = Token.iri reference := hz
  have hother := isKeyword_prefix_of_base hx
  have hdirective : directive? (.word text) = some (.declareBase false) := by
    have hkeyword : Token.isKeyword "BASE" (.word text) = true := hx
    simp [directive?, hkeyword, hother]
  constructor
  · rw [document]
    simp only [hdirective]
    rfl
  · rw [prologue]
    simp only [hx, hother, Bool.false_eq_true, if_false, if_true]
    rfl

theorem exists_table (h : Prologue ts) (t : Namespaces) :
    ∃ t', ∀ ls rest : Tokens, ls.map Located.token = ts →
      document t (ls ++ rest) = document t' rest ∧ prologue t (ls ++ rest) = prologue t' rest := by
  induction h generalizing t with
  | nil =>
    refine ⟨t, fun ls rest hls => ?_⟩
    obtain rfl := List.map_eq_nil_iff.1 hls
    exact ⟨rfl, rfl⟩
  | @label keyword label reference ts hkeyword _ ih =>
    obtain ⟨t', hread⟩ := ih (t.insert label (t.resolve reference).text)
    refine ⟨t', fun ls rest hls => ?_⟩
    obtain ⟨x, ls, rfl, rfl, h₁⟩ := List.map_eq_cons_iff.1 hls
    obtain ⟨y, ls, rfl, hy, h₂⟩ := List.map_eq_cons_iff.1 h₁
    obtain ⟨z, ls, rfl, hz, h₃⟩ := List.map_eq_cons_iff.1 h₂
    obtain ⟨hdocument, hprologue⟩ := document_label hkeyword hy hz t (ls ++ rest)
    obtain ⟨hdocument', hprologue'⟩ := hread ls rest h₃
    exact ⟨hdocument.trans hdocument', hprologue.trans hprologue'⟩
  | @base keyword reference ts hkeyword _ ih =>
    obtain ⟨t', hread⟩ := ih (t.setBase (t.resolve reference))
    refine ⟨t', fun ls rest hls => ?_⟩
    obtain ⟨x, ls, rfl, rfl, h₁⟩ := List.map_eq_cons_iff.1 hls
    obtain ⟨z, ls, rfl, hz, h₂⟩ := List.map_eq_cons_iff.1 h₁
    obtain ⟨hdocument, hprologue⟩ := document_base hkeyword hz t (ls ++ rest)
    obtain ⟨hdocument', hprologue'⟩ := hread ls rest h₂
    exact ⟨hdocument.trans hdocument', hprologue.trans hprologue'⟩

def Declares (line : String) : Prop :=
  ∃ ls, tokenize line.toList = .ok ls ∧ Prologue (ls.map Located.token)

theorem Declares.of_kinds {line : String} (h : kinds .start line.toList = .ok ts)
    (hts : Prologue ts) : Declares line := by
  obtain ⟨ls, htokenize, rfl⟩ := Tokenizer.kinds_start_eq_ok.1 h
  exact ⟨ls, htokenize, hts⟩

def preamble (lines : List String) : String := String.join (lines.map (· ++ "\n"))

theorem toList_preamble_cons (line : String) (lines : List String) :
    (preamble (line :: lines)).toList = line.toList ++ '\n' :: (preamble lines).toList := by
  simp [preamble, String.toList_join]

theorem exists_tokens {lines : List String} (h : ∀ line ∈ lines, Declares line)
    (afterValue : Bool) :
    ∃ ts afterValue', Prologue ts ∧ ∀ more,
      kinds ⟨0, afterValue⟩ ((preamble lines).toList ++ more) =
        (kinds ⟨0, afterValue'⟩ more).map (ts ++ ·) := by
  induction lines generalizing afterValue with
  | nil =>
    refine ⟨[], afterValue, .nil, fun more => ?_⟩
    change kinds ⟨0, afterValue⟩ more = _
    cases kinds ⟨0, afterValue⟩ more <;> rfl
  | cons line lines ih =>
    obtain ⟨⟨ls, htokenize, hline⟩, hlines⟩ := List.forall_mem_cons.1 h
    have hstart : kinds .start line.toList = .ok (ls.map Located.token) :=
      Tokenizer.kinds_start_eq_ok.2 ⟨ls, htokenize, rfl⟩
    have hkinds := Tokenizer.kinds_afterValue hstart hline.unsigned_head afterValue
    obtain ⟨afterLine, hcontext⟩ : ∃ afterLine,
        Context.through ⟨0, afterValue⟩ (ls.map Located.token) = ⟨0, afterLine⟩ := by
      have hdepth := Context.depth_through ⟨0, afterValue⟩ (hline.mark_notMem .openParen)
        (hline.mark_notMem .closeParen)
      exact ⟨_, congrArg (Context.mk · _) hdepth⟩
    obtain ⟨ts, afterValue', hts, hmore⟩ := ih hlines afterLine
    refine ⟨ls.map Located.token ++ ts, afterValue', hline.append hts, fun more => ?_⟩
    rw [toList_preamble_cons, List.append_assoc, List.cons_append, kinds_line hkinds, hcontext,
      hmore]
    cases kinds ⟨0, afterValue'⟩ more <;> simp [Except.map]

end Prologue

namespace Query

open Turtle.Reader (document Undirected)
open QueryParser (prologue constructForm groupThen nextIs)
open Prologue (Declares preamble)

def ofDocument (lines : List String) (block : String) : String :=
  preamble lines ++ " CONSTRUCT \x7b" ++ block ++ "\n\x7d WHERE \x7b\x7d"

def emptyWhere : List Token := [.word "WHERE", .mark .openBrace, .mark .closeBrace]

theorem kinds_emptyWhere (x : Context) :
    kinds x "\x7d WHERE \x7b\x7d".toList = .ok (.mark .closeBrace :: emptyWhere) := by
  have hblank : Text.isBlank ' ' := by decide
  have hmark (x : Context) {c : Char} {m : Mark} (hc : Scanner.start c = .mark m)
      (rest : List Char) :
      kinds x (c :: rest) = (kinds (x.next (.mark m)) rest).map (.mark m :: ·) :=
    kinds_cons (by simp only [Scanner.tokenAfter, hc])
  have hbare : Scanner.isBareWord "WHERE".toList := by decide
  have hnext : ∀ c ∈ " \x7b\x7d".toList.head?, Scanner.isWordChar c = false ∧ c ≠ ':' := by
    simp
    decide
  have htext : "\x7d WHERE \x7b\x7d".toList =
      '\x7d' :: ' ' :: ("WHERE".toList ++ " \x7b\x7d".toList) := by decide
  have hbraces : " \x7b\x7d".toList = [' ', '\x7b', '\x7d'] := by decide
  rw [htext, hmark _ (m := .closeBrace) (by decide), kinds_blank hblank, kinds_word hbare hnext,
    hbraces, kinds_blank hblank, hmark _ (m := .openBrace) (by decide),
    hmark _ (m := .closeBrace) (by decide), kinds_nil]
  rfl

theorem unsigned_of_document {t : Namespaces} {ls : Tokens} {triples : List Triple}
    (h : (document t ls).2 = .ok triples) : ∀ x ∈ (ls.map Located.token).head?, x.Unsigned := by
  cases ls with
  | nil => simp
  | cons x ls =>
    simp only [List.map_cons, List.head?_cons, Option.mem_some_iff, forall_eq']
    rw [document] at h
    cases hdirective : Turtle.Reader.directive? x.token with
    | some d =>
      cases hx : x.token with
      | tag text => trivial
      | word text => trivial
      | _ => simp [hx, Turtle.Reader.directive?, Token.isKeyword] at hdirective
    | none =>
      simp only [hdirective] at h
      cases hstatement : Turtle.Reader.statement t (x :: ls) with
      | error e => simp [hstatement] at h
      | ok r =>
        have hname := QueryParser.isName_of_statement hstatement
        cases hx : x.token with
        | iri body => trivial
        | prefixed label name => trivial
        | _ => simp [hx, QueryParser.IsName] at hname

theorem kinds_template {block : List Char} {ts : List Token} (h : kinds ⟨0, false⟩ block = .ok ts)
    (afterValue : Bool) :
    kinds ⟨0, afterValue⟩ (" CONSTRUCT \x7b".toList ++ block ++ "\n\x7d WHERE \x7b\x7d".toList) =
      .ok (.word "CONSTRUCT" :: .mark .openBrace :: (ts ++ .mark .closeBrace :: emptyWhere)) := by
  have hblank : Text.isBlank ' ' := by decide
  have htext : " CONSTRUCT \x7b".toList ++ block ++ "\n\x7d WHERE \x7b\x7d".toList =
      ' ' :: ("CONSTRUCT".toList ++
        ' ' :: '\x7b' :: (block ++ '\n' :: "\x7d WHERE \x7b\x7d".toList)) := by
    simp
  have hbare : Scanner.isBareWord "CONSTRUCT".toList := by decide
  have hnext (rest : List Char) :
      ∀ c ∈ (' ' :: rest).head?, Scanner.isWordChar c = false ∧ c ≠ ':' := by
    simp
    decide
  have hbrace (rest : List Char) : kinds (Context.next ⟨0, afterValue⟩ (.word "CONSTRUCT"))
      ('\x7b' :: rest) = (kinds ⟨0, false⟩ rest).map (.mark .openBrace :: ·) := kinds_cons rfl
  rw [htext, kinds_blank hblank, kinds_word hbare (hnext _), kinds_blank hblank]
  change Except.map _ (kinds (Context.next ⟨0, afterValue⟩ (.word "CONSTRUCT")) _) = _
  rw [hbrace, kinds_line h, kinds_emptyWhere]
  rfl

section

variable {t : Namespaces} {ls us : Tokens} {triples : List Triple}

theorem groupThen_empty {brace brace' : List Char} {α : Type} (f : Group → α) :
    groupThen t [⟨.mark .openBrace, brace⟩, ⟨.mark .closeBrace, brace'⟩] f =
      .ok (f .empty, []) := by
  have hparts : QueryParser.parts t false [⟨.mark .closeBrace, brace'⟩] =
      Tokens.took .empty ⟨.mark .closeBrace, brace'⟩ [] := by
    rw [QueryParser.parts]
    rfl
  simp only [groupThen, QueryParser.group, QueryParser.mark, Tokens.mark, if_true, Tokens.took,
    Reading.stay, bind, Except.bind, hparts]
  rfl

theorem constructForm_of_document (h : (document t ls).2 = .ok triples)
    (hundirected : Undirected (ls.map Located.token))
    (hus : us.map Located.token =
      .mark .openBrace :: (ls.map Located.token ++ .mark .closeBrace :: emptyWhere)) :
    constructForm t us = .ok ((.construct (triples.map Triple.pattern), .empty), []) := by
  obtain ⟨⟨_, brace⟩, us, rfl, rfl, hblock⟩ := List.map_eq_cons_iff.1 hus
  obtain ⟨⟨patterns, rest, hlt⟩, hr, hvalue, hrest⟩ :=
    QueryParser.templateParts_of_document ⟨hblock, hundirected.tail⟩ hundirected h
  obtain rfl : patterns = triples.map Triple.pattern := hvalue
  obtain ⟨⟨_, x⟩, rest, rfl, rfl, hx⟩ := List.map_eq_cons_iff.1 hrest
  obtain ⟨⟨_, y⟩, rest, rfl, rfl, hy⟩ := List.map_eq_cons_iff.1 hx
  obtain ⟨⟨_, z⟩, rfl, rfl⟩ := List.map_eq_singleton_iff.1 hy
  have hbrace : nextIs "WHERE" (⟨.mark .openBrace, brace⟩ :: us) = false := rfl
  have htemplate : QueryParser.template t (⟨.mark .openBrace, brace⟩ :: us) =
      .ok ⟨triples.map Triple.pattern,
        [⟨.word "WHERE", x⟩, ⟨.mark .openBrace, y⟩, ⟨.mark .closeBrace, z⟩],
        Nat.lt_succ_of_lt hlt⟩ := by
    simp only [QueryParser.template, QueryParser.mark, Tokens.mark, if_true, Tokens.took,
      Reading.stay, bind, Except.bind, hr]
    rfl
  simp only [constructForm, hbrace, Bool.false_eq_true, if_false, htemplate, bind, Except.bind,
    QueryParser.rejectDataset_where, QueryParser.nextIs_where, if_true,
    QueryParser.skipKeyword_where, groupThen_empty]

theorem query_of_document (h : (document t ls).2 = .ok triples)
    (hundirected : Undirected (ls.map Located.token))
    (hus : us.map Located.token = .word "CONSTRUCT" ::
      .mark .openBrace :: (ls.map Located.token ++ .mark .closeBrace :: emptyWhere))
    {t₀ : Namespaces} {ld : Tokens} (hprologue : prologue t₀ (ld ++ us) = prologue t us)
    (maxLimit : Nat) :
    QueryParser.query t₀ maxLimit (ld ++ us) =
      .ok ⟨.construct (triples.map Triple.pattern), .empty, .ofLimit maxLimit, t⟩ := by
  obtain ⟨⟨_, text⟩, us, rfl, rfl, hform⟩ := List.map_eq_cons_iff.1 hus
  have hstop : prologue t (⟨.word "CONSTRUCT", text⟩ :: us) =
      .ok (t, ⟨.word "CONSTRUCT", text⟩ :: us) := by
    rw [prologue]
    rfl
  have hkeyword : QueryParser.formKeyword? (.word "CONSTRUCT") = some .construct := by rfl
  have hread : QueryParser.form t (⟨.word "CONSTRUCT", text⟩ :: us) =
      .ok ((.construct (triples.map Triple.pattern), .empty, false), []) := by
    simp only [QueryParser.form, hkeyword, constructForm_of_document h hundirected hform, bind,
      Except.bind]
  simp only [QueryParser.query, hprologue, hstop, hread, QueryParser.modifiers_nil,
    QueryParser.finish, bind, Except.bind]
  rfl

end

theorem exists_document {lines : List String} {block : String} {triples : List Triple}
    {ds : List Token} {afterValue : Bool}
    (hkinds : ∀ more, kinds ⟨0, false⟩ ((preamble lines).toList ++ more) =
      (kinds ⟨0, afterValue⟩ more).map (ds ++ ·))
    (hread : Turtle.read (preamble lines ++ block) = .ok triples) :
    ∃ ld lb : Tokens, ld.map Located.token = ds ∧
      kinds ⟨0, afterValue⟩ block.toList = .ok (lb.map Located.token) ∧
      (document .empty (ld ++ lb)).2 = .ok triples := by
  unfold Turtle.read Turtle.readFrom at hread
  cases htokenize : tokenize (preamble lines ++ block).toList with
  | error e =>
    rw [htokenize] at hread
    cases hread
  | ok ls =>
    rw [htokenize] at hread
    have hls := Tokenizer.kinds_start_eq_ok.2 ⟨ls, htokenize, rfl⟩
    rw [String.toList_append] at hls
    have hsplit := (hkinds block.toList).symm.trans hls
    cases hbs : kinds ⟨0, afterValue⟩ block.toList with
    | error e => simp [hbs, Except.map] at hsplit
    | ok bs =>
      have happend : ls.map Located.token = ds ++ bs := by
        simpa [hbs, Except.map, eq_comm] using hsplit
      obtain ⟨ld, lb, rfl, hld, rfl⟩ := List.map_eq_append_iff.1 happend
      exact ⟨ld, lb, hld, rfl, hread⟩

/-- A document that is read is a template that is read, with the triples as patterns in their order.
The lines declare prefixes and bases; the block below them has no directives of its own. -/
theorem parseWith_ofDocument {lines : List String} {block : String} {triples : List Triple}
    (hlines : ∀ line ∈ lines, Declares line)
    (hblock : ∀ ls, tokenize block.toList = .ok ls → Undirected (ls.map Located.token))
    (hread : Turtle.read (preamble lines ++ block) = .ok triples) (maxLimit : Nat) :
    ∃ q, parseWith .empty maxLimit (ofDocument lines block) = .ok q ∧
      q.form = .construct (triples.map Triple.pattern) := by
  obtain ⟨ds, afterValue, hds, hkinds⟩ := Prologue.exists_tokens hlines false
  obtain ⟨t, htable⟩ := hds.exists_table .empty
  obtain ⟨ld, lb, hld, hlb, hdocument⟩ := exists_document hkinds hread
  rw [(htable ld lb hld).1] at hdocument
  have hplain := Tokenizer.kinds_afterValue hlb (unsigned_of_document hdocument) false
  have hundirected : Undirected (lb.map Located.token) := by
    obtain ⟨ls, htokenize, hls⟩ := Tokenizer.kinds_start_eq_ok.1 hplain
    exact hls ▸ hblock ls htokenize
  -- the query has the same tokens, with the words of the form around those of the block
  have htext : (ofDocument lines block).toList = (preamble lines).toList ++
      (" CONSTRUCT \x7b".toList ++ block.toList ++ "\n\x7d WHERE \x7b\x7d".toList) := by
    simp [ofDocument]
  have hquery := (hkinds _).trans (congrArg _ (kinds_template hplain afterValue))
  rw [← htext] at hquery
  obtain ⟨us, htokenize, hus⟩ := Tokenizer.kinds_start_eq_ok.1 hquery
  obtain ⟨ud, ub, rfl, hud, hub⟩ := List.map_eq_append_iff.1 hus
  have hparse := query_of_document hdocument hundirected hub (htable ud ub hud).2 maxLimit
  exact ⟨_, by simp only [parseWith, htokenize]; exact hparse, rfl⟩

def raceLines : List String :=
  ["PREFIX e: <http://e/>", "# races", "base <http://e/races/> Prefix : <#>"]

def raceBlock : String := "<1> a e:Race ; :length 42.2, true ;; .\n:2 e:name 'Coupe'@prefix ."

def raceTriples : List Triple :=
  [⟨⟨"http://e/races/1"⟩, Vocabulary.rdfType, .iri ⟨"http://e/Race"⟩⟩,
    ⟨⟨"http://e/races/1"⟩, ⟨"http://e/races/#length"⟩,
      .literal (.typed "42.2" Vocabulary.xsdDecimal)⟩,
    ⟨⟨"http://e/races/1"⟩, ⟨"http://e/races/#length"⟩,
      .literal (.typed "true" Vocabulary.xsdBoolean)⟩,
    ⟨⟨"http://e/races/#2"⟩, ⟨"http://e/name"⟩, .literal (.tagged "Coupe" "prefix")⟩]

theorem parseWith_ofDocument_races :
    ((∀ line ∈ raceLines, Declares line) ∧
      (∀ ls, tokenize raceBlock.toList = .ok ls → Undirected (ls.map Located.token)) ∧
      Turtle.read (preamble raceLines ++ raceBlock) = .ok raceTriples) ∧
    ∃ q, parseWith .empty 100 (ofDocument raceLines raceBlock) = .ok q ∧
      q.form = .construct (raceTriples.map Triple.pattern) := by
  have hfirst : kinds .start "PREFIX e: <http://e/>".toList =
      .ok [.word "PREFIX", .prefixed "e" "", .iri "http://e/"] := by decide +kernel
  have hcomment : kinds .start "# races".toList = .ok [] := by decide +kernel
  have hlast : kinds .start "base <http://e/races/> Prefix : <#>".toList =
      .ok [.word "base", .iri "http://e/races/", .word "Prefix", .prefixed "" "", .iri "#"] := by
    decide +kernel
  have hlines : ∀ line ∈ raceLines, Declares line := by
    simp only [raceLines, List.forall_mem_cons]
    refine ⟨?_, ?_, ?_, nofun⟩
    · exact .of_kinds hfirst (.label (by decide) .nil)
    · exact .of_kinds hcomment .nil
    · exact .of_kinds hlast (.base (by decide) (.label (by decide) .nil))
  have hblock : ∀ ls, tokenize raceBlock.toList = .ok ls → Undirected (ls.map Located.token) := by
    have hundirected : ((tokenize raceBlock.toList).toOption.all fun ls =>
        decide (Undirected (ls.map Located.token))) = true := by decide +kernel
    intro ls hls
    simpa [hls, Except.toOption] using hundirected
  have hread : Turtle.read (preamble raceLines ++ raceBlock) = .ok raceTriples := by decide +kernel
  exact ⟨⟨hlines, hblock, hread⟩, parseWith_ofDocument hlines hblock hread 100⟩

end Query

end LinkedRaces
