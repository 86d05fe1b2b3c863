import LinkedRaces.Proofs.Lexical.Cursor.Spans
import LinkedRaces.Proofs.Lexical.Lexing
import LinkedRaces.Proofs.Query.Parser.PromptForms

/-!
The places of syntax errors. The text that an error carries begins at a token, or is empty at the
end of the input, and no query begins with the tokens up to and including that one. It is otherwise
where the input ends too early in one of five places: then the error carries the last token, which
is in order.

That text is cut out at the byte that a token begins with, and what is quoted of it is cut off
behind a number of characters. All of these are boundaries between characters.
-/

namespace LinkedRaces

open Text (RestAt utf8Size)

theorem exists_alike_of_take {taken rest ls : Tokens}
    (h : (ls.take (taken.length + 1)).map Located.token =
      ((taken ++ rest).take (taken.length + 1)).map Located.token) :
    ∃ taken' rest', ls = taken' ++ rest' ∧ AllAlike taken taken' ∧ NextAlike rest rest' := by
  refine ⟨ls.take taken.length, ls.drop taken.length, (List.take_append_drop _ _).symm,
    allAlike_of_tokens ?_, ?_⟩
  · have := congrArg (List.take taken.length) h
    simpa [← List.map_take, List.take_take] using this
  · have hnext : ((ls.drop taken.length).take 1).map Located.token =
        (rest.take 1).map Located.token := by
      have := congrArg (List.drop taken.length) h
      simpa [← List.map_drop, List.drop_take, List.take_append] using this
    cases rest with
    | nil =>
      have hnil : ls.drop taken.length = [] := by simpa using hnext
      rw [hnil]
      trivial
    | cons x rest =>
      cases hls : ls.drop taken.length with
      | nil => simp [hls] at hnext
      | cons y us =>
        have hy : y.token = x.token := by simpa [hls] using hnext
        exact .cons (hy ▸ .refl _)

namespace Query

open QueryParser

variable {t : Namespaces} {maxLimit : Nat} {text : String} {ts : Tokens}

/-- No query begins with the first tokens of `ts`, the one behind `k` others being the last. If `k`
is the number of tokens, the end of the input belongs to them. -/
def NoneFrom (t : Namespaces) (maxLimit : Nat) (ts : Tokens) (k : Nat) : Prop :=
  ∀ text ls, tokenize text.toList = .ok ls →
    (ls.take (k + 1)).map Located.token = (ts.take (k + 1)).map Located.token →
    ∀ q, parseWith t maxLimit text ≠ .ok q

theorem noneFrom_of_error {taken rest : Tokens}
    (h : ∀ taken' rest', AllAlike taken taken' → NextAlike rest rest' →
      ∃ e, (query t maxLimit (taken' ++ rest')).map (·, ([] : Tokens)) = .error e) :
    NoneFrom t maxLimit (taken ++ rest) taken.length := by
  intro text ls hls htake q hq
  obtain ⟨taken', rest', rfl, htaken, hrest⟩ := exists_alike_of_take htake
  obtain ⟨e, he⟩ := h taken' rest' htaken hrest
  rw [parseWith_of_tokenize hls] at hq
  rw [hq] at he
  cases he

inductive Ending (t : Namespaces) (maxLimit : Nat) (ts : Tokens) : Except QueryError Query → Prop
  | reads (q : Query) : Ending t maxLimit ts (.ok q)
  | fails (fault : QueryFault) (k : Nat) (hk : k ≤ ts.length) (hnone : NoneFrom t maxLimit ts k) :
    Ending t maxLimit ts (.error (failure fault (ts.drop k)))
  | stepsBack (fault : QueryFault) (k : Nat) (x : Located) (last : ts.drop k = [x])
    (back : StepsBack fault x.token) : Ending t maxLimit ts (.error (failure fault (ts.drop k)))
  | refuses (feature : QueryFeature) (k : Nat) (hk : k < ts.length)
    (hnone : NoneFrom t maxLimit ts k) : Ending t maxLimit ts (.error (.unsupported feature))

theorem ending_query (t : Namespaces) (maxLimit : Nat) (ts : Tokens) :
    Ending t maxLimit ts (query t maxLimit ts) := by
  have herror {e : QueryError} (h : (query t maxLimit ts).map (·, ([] : Tokens)) = .error e) :
      query t maxLimit ts = .error e :=
    map_nil_injective (s := .error e) h
  cases prompt_query t maxLimit ts with
  | @ok taken rest p holds same =>
    have h := same taken rest (.refl _) (.refl _)
    cases hq : query t maxLimit (taken ++ rest) with
    | error e =>
      rw [hq] at h
      cases h
    | ok q => exact .reads q
  | @fails taken rest fault same =>
    have hdrop : (taken ++ rest).drop taken.length = rest := List.drop_left
    rw [herror (same taken rest (.refl _) (.refl _))]
    nth_rewrite 2 [← hdrop]
    exact .fails fault taken.length (by simp)
      (noneFrom_of_error fun taken' rest' htaken hrest => ⟨_, same taken' rest' htaken hrest⟩)
  | @stepsBack taken last fault back same =>
    have hdrop : (taken ++ [last]).drop taken.length = [last] := List.drop_left
    rw [herror (same taken last (.refl _) (.refl _))]
    nth_rewrite 2 [← hdrop]
    exact .stepsBack fault taken.length last hdrop back
  | @refuses taken rest more refused same =>
    obtain ⟨feature, h⟩ := refused taken rest (.refl _) (.refl _)
    rw [herror h]
    refine .refuses feature taken.length ?_
      (noneFrom_of_error fun taken' rest' htaken hrest => ?_)
    · have := List.length_pos_iff.2 more
      rw [List.length_append]
      omega
    · obtain ⟨feature, h⟩ := refused taken' rest' htaken hrest
      exact ⟨_, h⟩

theorem noneFrom_begins {k : Nat} (hnone : NoneFrom t maxLimit ts k) (hk : k < ts.length)
    {ls : Tokens} (hls : tokenize text.toList = .ok ls)
    (hbegins : ts.map Located.token <+: ls.map Located.token) (q : Query) :
    parseWith t maxLimit text ≠ .ok q := by
  refine hnone text ls hls ?_ q
  obtain ⟨us, hus⟩ := hbegins
  rw [List.map_take, List.map_take, ← hus, List.take_append_of_le_length (by simp; omega)]

/-- Where syntax errors are. The text that an error carries begins at one of the tokens or at the
end of the input, and only there. No query begins with the tokens up to and including that place,
unless the error is put at the last token instead of the end behind it. So the error of a query that
is cut off carries nothing, or the last token. -/
theorem parseWith_error_place (h : tokenize text.toList = .ok ts) :
    (∀ fault fragment, parseWith t maxLimit text = .error (.malformed fault fragment) →
      ∃ k ≤ ts.length, (∀ j ≤ ts.length, fragment = textFrom (ts.drop j) ↔ j = k) ∧
        (NoneFrom t maxLimit ts k ∨ ∃ x, ts.drop k = [x] ∧ StepsBack fault x.token)) ∧
    (∀ whole ls q, tokenize whole.toList = .ok ls →
      ts.map Located.token <+: ls.map Located.token → parseWith t maxLimit whole = .ok q →
      ∀ e, parseWith t maxLimit text = .error e →
        ∃ fault, e = .malformed fault [] ∨
          ∃ x, ts.getLast? = some x ∧ StepsBack fault x.token ∧ e = .malformed fault x.text) := by
  have honly {k : Nat} (hk : k ≤ ts.length) (j : Nat) (hj : j ≤ ts.length) :
      textFrom (ts.drop k) = textFrom (ts.drop j) ↔ j = k :=
    ⟨fun heq => (textFrom_drop_injective h hk hj heq).symm, fun heq => by rw [heq]⟩
  rw [parseWith_of_tokenize h]
  have hending := ending_query t maxLimit ts
  generalize query t maxLimit ts = r at hending
  refine ⟨fun fault fragment he => ?_, fun whole ls q hls hbegins hq e he => ?_⟩
  · subst he
    cases hending with
    | fails _ k hk hnone => exact ⟨k, hk, honly hk, .inl hnone⟩
    | stepsBack _ k x hlast hback =>
      have hk : k ≤ ts.length := by
        have := congrArg List.length hlast
        simp only [List.length_drop, List.length_singleton] at this
        omega
      exact ⟨k, hk, honly hk, .inr ⟨x, hlast, hback⟩⟩
  · subst he
    cases hending with
    | fails fault k hk hnone =>
      rcases Nat.lt_or_eq_of_le hk with hk | rfl
      · exact absurd hq (noneFrom_begins hnone hk hls hbegins q)
      · exact ⟨fault, .inl (by rw [List.drop_length]; rfl)⟩
    | stepsBack fault k x hlast hback =>
      refine ⟨fault, .inr ⟨x, ?_, hback, by rw [hlast]; rfl⟩⟩
      rw [← List.take_append_drop k ts, hlast, List.getLast?_concat]
    | refuses feature k hk hnone =>
      exact absurd hq (noneFrom_begins hnone hk hls hbegins q)

theorem parseWith_error_place_object :
    let ts : Tokens := [⟨.word "ASK", "ASK \x7b ?s ?p \x7d".toList⟩,
      ⟨.mark .openBrace, "\x7b ?s ?p \x7d".toList⟩, ⟨.var "s", "?s ?p \x7d".toList⟩,
      ⟨.var "p", "?p \x7d".toList⟩, ⟨.mark .closeBrace, "\x7d".toList⟩]
    tokenize "ASK \x7b ?s ?p \x7d".toList = .ok ts ∧
      parse "ASK \x7b ?s ?p \x7d" = .error (.malformed .object ['\x7d']) ∧
      NoneFrom .wellKnown defaultLimit ts 4 ∧
      ∃ fault, parse "ASK \x7b ?s ?p" = .error (.malformed fault []) := by
  intro ts
  have htokens : tokenize "ASK \x7b ?s ?p \x7d".toList = .ok ts := by decide +kernel
  have herror : parse "ASK \x7b ?s ?p \x7d" = .error (.malformed .object ['\x7d']) := by
    decide +kernel
  refine ⟨htokens, herror, ?_, ?_⟩
  · obtain ⟨k, -, hk, hnone | ⟨x, -, hback⟩⟩ := (parseWith_error_place htokens).1 _ _ herror
    · exact (hk 4 (by decide)).1 rfl ▸ hnone
    · cases hback
  · let cut : Tokens := [⟨.word "ASK", "ASK \x7b ?s ?p".toList⟩,
      ⟨.mark .openBrace, "\x7b ?s ?p".toList⟩, ⟨.var "s", "?s ?p".toList⟩,
      ⟨.var "p", "?p".toList⟩]
    let whole : Tokens := [⟨.word "ASK", "ASK \x7b ?s ?p ?o \x7d".toList⟩,
      ⟨.mark .openBrace, "\x7b ?s ?p ?o \x7d".toList⟩, ⟨.var "s", "?s ?p ?o \x7d".toList⟩,
      ⟨.var "p", "?p ?o \x7d".toList⟩, ⟨.var "o", "?o \x7d".toList⟩,
      ⟨.mark .closeBrace, "\x7d".toList⟩]
    have hcut : tokenize "ASK \x7b ?s ?p".toList = .ok cut := by decide +kernel
    have hwhole : tokenize "ASK \x7b ?s ?p ?o \x7d".toList = .ok whole := by decide +kernel
    have hreads : parse "ASK \x7b ?s ?p ?o \x7d" =
        .ok ⟨.ask, ⟨[⟨.var "s", .var "p", .var "o"⟩], [], []⟩, .ofLimit defaultLimit,
          .wellKnown⟩ := by
      decide +kernel
    have hfails : parse "ASK \x7b ?s ?p" = .error (.malformed .object []) := by decide +kernel
    obtain ⟨fault, he | ⟨x, hx, hback, -⟩⟩ := (parseWith_error_place hcut).2 _ whole _ hwhole
      ⟨[.var "o", .mark .closeBrace], rfl⟩ hreads _ hfails
    · exact ⟨fault, hfails.trans (congrArg _ he)⟩
    · cases hx
      cases hback <;> contradiction

/-- Behind a keyword of the prologue the end of the input is not blamed, but the keyword, which is
in order. -/
theorem parse_error_before_end :
    ∃ ts ls q, tokenize "PREFIX".toList = .ok ts ∧
      tokenize "PREFIX ex: <a> ASK \x7b\x7d".toList = .ok ls ∧
      ts.map Located.token <+: ls.map Located.token ∧
      parse "PREFIX" = .error (.malformed .prefixName (textFrom ts)) ∧ textFrom ts ≠ [] ∧
      parse "PREFIX ex: <a> ASK \x7b\x7d" = .ok q := by
  let ls : Tokens := [⟨.word "PREFIX", "PREFIX ex: <a> ASK \x7b\x7d".toList⟩,
    ⟨.prefixed "ex" "", "ex: <a> ASK \x7b\x7d".toList⟩, ⟨.iri "a", "<a> ASK \x7b\x7d".toList⟩,
    ⟨.word "ASK", "ASK \x7b\x7d".toList⟩, ⟨.mark .openBrace, "\x7b\x7d".toList⟩,
    ⟨.mark .closeBrace, "\x7d".toList⟩]
  refine ⟨[⟨.word "PREFIX", "PREFIX".toList⟩], ls,
    ⟨.ask, .empty, .ofLimit defaultLimit, Namespaces.wellKnown.insert "ex" "a"⟩, ?_⟩
  refine ⟨by decide +kernel, by decide +kernel, ⟨ls.tail.map Located.token, rfl⟩, ?_⟩
  exact ⟨by decide +kernel, by decide +kernel, by decide +kernel⟩

end Query

namespace Cursor

variable {text : List Char}

def fragment (text : List Char) (ss : List Span) (k : Nat) : Except Halt (List Char) :=
  match ss[k]? with
  | some s => restAt text s.start
  | none => .ok []

theorem fragment_ok {ss : List Span} {ts : List Located} (h : List.Forall₂ (Marks text) ss ts)
    (k : Nat) : fragment text ss k = .ok (textFrom (ts.drop k)) := by
  induction h generalizing k with
  | nil => simp [fragment, textFrom]
  | @cons s x ss ts hmarks _ ih =>
    cases k with
    | zero => exact restAt_ok hmarks.2
    | succ k => simpa [fragment] using ih k

theorem exists_restAt_of_fragment {ss : List Span} {k : Nat} {rest : List Char}
    (h : fragment text ss k = .ok rest) : ∃ pos, restAt text pos = .ok rest := by
  unfold fragment at h
  split at h
  · exact ⟨_, h⟩
  · cases h
    have hzero : RestAt text 0 (text ++ []) := by simpa using Text.restAt_zero text
    exact ⟨_, restAt_ok hzero.append⟩

def charIndices (pos : Nat) : List Char → List (Nat × Char)
  | [] => []
  | c :: cs => (pos, c) :: charIndices (pos + c.utf8Size) cs

theorem charIndices_getElem? (pos : Nat) (cs : List Char) (n : Nat) :
    (charIndices pos cs)[n]? = cs[n]?.map fun c => (pos + utf8Size (cs.take n), c) := by
  induction cs generalizing pos n with
  | nil => simp [charIndices]
  | cons c cs ih =>
    cases n with
    | zero => simp [charIndices]
    | succ n => simp [charIndices, ih, Nat.add_assoc]

/-- What is quoted of a text. It is cut off at the byte that the first character too many begins
with. -/
def clip (rest : List Char) : Except Halt String :=
  let rest := Text.trimStart rest
  match (charIndices 0 rest)[excerptSize]? with
  | some (stop, _) => return String.ofList (← cut rest 0 stop) ++ "..."
  | none => return if rest = [] then "<end of input>" else String.ofList rest

theorem clip_ok (rest : List Char) : clip rest = .ok (excerpt rest) := by
  unfold clip excerpt
  generalize Text.trimStart rest = cs
  simp only [charIndices_getElem?]
  rcases Nat.lt_or_ge excerptSize cs.length with hlt | hge
  · have hcut : cut cs 0 (0 + utf8Size (cs.take excerptSize)) = .ok (cs.take excerptSize) := by
      have hzero : RestAt cs 0 (cs.take excerptSize ++ cs.drop excerptSize) := by
        rw [List.take_append_drop]
        exact Text.restAt_zero cs
      exact cut_ok hzero hzero.append
    have hmore : (cs.drop excerptSize).isEmpty = false := by simpa using hlt
    rw [List.getElem?_eq_getElem hlt]
    cases cs with
    | nil => cases hlt
    | cons c cs =>
      simp only [Option.map_some, hcut, hmore]
      rfl
  · have hnone : (cs.drop excerptSize).isEmpty = true := by simpa using hge
    rw [List.getElem?_eq_none hge]
    cases cs with
    | nil => rfl
    | cons c cs =>
      simp only [List.take_of_length_le hge, hnone, if_true, String.append_empty]
      rfl

end Cursor

namespace Query

section

open Cursor

variable (t : Namespaces) (maxLimit : Nat) (text : String)

theorem parseWith_fragment {fault : QueryFault} {rest : List Char}
    (h : parseWith t maxLimit text = .error (.malformed fault rest)) :
    (∃ ts k, tokenize text.toList = .ok ts ∧ rest = textFrom (ts.drop k)) ∨
      ∃ e, tokenize text.toList = .error e ∧ rest = e.text := by
  cases htokens : tokenize text.toList with
  | error e =>
    rw [parseWith, htokens] at h
    cases h
    exact .inr ⟨e, rfl, rfl⟩
  | ok ts =>
    rw [parseWith_of_tokenize htokens] at h
    have hending := ending_query t maxLimit ts
    rw [h] at hending
    cases hending with
    | fails _ k => exact .inl ⟨ts, k, rfl, rfl⟩
    | stepsBack _ k => exact .inl ⟨ts, k, rfl, rfl⟩

/-- All positions of the cursor are boundaries, in front of a fault too. The tokens tile the text,
with gaps outside of them. The text from any token on can be cut out, and so can what an error
quotes. -/
theorem spans_tile :
    (∃ stop, Tiling text (spans text.toList).1 stop ∧
      Outcome text.toList (spans text.toList).1 stop (spans text.toList).2
        (tokenize text.toList)) ∧
    (∀ ts, tokenize text.toList = .ok ts →
      ∀ k, fragment text.toList (spans text.toList).1 k = .ok (textFrom (ts.drop k))) ∧
    ∀ fault rest, parseWith t maxLimit text = .error (.malformed fault rest) →
      (∃ pos, restAt text.toList pos = .ok rest) ∧ clip rest = .ok (excerpt rest) := by
  obtain ⟨stop, htiling, houtcome⟩ := spans_outcome text
  have hfragment (ts : List Located) (hts : tokenize text.toList = .ok ts) (k : Nat) :
      fragment text.toList (spans text.toList).1 k = .ok (textFrom (ts.drop k)) := by
    have hagree := spans_agree text.toList
    rw [hts] at hagree
    exact fragment_ok hagree.1 k
  refine ⟨⟨stop, htiling, houtcome⟩, hfragment, fun fault rest h => ⟨?_, clip_ok rest⟩⟩
  rcases parseWith_fragment t maxLimit text h with ⟨ts, k, hts, rfl⟩ | ⟨e, he, rfl⟩
  · exact exists_restAt_of_fragment (hfragment ts hts k)
  · generalize (spans text.toList).2 = last at houtcome
    rw [he] at houtcome
    cases houtcome with
    | fault _ _ place => exact ⟨_, place⟩

theorem spans_tile_dot :
    let text := "ASK \x7b ?é a. '\\u00e9' # ü"
    let rest := ". '\\u00e9' # ü".toList
    parse text = .error (.malformed .object rest) ∧
      ((spans text.toList).1.map fun s => (s.token, s.start)) =
        [(.word "ASK", 0), (.mark .openBrace, 4), (.var "é", 6), (.word "a", 10),
          (.mark .dot, 11), (.string "é", 13)] ∧
      fragment text.toList (spans text.toList).1 4 = .ok rest ∧
      (∃ pos, restAt text.toList pos = .ok rest) ∧ clip rest = .ok (excerpt rest) := by
  intro text rest
  let ts : Tokens := [⟨.word "ASK", text.toList⟩, ⟨.mark .openBrace, text.toList.drop 4⟩,
    ⟨.var "é", text.toList.drop 6⟩, ⟨.word "a", text.toList.drop 9⟩, ⟨.mark .dot, rest⟩,
    ⟨.string "é", rest.drop 2⟩]
  have herror : parse text = .error (.malformed .object rest) := by decide +kernel
  have htokens : tokenize text.toList = .ok ts := by decide +kernel
  have hplaces : places text.toList ts = [(.word "ASK", 0), (.mark .openBrace, 4), (.var "é", 6),
      (.word "a", 10), (.mark .dot, 11), (.string "é", 13)] := by decide +kernel
  obtain ⟨⟨stop, -, houtcome⟩, hfragment, hquoted⟩ := spans_tile .wellKnown defaultLimit text
  refine ⟨herror, ?_, hfragment ts htokens 4, hquoted _ _ herror⟩
  generalize (spans text.toList).2 = last at houtcome
  rw [htokens] at houtcome
  cases houtcome with
  | complete located => exact located.symm.trans hplaces

end

end Query

end LinkedRaces
