import LinkedRaces.Lexical.Tokens
import LinkedRaces.Proofs.Lexical.Spelling

/-!
Numbers as they are written: a sign, digits, a point with digits, and an exponent. A number is read
to its end, so that only what goes on with it must not follow. Its sign belongs to it, unless a value
has just ended: then the sign is an operator, and the number follows without it.
-/

namespace LinkedRaces

def IsDigits (cs : List Char) : Prop := cs ≠ [] ∧ ∀ c ∈ cs, c.isDigit

def IsSign (cs : List Char) : Prop := cs = [] ∨ cs = ['+'] ∨ cs = ['-']

def IsFraction (cs : List Char) : Prop := cs = [] ∨ ∃ ds, cs = '.' :: ds ∧ IsDigits ds

def IsExponent (cs : List Char) : Prop :=
  cs = [] ∨
    ∃ e sign ds, cs = e :: (sign ++ ds) ∧ (e = 'e' ∨ e = 'E') ∧ IsSign sign ∧ IsDigits ds

/-- A number that the tokenizer knows, in its parts. Digits stand before the point, unless there is
no sign. -/
structure Numeral where
  sign : List Char
  whole : List Char
  fraction : List Char
  exponent : List Char
  isSign : IsSign sign
  isDigits : ∀ c ∈ whole, c.isDigit
  isFraction : IsFraction fraction
  isExponent : IsExponent exponent
  begins : whole ≠ [] ∨ sign = [] ∧ fraction ≠ []

namespace Numeral

def body (n : Numeral) : List Char := n.whole ++ (n.fraction ++ n.exponent)

def text (n : Numeral) : List Char := n.sign ++ n.body

def token (n : Numeral) : Token :=
  if n.exponent ≠ [] then .double (String.ofList n.text)
  else if n.fraction ≠ [] then .decimal (String.ofList n.text)
  else .integer (String.ofList n.text)

def datatype (n : Numeral) : Iri :=
  if n.exponent ≠ [] then Vocabulary.xsdDouble
  else if n.fraction ≠ [] then Vocabulary.xsdDecimal
  else Vocabulary.xsdInteger

def literal (n : Numeral) : Literal := .typed (String.ofList n.text) n.datatype

def unsigned (n : Numeral) : Numeral :=
  { n with sign := [], isSign := .inl rfl, begins := n.begins.imp_right fun h => ⟨rfl, h.2⟩ }

/-- Nothing goes on with the number: no digit, no exponent if it has none, and no fraction if it has
neither. -/
structure EndsBefore (n : Numeral) (rest : List Char) : Prop where
  digits : ∀ c ∈ rest.head?, c.isDigit = false
  exponent : n.exponent = [] → Scanner.exponent rest = []
  fraction : n.exponent = [] → n.fraction = [] → Scanner.fraction rest = []

theorem shorthand?_token (n : Numeral) : n.token.shorthand? = some n.literal := by
  unfold token literal datatype
  split
  · rfl
  · split <;> rfl

theorem endsValue_token (n : Numeral) : n.token.endsValue := by
  unfold token
  split
  · rfl
  · split <;> rfl

theorem depthAfter_token (n : Numeral) (depth : Nat) :
    Tokenizer.depthAfter depth n.token = depth := by
  unfold token
  split
  · rfl
  · split <;> rfl

theorem next_token (n : Numeral) (x : Context) : x.next n.token = ⟨x.depth, true⟩ := by
  rw [Context.next, depthAfter_token, endsValue_token]

end Numeral

namespace Scanner

theorem isDigit_of_isExponent {cs : List Char} (h : IsExponent cs) {c : Char} (hc : c ∈ cs.head?) :
    c.isDigit = false := by
  rcases h with rfl | ⟨e, sign, ds, rfl, he, -⟩
  · cases hc
  · obtain rfl : e = c := by simpa using hc
    rcases he with rfl | rfl <;> rfl

theorem head?_append_cases {cs rest : List Char} {c : Char} (h : c ∈ (cs ++ rest).head?) :
    c ∈ cs.head? ∨ cs = [] ∧ c ∈ rest.head? := by
  cases cs with
  | nil => exact .inr ⟨rfl, h⟩
  | cons d cs => exact .inl h

theorem fraction_append {cs rest : List Char} (h : IsFraction cs)
    (hdigit : ∀ c ∈ rest.head?, c.isDigit = false) (hrest : cs = [] → fraction rest = []) :
    fraction (cs ++ rest) = cs := by
  rcases h with rfl | ⟨ds, rfl, hne, hds⟩
  · exact hrest rfl
  · cases ds with
    | nil => exact absurd rfl hne
    | cons d ds =>
      obtain ⟨hd, hds⟩ := List.forall_mem_cons.1 hds
      simp only [List.cons_append, fraction, hd, if_true, takeWhile_append_stop hds hdigit]

theorem exponentDigits_append {sign ds rest : List Char} (hsign : IsSign sign) (hds : IsDigits ds)
    (hdigit : ∀ c ∈ rest.head?, c.isDigit = false) :
    exponentDigits (sign ++ (ds ++ rest)) = sign ++ ds := by
  obtain ⟨hne, hds⟩ := hds
  cases ds with
  | nil => exact absurd rfl hne
  | cons d ds =>
    have hrun := takeWhile_append_stop hds hdigit
    obtain ⟨hd, htail⟩ := List.forall_mem_cons.1 hds
    rcases hsign with rfl | rfl | rfl
    · simp [exponentDigits, hd, takeWhile_append_stop htail hdigit]
    all_goals
      rw [List.singleton_append, exponentDigits, if_neg (by decide), if_pos (by decide), hrun]
      rfl

theorem exponent_append {cs rest : List Char} (h : IsExponent cs)
    (hdigit : ∀ c ∈ rest.head?, c.isDigit = false) (hrest : cs = [] → exponent rest = []) :
    exponent (cs ++ rest) = cs := by
  rcases h with rfl | ⟨e, sign, ds, rfl, he, hsign, hds⟩
  · exact hrest rfl
  · have hdigits := exponentDigits_append hsign hds hdigit
    rw [List.cons_append, List.append_assoc, exponent, if_pos he, hdigits]
    cases hcs : sign ++ ds with
    | nil => exact absurd (List.append_eq_nil_iff.1 hcs).2 hds.1
    | cons c cs => rfl

theorem number_body (n : Numeral) {rest : List Char} (h : n.EndsBefore rest) :
    number n.sign (n.body ++ rest) = (n.token, rest) := by
  have hexponent : exponent (n.exponent ++ rest) = n.exponent :=
    exponent_append n.isExponent h.digits h.exponent
  have hdigit : ∀ c ∈ (n.exponent ++ rest).head?, c.isDigit = false := by
    intro c hc
    rcases head?_append_cases hc with hc | ⟨-, hc⟩
    · exact isDigit_of_isExponent n.isExponent hc
    · exact h.digits c hc
  have hnone : n.fraction = [] → fraction (n.exponent ++ rest) = [] := by
    intro hfraction
    rcases n.isExponent with he | ⟨e, sign, ds, he, hmark, -⟩
    · rw [he]
      exact h.fraction he hfraction
    · rw [he]
      rcases hmark with rfl | rfl <;> rfl
  have hfraction := fraction_append n.isFraction hdigit hnone
  have hpoint : ∀ c ∈ (n.fraction ++ (n.exponent ++ rest)).head?, c.isDigit = false := by
    intro c hc
    rcases head?_append_cases hc with hc | ⟨-, hc⟩
    · rcases n.isFraction with hf | ⟨ds, hf, -⟩
      · simp [hf] at hc
      · obtain rfl : '.' = c := by simpa [hf] using hc
        rfl
    · exact hdigit c hc
  have hbody : n.body ++ rest = n.whole ++ (n.fraction ++ (n.exponent ++ rest)) := by
    simp [Numeral.body]
  have htext : n.sign ++ n.whole ++ n.fraction ++ n.exponent = n.text := by
    simp [Numeral.text, Numeral.body]
  rw [hbody, number]
  simp only [takeWhile_append_stop n.isDigits hpoint, dropWhile_append_stop n.isDigits hpoint,
    hfraction, List.drop_left, hexponent, htext]
  rfl

theorem tokenAfter_digit {comparing afterValue : Bool} {d : Char} (h : d.isDigit)
    (rest : List Char) : tokenAfter comparing afterValue d rest = .ok (number [] (d :: rest)) := by
  simp only [tokenAfter, start_of_isDigit h]

theorem tokenAfter_point {comparing afterValue : Bool} {rest : List Char}
    (h : beginsWithDigit rest) :
    tokenAfter comparing afterValue '.' rest = .ok (number [] ('.' :: rest)) := by
  simp only [tokenAfter, show start '.' = .dot by decide, h, if_true]

theorem tokenAfter_sign {comparing afterValue : Bool} {c : Char} (hc : c = '+' ∨ c = '-')
    {rest : List Char} (h : beginsWithDigit rest) :
    tokenAfter comparing afterValue c rest =
      .ok (if afterValue then (.mark (signMark c), rest) else number [c] rest) := by
  have hstart : start c = .sign := by rcases hc with rfl | rfl <;> decide
  cases afterValue <;> simp [tokenAfter, hstart, h]

end Scanner

namespace Numeral

open Tokenizer (kinds kinds_cons)

variable {n : Numeral} {rest : List Char} {x : Context}

theorem beginsWithDigit_whole {n : Numeral} (h : n.whole ≠ []) (rest : List Char) :
    Scanner.beginsWithDigit (n.body ++ rest) := by
  cases hwhole : n.whole with
  | nil => exact absurd hwhole h
  | cons d ds =>
    have hd := n.isDigits d (by simp [hwhole])
    simpa [body, hwhole, Scanner.beginsWithDigit] using hd

theorem kinds_unsigned (hsign : n.sign = []) (h : n.EndsBefore rest) (x : Context) :
    kinds x (n.body ++ rest) = (kinds (x.next n.token) rest).map (n.token :: ·) := by
  have hnumber := Scanner.number_body n h
  rw [hsign] at hnumber
  cases hwhole : n.whole with
  | cons d ds =>
    have hd := n.isDigits d (by simp [hwhole])
    simp only [body, hwhole, List.cons_append] at hnumber ⊢
    exact kinds_cons ((Scanner.tokenAfter_digit hd _).trans (congrArg Except.ok hnumber))
  | nil =>
    -- without digits before it the point comes first
    obtain ⟨-, hne⟩ := n.begins.resolve_left (absurd hwhole)
    obtain ⟨ds, hfraction, hds, hdigits⟩ := n.isFraction.resolve_left hne
    have hbegins : Scanner.beginsWithDigit (ds ++ (n.exponent ++ rest)) := by
      obtain ⟨d, ds, rfl⟩ := List.exists_cons_of_ne_nil hds
      exact hdigits d List.mem_cons_self
    simp only [body, hwhole, hfraction, List.cons_append, List.nil_append, List.append_assoc]
      at hnumber ⊢
    exact kinds_cons ((Scanner.tokenAfter_point hbegins).trans (congrArg Except.ok hnumber))

theorem EndsBefore.unsigned (h : n.EndsBefore rest) : n.unsigned.EndsBefore rest :=
  ⟨h.digits, h.exponent, h.fraction⟩

def Splits (n : Numeral) (x : Context) : Prop := n.sign ≠ [] ∧ x.afterValue

instance (n : Numeral) (x : Context) : Decidable (n.Splits x) := inferInstanceAs (Decidable (_ ∧ _))

def operator (n : Numeral) : Mark := if n.sign = ['+'] then .plus else .minus

/-- What the number is read as: its sign and the rest after a value, one token elsewhere. -/
def tokens (n : Numeral) (x : Context) : List Token :=
  if n.Splits x then [.mark n.operator, n.unsigned.token] else [n.token]

theorem tokenAfter_text {c : Char} (hc : c = '+' ∨ c = '-') (hsign : n.sign = [c])
    (comparing afterValue : Bool) (rest : List Char) :
    Scanner.tokenAfter comparing afterValue c (n.body ++ rest) =
      .ok (if afterValue then (.mark n.operator, n.body ++ rest)
        else Scanner.number n.sign (n.body ++ rest)) := by
  have hwhole : n.whole ≠ [] := n.begins.resolve_right fun hno => by simp [hsign] at hno
  have hmark : Scanner.signMark c = n.operator := by
    rcases hc with rfl | rfl <;> simp [Scanner.signMark, operator, hsign]
  rw [Scanner.tokenAfter_sign hc (beginsWithDigit_whole hwhole rest), hmark, hsign]

theorem depth_next_operator (n : Numeral) (x : Context) :
    (x.next (.mark n.operator)).depth = x.depth := by
  unfold operator
  split <;> rfl

theorem kinds_text (n : Numeral) (h : n.EndsBefore rest) (x : Context) :
    kinds x (n.text ++ rest) = (kinds ⟨x.depth, true⟩ rest).map (n.tokens x ++ ·) := by
  rw [text, List.append_assoc]
  have hsigned {c : Char} (hc : c = '+' ∨ c = '-') (hsign : n.sign = [c]) :
      kinds x (c :: (n.body ++ rest)) = (kinds ⟨x.depth, true⟩ rest).map (n.tokens x ++ ·) := by
    have htoken := tokenAfter_text hc hsign x.compares x.afterValue rest
    by_cases hvalue : x.afterValue
    · have htokens : n.tokens x = [.mark n.operator, n.unsigned.token] :=
        if_pos ⟨by simp [hsign], hvalue⟩
      have hrest : kinds (x.next (.mark n.operator)) (n.body ++ rest) =
          (kinds ⟨x.depth, true⟩ rest).map (n.unsigned.token :: ·) := by
        have hunsigned := kinds_unsigned (n := n.unsigned) rfl h.unsigned (x.next (.mark n.operator))
        rwa [next_token, depth_next_operator] at hunsigned
      rw [if_pos hvalue] at htoken
      rw [kinds_cons htoken, hrest, htokens]
      cases kinds ⟨x.depth, true⟩ rest <;> rfl
    · have htokens : n.tokens x = [n.token] := if_neg fun hsplit => hvalue hsplit.2
      rw [if_neg hvalue, Scanner.number_body n h] at htoken
      rw [kinds_cons htoken, next_token, htokens]
      rfl
  rcases n.isSign with hsign | hsign | hsign
  · have htokens : n.tokens x = [n.token] := if_neg fun hsplit => hsplit.1 hsign
    rw [hsign, List.nil_append, kinds_unsigned hsign h, next_token, htokens]
    rfl
  · rw [hsign]
    exact hsigned (.inl rfl) hsign
  · rw [hsign]
    exact hsigned (.inr rfl) hsign

end Numeral

def Token.isNumber : Token → Bool
  | .integer _ | .decimal _ | .double _ => true
  | _ => false

namespace Scanner

def Leaves (part cs rest : List Char) : Prop :=
  cs = part ++ rest ∧ ∀ c ∈ rest.head?, c.isDigit = false

theorem leaves_takeWhile (cs : List Char) :
    Leaves (cs.takeWhile Char.isDigit) cs (cs.dropWhile Char.isDigit) :=
  ⟨List.takeWhile_append_dropWhile.symm, head?_dropWhile Char.isDigit cs⟩

theorem Leaves.cons {part cs rest : List Char} (h : Leaves part cs rest) (c : Char) :
    Leaves (c :: part) (c :: cs) rest :=
  ⟨congrArg (c :: ·) h.1, h.2⟩

theorem isDigit_of_mem_takeWhile {cs : List Char} {c : Char}
    (h : c ∈ cs.takeWhile Char.isDigit) : c.isDigit :=
  List.all_eq_true.1 List.all_takeWhile c h

theorem isDigits_takeWhile {d : Char} (hd : d.isDigit) (cs : List Char) :
    IsDigits (d :: cs.takeWhile Char.isDigit) :=
  ⟨List.cons_ne_nil _ _, List.forall_mem_cons.2 ⟨hd, fun _ => isDigit_of_mem_takeWhile⟩⟩

theorem fraction_cases (cs : List Char) :
    fraction cs = [] ∨ IsFraction (fraction cs) ∧ ∃ rest, Leaves (fraction cs) cs rest := by
  unfold fraction
  split
  next d rest =>
    split
    next hd =>
      have hleaves := ((leaves_takeWhile rest).cons d).cons '.'
      exact .inr ⟨.inr ⟨_, rfl, isDigits_takeWhile hd rest⟩, _, hleaves⟩
    next => exact .inl rfl
  next => exact .inl rfl

theorem exponentDigits_cases (cs : List Char) :
    exponentDigits cs = [] ∨
      (∃ sign ds, exponentDigits cs = sign ++ ds ∧ IsSign sign ∧ IsDigits ds) ∧
        ∃ rest, Leaves (exponentDigits cs) cs rest := by
  unfold exponentDigits
  split
  next => exact .inl rfl
  next d rest =>
    split
    next hd =>
      have hleaves := (leaves_takeWhile rest).cons d
      exact .inr ⟨⟨[], _, rfl, .inl rfl, isDigits_takeWhile hd rest⟩, _, hleaves⟩
    next =>
      split
      next hsign =>
        have hleaves := leaves_takeWhile rest
        split
        next => exact .inl rfl
        next hds =>
          have hd : IsSign [d] := .inr (hsign.imp (congrArg fun c => [c]) (congrArg fun c => [c]))
          have hdigits : IsDigits (rest.takeWhile Char.isDigit) :=
            ⟨hds, fun _ => isDigit_of_mem_takeWhile⟩
          exact .inr ⟨⟨[d], _, rfl, hd, hdigits⟩, _, hleaves.cons d⟩
      next => exact .inl rfl

theorem exponent_cases (cs : List Char) :
    exponent cs = [] ∨ IsExponent (exponent cs) ∧ ∃ rest, Leaves (exponent cs) cs rest := by
  unfold exponent
  split
  next => exact .inl rfl
  next e rest =>
    split
    next he =>
      rcases exponentDigits_cases rest with
        hnone | ⟨⟨sign, ds, hdigits, hsign, hds⟩, rest', hleaves⟩
      · simp [hnone]
      · have hne : exponentDigits rest ≠ [] := by
          rw [hdigits]
          exact List.append_ne_nil_of_right_ne_nil _ hds.1
        split
        next hnone => exact absurd hnone hne
        next =>
          exact .inr ⟨.inr ⟨e, sign, ds, by rw [hdigits], he, hsign, hds⟩, rest', hleaves.cons e⟩
    next => exact .inl rfl

theorem Leaves.drop {part cs : List Char} {P : List Char → Prop} (hnil : P [])
    (h : part = [] ∨ P part ∧ ∃ rest, Leaves part cs rest) :
    P part ∧ cs = part ++ cs.drop part.length ∧
      (part ≠ [] → ∀ c ∈ (cs.drop part.length).head?, c.isDigit = false) := by
  rcases h with rfl | ⟨hpart, rest, rfl, hdigit⟩
  · exact ⟨hnil, rfl, absurd rfl⟩
  · rw [List.drop_left]
    exact ⟨hpart, rfl, fun _ => hdigit⟩

theorem exists_numeral {sign cs rest : List Char} {tok : Token} (hsign : IsSign sign)
    (hbegins : cs.takeWhile Char.isDigit ≠ [] ∨ sign = [] ∧ fraction cs ≠ [])
    (h : number sign cs = (tok, rest)) :
    ∃ n : Numeral, n.sign = sign ∧ cs = n.body ++ rest ∧ n.token = tok ∧ n.EndsBefore rest := by
  obtain ⟨hwhole, hdigit⟩ := leaves_takeWhile cs
  have hbegins' : cs.takeWhile Char.isDigit ≠ [] ∨
      sign = [] ∧ fraction (cs.dropWhile Char.isDigit) ≠ [] := by
    by_cases hnone : cs.takeWhile Char.isDigit = []
    · rw [hnone, List.nil_append] at hwhole
      rwa [← hwhole]
    · exact .inl hnone
  have hisDigits : ∀ c ∈ cs.takeWhile Char.isDigit, c.isDigit :=
    fun _ => isDigit_of_mem_takeWhile
  unfold number at h
  obtain ⟨htok, hrest⟩ := Prod.mk.inj h
  generalize cs.takeWhile Char.isDigit = whole, cs.dropWhile Char.isDigit = after at *
  obtain ⟨hfraction, hafter, hfracdigit⟩ := Leaves.drop (.inl rfl) (fraction_cases after)
  generalize hpoint : fraction after = frac at *
  generalize hleft : after.drop frac.length = left at *
  obtain ⟨hexponent, hend, hexpdigit⟩ := Leaves.drop (.inl rfl) (exponent_cases left)
  generalize hmark : exponent left = exp at *
  rw [hrest] at hend hexpdigit
  refine ⟨⟨sign, whole, frac, exp, hsign, hisDigits, hfraction, hexponent, hbegins'⟩, rfl,
    ?_, ?_, ?_⟩
  · simp [Numeral.body, hwhole, hafter, hend]
  · rw [← htok]
    simp [Numeral.token, Numeral.text, Numeral.body]
  · have hnoExponent : exp = [] → left = rest := by
      rintro rfl
      exact hend
    have hnoFraction : exp = [] → frac = [] → after = rest := by
      rintro hexp rfl
      exact hafter.trans (hnoExponent hexp)
    refine ⟨?_, fun hexp => hnoExponent hexp ▸ hmark.trans hexp,
      fun hexp hfrac => hnoFraction hexp hfrac ▸ hpoint.trans hfrac⟩
    by_cases hexp : exp = []
    · by_cases hfrac : frac = []
      · exact hnoFraction hexp hfrac ▸ hdigit
      · exact hnoExponent hexp ▸ hfracdigit hfrac
    · exact hexpdigit hexp

theorem takeWhile_ne_nil_of_beginsWithDigit {cs : List Char} (h : beginsWithDigit cs) :
    cs.takeWhile Char.isDigit ≠ [] := by
  cases cs with
  | nil => cases h
  | cons d ds =>
    have hd : d.isDigit = true := h
    simp [hd]

theorem fraction_ne_nil {cs : List Char} (h : beginsWithDigit cs) : fraction ('.' :: cs) ≠ [] := by
  cases cs with
  | nil => cases h
  | cons d ds =>
    have hd : d.isDigit = true := h
    simp [fraction, hd]

theorem isNumber_either (second : Char) (long short : Mark) (cs : List Char) :
    (either second long short cs).1.isNumber = false := by
  unfold either
  split
  · rfl
  · split <;> rfl

theorem exists_numeral_of_tokenAfter {comparing afterValue : Bool} {c : Char} {cs rest : List Char}
    {tok : Token} (h : tokenAfter comparing afterValue c cs = .ok (tok, rest))
    (htok : tok.isNumber) :
    ∃ n : Numeral, c :: cs = n.text ++ rest ∧ n.token = tok ∧ n.EndsBefore rest := by
  cases hstart : start c with
  | digit =>
    have hc : c.isDigit := begins_of_start hstart
    rw [tokenAfter_digit hc] at h
    obtain ⟨n, hsign, hbody, htoken, hends⟩ := exists_numeral (.inl rfl)
      (.inl (takeWhile_ne_nil_of_beginsWithDigit (show beginsWithDigit (c :: cs) from hc)))
      (Except.ok.inj h)
    exact ⟨n, by simpa [Numeral.text, hsign] using hbody, htoken, hends⟩
  | sign =>
    have hc : c = '+' ∨ c = '-' := begins_of_start hstart
    by_cases hdigit : beginsWithDigit cs
    · rw [tokenAfter_sign hc hdigit] at h
      split at h
      · obtain ⟨rfl, -⟩ := Prod.mk.inj (Except.ok.inj h)
        cases htok
      · obtain ⟨n, hsign, hbody, htoken, hends⟩ := exists_numeral
          (.inr (hc.imp (congrArg (fun c => [c])) (congrArg (fun c => [c]))))
          (.inl (takeWhile_ne_nil_of_beginsWithDigit hdigit)) (Except.ok.inj h)
        exact ⟨n, by simp [Numeral.text, hsign, hbody], htoken, hends⟩
    · simp only [tokenAfter, hstart, hdigit] at h
      obtain ⟨rfl, -⟩ := Prod.mk.inj (Except.ok.inj h)
      cases htok
  | dot =>
    obtain rfl : c = '.' := begins_of_start hstart
    by_cases hdigit : beginsWithDigit cs
    · rw [tokenAfter_point hdigit] at h
      obtain ⟨n, hsign, hbody, htoken, hends⟩ := exists_numeral (.inl rfl)
        (.inr ⟨rfl, fraction_ne_nil hdigit⟩) (Except.ok.inj h)
      exact ⟨n, by simpa [Numeral.text, hsign] using hbody, htoken, hends⟩
    · simp only [tokenAfter, hstart, hdigit] at h
      obtain ⟨rfl, -⟩ := Prod.mk.inj (Except.ok.inj h)
      cases htok
  | quote =>
    simp only [tokenAfter, hstart, string] at h
    obtain ⟨⟨body, rest'⟩, -, heq⟩ := bind_eq_ok.1 h
    obtain ⟨rfl, -⟩ := Prod.mk.inj (Except.ok.inj heq)
    cases htok
  | word =>
    simp only [tokenAfter, hstart, word] at h
    split at h <;> obtain ⟨rfl, -⟩ := Prod.mk.inj (Except.ok.inj h) <;> cases htok
  | _ =>
    -- no other token is a number
    simp only [tokenAfter, hstart] at h
    grind [isNumber_either, Token.isNumber]

end Scanner

end LinkedRaces
