import LinkedRaces.Proofs.Lexical.Alike
import LinkedRaces.Proofs.Lexical.Taking
import LinkedRaces.Query.Parser.Terms

/-!
Parsers that decide in time. `Prompt P F ts` says that what `F` answers on `ts` is settled by the
tokens that it takes and by the one that comes next: on any other list that begins with tokens like
these it answers the same. So a fault stands at the first token that no query can have there, unless
the input ends at that place and the fault is one of those that are put at the last token instead.

Of every token that is taken `P` holds.
-/

namespace LinkedRaces.QueryParser

/-- What a parser answers, without the bound on what is left. -/
abbrev Outcome (α : Type) := Except QueryError (α × Tokens)

def Outcome.andThen {α β : Type} (r : Outcome α) (K : α → Tokens → Outcome β) : Outcome β :=
  Except.bind r fun (a, rest) => K a rest

@[simp] theorem Outcome.andThen_ok {α β : Type} (a : α) (rest : Tokens)
    (K : α → Tokens → Outcome β) : Outcome.andThen (.ok (a, rest)) K = K a rest := rfl

@[simp] theorem Outcome.andThen_error {α β : Type} (e : QueryError)
    (K : α → Tokens → Outcome β) : Outcome.andThen (.error e) K = .error e := rfl

/-- The faults that stand at the last token where the input ends behind it, with that token. -/
inductive StepsBack : QueryFault → Token → Prop
  | prefixName {x : Token} (h : x.isKeyword "PREFIX") : StepsBack .prefixName x
  | prefixIri (label : String) : StepsBack .prefixIri (.prefixed label "")
  | baseIri {x : Token} (h : x.isKeyword "BASE") : StepsBack .baseIri x
  | boundVariable : StepsBack .boundVariable (.mark .openParen)
  | orderVariable : StepsBack .orderVariable (.mark .openParen)

/-- What is taken is `taken`, and `rest` begins with the token that comes next. -/
inductive Prompt {α : Type} (P : Token → Prop) (F : Tokens → Outcome α) : Tokens → Prop
  | ok {taken rest : Tokens} {a : α} (holds : ∀ x ∈ taken, P x.token)
    (same : ∀ taken' rest', AllAlike taken taken' → NextAlike rest rest' →
      F (taken' ++ rest') = .ok (a, rest')) : Prompt P F (taken ++ rest)
  | fails {taken rest : Tokens} (fault : QueryFault)
    (same : ∀ taken' rest', AllAlike taken taken' → NextAlike rest rest' →
      F (taken' ++ rest') = .error (failure fault rest')) : Prompt P F (taken ++ rest)
  | stepsBack {taken : Tokens} {last : Located} {fault : QueryFault}
    (back : StepsBack fault last.token)
    (same : ∀ taken' last', AllAlike taken taken' → last.token.Alike last'.token →
      F (taken' ++ [last']) = .error (failure fault [last'])) : Prompt P F (taken ++ [last])
  -- Which feature is missing may depend on a later token, so it is the same only for lists that are
  -- alike to the end.
  | refuses {taken rest : Tokens} (more : rest ≠ [])
    (refused : ∀ taken' rest', AllAlike taken taken' → NextAlike rest rest' →
      ∃ feature, F (taken' ++ rest') = .error (.unsupported feature))
    (same : ∀ us, AllAlike (taken ++ rest) us → F us = F (taken ++ rest)) :
    Prompt P F (taken ++ rest)

def plain {α : Type} {n : Nat} (r : Except QueryError (Reading Located α n)) : Outcome α :=
  r.map fun r => (r.value, r.rest)

section Plain

variable {α β : Type} {m n : Nat}

@[simp] theorem plain_ok (r : Reading Located α n) : plain (.ok r) = .ok (r.value, r.rest) := rfl

@[simp] theorem plain_pure (r : Reading Located α n) : plain (pure r) = .ok (r.value, r.rest) := rfl

@[simp] theorem plain_took (a : α) (x : Located) (rest : Tokens) :
    plain (Tokens.took a x rest) = .ok (a, rest) := rfl

@[simp] theorem plain_fail (fault : QueryFault) (ts : Tokens) :
    plain (fail fault ts : Except QueryError (Reading Located α n)) =
      .error (failure fault ts) := rfl

@[simp] theorem plain_refuse (feature : QueryFeature) :
    plain (refuse feature : Except QueryError (Reading Located α n)) =
      .error (.unsupported feature) := rfl

theorem plain_bind {r : Except QueryError (Reading Located α m)}
    {k : Reading Located α m → Except QueryError (Reading Located β n)}
    {K : α → Tokens → Outcome β} (h : ∀ s, plain (k s) = K s.value s.rest) :
    plain (r >>= k) = (plain r).andThen K := by
  cases r with
  | error e => rfl
  | ok s => exact h s

theorem plain_same {r : Except QueryError (Reading Located α m)}
    {k : Reading Located α m → Except QueryError (Reading Located α n)}
    (h : ∀ s, plain (k s) = .ok (s.value, s.rest)) : plain (r >>= k) = plain r := by
  cases r with
  | error e => rfl
  | ok s => exact h s

theorem plain_check {c : Except QueryError Unit}
    {k : Unit → Except QueryError (Reading Located α n)} {K : Outcome α} (h : plain (k ()) = K) :
    plain (c >>= k) = Except.bind c fun _ => K := by
  cases c with
  | error e => rfl
  | ok u => exact h

theorem shorter_of_plain {r : Except QueryError (Reading Located α n)} {a : α} {rest : Tokens}
    (h : plain r = .ok (a, rest)) : rest.length < n := by
  cases r with
  | error e => cases h
  | ok s => cases h; exact s.shorter

end Plain

namespace Prompt

variable {α β : Type} {P Q : Token → Prop} {F G : Tokens → Outcome α} {ts rest : Tokens}
  {x : Located}

theorem mono (h : Prompt P F ts) (hPQ : ∀ x, P x → Q x) : Prompt Q F ts := by
  cases h with
  | ok holds same => exact .ok (fun x hx => hPQ _ (holds x hx)) same
  | fails fault same => exact .fails fault same
  | stepsBack back same => exact .stepsBack back same
  | refuses more refused same => exact .refuses more refused same

theorem congr (hFG : ∀ us, NextAlike ts us → F us = G us) (h : Prompt P G ts) : Prompt P F ts := by
  cases h with
  | ok holds same =>
    exact .ok holds fun taken' rest' htaken hrest =>
      (hFG _ (.append htaken hrest)).trans (same taken' rest' htaken hrest)
  | fails fault same =>
    exact .fails fault fun taken' rest' htaken hrest =>
      (hFG _ (.append htaken hrest)).trans (same taken' rest' htaken hrest)
  | stepsBack back same =>
    exact .stepsBack back fun taken' last' htaken hlast =>
      (hFG _ (.append htaken (.cons hlast))).trans (same taken' last' htaken hlast)
  | refuses more refused same =>
    refine .refuses more (fun taken' rest' htaken hrest => ?_) fun us hus => ?_
    · obtain ⟨feature, h⟩ := refused taken' rest' htaken hrest
      exact ⟨feature, (hFG _ (.append htaken hrest)).trans h⟩
    · rw [hFG us (.of_allAlike hus), hFG _ (.refl _), same us hus]

theorem stays {a : α} (hF : ∀ us, NextAlike ts us → F us = .ok (a, us)) : Prompt P F ts :=
  show Prompt P F ([] ++ ts) from .ok (by simp) fun taken' rest' htaken hrest => by
    cases htaken
    exact hF rest' hrest

theorem failsHere (fault : QueryFault)
    (hF : ∀ us, NextAlike ts us → F us = .error (failure fault us)) : Prompt P F ts :=
  show Prompt P F ([] ++ ts) from .fails fault fun taken' rest' htaken hrest => by
    cases htaken
    exact hF rest' hrest

theorem refusesHere (feature : QueryFeature)
    (hF : ∀ y us, x.token.Alike y.token → F (y :: us) = .error (.unsupported feature)) :
    Prompt P F (x :: rest) := by
  change Prompt P F ([] ++ (x :: rest))
  refine .refuses (List.cons_ne_nil x rest) (fun taken' rest' htaken hrest => ?_)
    fun us hus => ?_
  · cases htaken
    obtain ⟨y, us, rfl, hy⟩ := hrest.exists_cons
    exact ⟨feature, hF y us hy⟩
  · cases hus with
    | cons hy _ => exact (hF _ _ hy).trans (hF x rest (.refl _)).symm

theorem nil (fault : QueryFault) (hF : F [] = .error (failure fault [])) : Prompt P F [] :=
  failsHere fault fun us hus => by rw [hus.nil_eq, hF]

theorem head (hFG : ∀ y us, x.token.Alike y.token → F (y :: us) = G (y :: us))
    (h : Prompt P G (x :: rest)) : Prompt P F (x :: rest) :=
  congr (fun us hus => by
    obtain ⟨y, us, rfl, hy⟩ := hus.exists_cons
    exact hFG y us hy) h

theorem headFails (fault : QueryFault)
    (hF : ∀ y us, x.token.Alike y.token → F (y :: us) = .error (failure fault (y :: us))) :
    Prompt P F (x :: rest) :=
  failsHere fault fun us hus => by
    obtain ⟨y, us, rfl, hy⟩ := hus.exists_cons
    exact hF y us hy

theorem headStays {a : α} (hF : ∀ y us, x.token.Alike y.token → F (y :: us) = .ok (a, y :: us)) :
    Prompt P F (x :: rest) :=
  stays fun us hus => by
    obtain ⟨y, us, rfl, hy⟩ := hus.exists_cons
    exact hF y us hy

theorem prepend {taken : Tokens} (holds : ∀ p, G rest = .ok p → ∀ x ∈ taken, P x.token)
    (hF : ∀ taken' us, AllAlike taken taken' → NextAlike rest us → F (taken' ++ us) = G us)
    (h : Prompt P G rest) : Prompt P F (taken ++ rest) := by
  cases h with
  | @ok more rest a holds' same =>
    rw [← List.append_assoc]
    have hread := same more rest (.refl _) (.refl _)
    refine .ok (a := a) (fun x hx => (List.mem_append.1 hx).elim (holds _ hread x) (holds' x))
      fun us rest' hus hrest => ?_
    obtain ⟨taken', more', rfl, htaken, hmore⟩ := hus.exists_append
    rw [List.append_assoc, hF _ _ htaken (.append hmore hrest), same _ _ hmore hrest]
  | @fails more rest fault same =>
    rw [← List.append_assoc]
    refine .fails fault fun us rest' hus hrest => ?_
    obtain ⟨taken', more', rfl, htaken, hmore⟩ := hus.exists_append
    rw [List.append_assoc, hF _ _ htaken (.append hmore hrest), same _ _ hmore hrest]
  | @stepsBack more last fault back same =>
    rw [← List.append_assoc]
    refine .stepsBack back fun us last' hus hlast => ?_
    obtain ⟨taken', more', rfl, htaken, hmore⟩ := hus.exists_append
    rw [List.append_assoc, hF _ _ htaken (.append hmore (.cons hlast)), same _ _ hmore hlast]
  | @refuses more rest next refused same =>
    rw [← List.append_assoc]
    refine .refuses next (fun us rest' hus hrest => ?_) fun us hus => ?_
    · obtain ⟨taken', more', rfl, htaken, hmore⟩ := hus.exists_append
      obtain ⟨feature, h⟩ := refused _ _ hmore hrest
      exact ⟨feature, by rw [List.append_assoc, hF _ _ htaken (.append hmore hrest), h]⟩
    · rw [List.append_assoc] at hus ⊢
      obtain ⟨taken', us, rfl, htaken, hus⟩ := hus.exists_append
      rw [hF _ _ htaken (.of_allAlike hus), hF _ _ (.refl _) (.refl _), same us hus]

theorem cons (hx : ∀ p, G rest = .ok p → P x.token)
    (hF : ∀ y us, x.token.Alike y.token → NextAlike rest us → F (y :: us) = G us)
    (h : Prompt P G rest) : Prompt P F (x :: rest) :=
  show Prompt P F ([x] ++ rest) from prepend (by simpa using hx) (fun taken' us htaken hus => by
    obtain ⟨y, _, hy, hnil, rfl⟩ := List.forall₂_cons_left_iff.1 htaken
    cases hnil
    exact hF y us hy hus) h

theorem skip (hx : P x.token) (hF : ∀ y us, x.token.Alike y.token → F (y :: us) = G us)
    (h : Prompt P G rest) : Prompt P F (x :: rest) :=
  cons (fun _ _ => hx) (fun y us hy _ => hF y us hy) h

theorem headTaken {a : α} (hx : P x.token)
    (hF : ∀ y us, x.token.Alike y.token → F (y :: us) = .ok (a, us)) : Prompt P F (x :: rest) :=
  skip (G := fun us => .ok (a, us)) hx hF (stays fun _ _ => rfl)

theorem after {E : Located → Tokens → Outcome α} {fault : QueryFault} (hx : P x.token)
    (back : StepsBack fault x.token)
    (hF : ∀ y us, x.token.Alike y.token → F (y :: us) = E y us)
    (hnil : ∀ y, E y [] = .error (failure fault [y]))
    (hcons : ∀ y y' z us, E y (z :: us) = E y' (z :: us))
    (h : ∀ z us, Prompt P (E x) (z :: us)) : Prompt P F (x :: ts) := by
  cases ts with
  | nil =>
    change Prompt P F ([] ++ [x])
    refine .stepsBack back fun taken' y htaken hy => ?_
    cases htaken
    exact (hF y [] hy).trans (hnil y)
  | cons z us =>
    refine .cons (fun _ _ => hx) (fun y us hy hus => ?_) (h z us)
    obtain ⟨z, us, rfl, -⟩ := hus.exists_cons
    exact (hF y _ hy).trans (hcons y x z us)

theorem andThen {K : α → Tokens → Outcome β} (hF : Prompt P F ts)
    (hK : ∀ a rest, F ts = .ok (a, rest) → Prompt P (K a) rest) :
    Prompt P (fun us => Outcome.andThen (F us) K) ts := by
  cases hF with
  | fails fault same =>
    refine .fails fault fun taken' rest' htaken hrest => ?_
    rw [same taken' rest' htaken hrest]
    rfl
  | stepsBack back same =>
    refine .stepsBack back fun taken' last' htaken hlast => ?_
    rw [same taken' last' htaken hlast]
    rfl
  | refuses more refused same =>
    refine .refuses more (fun taken' rest' htaken hrest => ?_) fun us hus => ?_
    · obtain ⟨feature, h⟩ := refused taken' rest' htaken hrest
      exact ⟨feature, by rw [h]; rfl⟩
    · rw [same us hus]
  | @ok taken rest a holds same =>
    refine prepend (fun _ _ => holds) (fun taken' us htaken hus => ?_)
      (hK a rest (same taken rest (.refl _) (.refl _)))
    rw [same taken' us htaken hus]
    rfl

theorem map (g : α → β) (h : Prompt P F ts) :
    Prompt P (fun us => Outcome.andThen (F us) fun a rest => .ok (g a, rest)) ts :=
  h.andThen fun _ _ _ => stays fun _ _ => rfl

theorem read {m n : Tokens → Nat} {f : ∀ us, Except QueryError (Reading Located α (m us))}
    {k : ∀ us, Reading Located α (m us) → Except QueryError (Reading Located β (n us))}
    (K : α → Tokens → Outcome β) (hk : ∀ us s, plain (k us s) = K s.value s.rest)
    (hF : Prompt P (fun us => plain (f us)) ts)
    (hK : ∀ a rest, rest.length < m ts → Prompt P (K a) rest) :
    Prompt P (fun us => plain (f us >>= k us)) ts := by
  have hbind : (fun us => plain (f us >>= k us)) = fun us => Outcome.andThen (plain (f us)) K :=
    funext fun us => plain_bind (hk us)
  rw [hbind]
  exact hF.andThen fun a rest h => hK a rest (shorter_of_plain h)

theorem readMap {m n : Tokens → Nat} {f : ∀ us, Except QueryError (Reading Located α (m us))}
    {k : ∀ us, Reading Located α (m us) → Except QueryError (Reading Located β (n us))}
    (g : α → β) (hk : ∀ us s, plain (k us s) = .ok (g s.value, s.rest))
    (hF : Prompt P (fun us => plain (f us)) ts) : Prompt P (fun us => plain (f us >>= k us)) ts :=
  hF.read (fun a rest => .ok (g a, rest)) hk fun _ _ _ => stays fun _ _ => rfl

end Prompt

/-- A check of the next token, which is refused or passes. -/
structure Glance (C : Tokens → Except QueryError Unit) : Prop where
  congr : ∀ {ts us}, NextAlike ts us → C ts = C us
  passes : ∀ ts, C ts = .ok () ∨ ts ≠ [] ∧ ∃ feature, C ts = .error (.unsupported feature)

theorem Prompt.glance {α : Type} {P : Token → Prop} {C : Tokens → Except QueryError Unit}
    {G : Tokens → Outcome α} {ts : Tokens} (hC : Glance C) (h : Prompt P G ts) :
    Prompt P (fun us => Except.bind (C us) fun _ => G us) ts := by
  rcases hC.passes ts with hpass | ⟨hmore, feature, hrefuse⟩
  · refine h.congr fun us hus => ?_
    rw [← hC.congr hus, hpass]
    rfl
  · cases ts with
    | nil => exact absurd rfl hmore
    | cons x rest =>
      refine .refusesHere feature fun y us hy => ?_
      rw [← hC.congr (show NextAlike (x :: rest) (y :: us) from hy), hrefuse]
      rfl

theorem next_mark_cases (m : Mark) (ts : Tokens) :
    (∃ text rest, ts = ⟨.mark m, text⟩ :: rest) ∨ NextIsNot (· = .mark m) ts := by
  cases ts with
  | nil => exact .inr nofun
  | cons x rest =>
    obtain ⟨tok, text⟩ := x
    by_cases h : tok = .mark m
    · exact .inl ⟨text, rest, by rw [h]⟩
    · exact .inr (nextIsNot_cons h rest)

theorem nextIsNot_congr {m : Mark} {ts us : Tokens} (h : NextIsNot (· = .mark m) ts)
    (hnext : NextAlike ts us) : NextIsNot (· = .mark m) us := by
  cases ts with
  | nil => exact hnext.nil_eq ▸ nofun
  | cons x rest =>
    obtain ⟨y, us, rfl, hy⟩ := hnext.exists_cons
    exact nextIsNot_cons (fun hm => h x rfl ((hy.eq_mark_iff m).2 hm)) us

theorem Prompt.skipMarks {α : Type} {P : Token → Prop} {G : Tokens → Outcome α} {ts : Tokens}
    {m : Mark} (hm : P (.mark m)) (h : Prompt P G (ts.dropWhile (Tokens.isMark m))) :
    Prompt P (fun us => G (us.dropWhile (Tokens.isMark m))) ts := by
  induction ts with
  | nil => exact h.congr fun us hus => by rw [hus.nil_eq, List.dropWhile_nil]
  | cons x rest ih =>
    by_cases hx : x.token = .mark m
    · have hdrop {y : Located} (hy : x.token.Alike y.token) (us : Tokens) :
          (y :: us).dropWhile (Tokens.isMark m) = us.dropWhile (Tokens.isMark m) :=
        List.dropWhile_cons_of_pos (by simpa [Tokens.isMark] using (hy.eq_mark_iff m).1 hx)
      rw [hdrop (.refl _)] at h
      exact .skip (hx ▸ hm) (fun y us hy => by rw [hdrop hy]) (ih h)
    · have hkeep {y : Located} (hy : x.token.Alike y.token) (us : Tokens) :
          (y :: us).dropWhile (Tokens.isMark m) = y :: us := by
        have hnot : y.token ≠ .mark m := fun h => hx ((hy.eq_mark_iff m).2 h)
        exact List.dropWhile_cons_of_neg (by simpa [Tokens.isMark] using hnot)
      rw [hkeep (.refl _)] at h
      exact .head (fun y us hy => by rw [hkeep hy]) h

end LinkedRaces.QueryParser
