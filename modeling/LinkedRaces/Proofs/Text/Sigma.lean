import LinkedRaces.Proofs.Text.Lowercase
import Mathlib.Data.List.Infix

/-!
Lower case of a part of a text. Only a capital sigma is lowered by what stands around it, so a part
is lowered in its place as it is on its own if its sigmas are final in one just if they are in the
other. Whatever the place, nothing but the two forms of the small sigma can differ.
-/

namespace LinkedRaces.Text

variable {before cs after : List Char}

/-- What the text is lowered to between two others. As for a sigma, `before` is the text before it,
last character first. -/
def loweredBetween (before : List Char) : List Char → List Char → List Char
  | [], _ => []
  | c :: cs, after =>
    (if c = 'Σ' then [if isFinalSigma before (cs ++ after) then 'ς' else 'σ']
      else lowercaseChar c) ++ loweredBetween (c :: before) cs after

theorem lowercaseAfter_append (before cs after : List Char) :
    lowercaseAfter before (cs ++ after) =
      loweredBetween before cs after ++ lowercaseAfter (cs.reverse ++ before) after := by
  induction cs generalizing before with
  | nil => rfl
  | cons c cs ih =>
    rw [List.cons_append, lowercaseAfter, loweredBetween, ih, List.append_assoc, List.reverse_cons,
      List.append_assoc]
    rfl

theorem lowercaseAfter_eq (before cs : List Char) :
    lowercaseAfter before cs = loweredBetween before cs [] := by
  have h := lowercaseAfter_append before cs []
  rwa [List.append_nil, lowercaseAfter, List.append_nil] at h

def LoweredAlike (before cs after : List Char) : Prop :=
  loweredBetween before cs after = lowercaseAfter [] cs

instance (before cs after : List Char) : Decidable (LoweredAlike before cs after) :=
  inferInstanceAs (Decidable (_ = _))

theorem LoweredAlike.isInfix (h : LoweredAlike before.reverse cs after) :
    lowercaseAfter [] cs <:+: lowercaseAfter [] (before ++ cs ++ after) := by
  rw [List.append_assoc, lowercaseAfter_append, lowercaseAfter_append, List.append_nil, h,
    ← List.append_assoc]
  exact List.infix_append _ _ _

def sigmaForms (before : List Char) : List Char → List Char → List Bool
  | [], _ => []
  | c :: cs, after =>
    (if c = 'Σ' then [isFinalSigma before (cs ++ after)] else []) ++
      sigmaForms (c :: before) cs after

theorem loweredBetween_eq_iff {before' after' : List Char} :
    loweredBetween before cs after = loweredBetween before' cs after' ↔
      sigmaForms before cs after = sigmaForms before' cs after' := by
  induction cs generalizing before before' with
  | nil => exact iff_of_true rfl rfl
  | cons c cs ih =>
    rw [loweredBetween, loweredBetween, sigmaForms, sigmaForms]
    split
    next =>
      rw [List.singleton_append, List.singleton_append, List.singleton_append, List.singleton_append,
        List.cons_eq_cons, List.cons_eq_cons, ih]
      refine and_congr_left fun _ => ?_
      cases isFinalSigma before (cs ++ after) <;> cases isFinalSigma before' (cs ++ after') <;>
        decide
    next => rw [List.append_cancel_left_eq, List.nil_append, List.nil_append, ih]

theorem loweredAlike_iff :
    LoweredAlike before cs after ↔ sigmaForms before cs after = sigmaForms [] cs [] := by
  rw [LoweredAlike, lowercaseAfter_eq, loweredBetween_eq_iff]

theorem sigmaForms_of_notMem (h : 'Σ' ∉ cs) : sigmaForms before cs after = [] := by
  induction cs generalizing before with
  | nil => rfl
  | cons c cs ih =>
    obtain ⟨hc, hcs⟩ := not_or.1 (mt List.mem_cons.2 h)
    rw [sigmaForms, if_neg (Ne.symm hc), ih hcs]
    rfl

theorem loweredAlike_of_notMem (h : 'Σ' ∉ cs) : LoweredAlike before cs after :=
  loweredAlike_iff.2 ((sigmaForms_of_notMem h).trans (sigmaForms_of_notMem h).symm)

theorem nextIsCased_cons (c : Char) (cs : List Char) :
    nextIsCased (c :: cs) = if isCaseIgnorable c then nextIsCased cs else isCased c := by
  cases hc : isCaseIgnorable c <;> simp [nextIsCased, hc]

theorem nextIsCased_append (h : nextIsCased after = false) (cs : List Char) :
    nextIsCased (cs ++ after) = nextIsCased cs := by
  induction cs with
  | nil => exact h
  | cons c cs ih => rw [List.cons_append, nextIsCased_cons, nextIsCased_cons, ih]

theorem loweredAlike_of_word (hbefore : nextIsCased before = false)
    (hafter : nextIsCased after = false) : LoweredAlike before cs after := by
  have hforms (inner : List Char) :
      sigmaForms (inner ++ before) cs after = sigmaForms inner cs [] := by
    induction cs generalizing inner with
    | nil => rfl
    | cons c cs ih =>
      have hfinal : isFinalSigma (inner ++ before) (cs ++ after) = isFinalSigma inner (cs ++ []) := by
        rw [isFinalSigma, isFinalSigma, nextIsCased_append hbefore, nextIsCased_append hafter,
          List.append_nil]
      rw [sigmaForms, sigmaForms, hfinal, ← List.cons_append, ih]
  exact loweredAlike_iff.2 (hforms [])

def openSigma (c : Char) : Char := if c = 'ς' then 'σ' else c

theorem map_openSigma_loweredBetween (before before' cs after after' : List Char) :
    (loweredBetween before cs after).map openSigma =
      (loweredBetween before' cs after').map openSigma := by
  induction cs generalizing before before' with
  | nil => rfl
  | cons c cs ih =>
    rw [loweredBetween, loweredBetween, List.map_append, List.map_append,
      ih (c :: before) (c :: before')]
    split
    next =>
      cases isFinalSigma before (cs ++ after) <;> cases isFinalSigma before' (cs ++ after') <;> rfl
    next => rfl

/-- Up to the form of the sigma, a part is found in lower case wherever it is found. -/
theorem isInfix_openSigma {text : List Char} (h : cs <:+: text) :
    (lowercaseAfter [] cs).map openSigma <:+: (lowercaseAfter [] text).map openSigma := by
  obtain ⟨before, after, rfl⟩ := h
  rw [List.append_assoc, lowercaseAfter_append, lowercaseAfter_append, List.map_append,
    List.map_append, lowercaseAfter_eq [] cs, map_openSigma_loweredBetween [] _ cs [] after,
    ← List.append_assoc]
  exact List.infix_append _ _ _

end LinkedRaces.Text
