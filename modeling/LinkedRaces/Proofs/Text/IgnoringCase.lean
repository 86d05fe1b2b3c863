import LinkedRaces.Proofs.Text.Lowercase
import LinkedRaces.Text.Basic

/-!
Texts that differ in the case of ASCII letters only. What treats a capital letter as its small one
treats them alike; so does the lower case, which for a sigma looks at the neighbours.
-/

namespace LinkedRaces.Text

def Recased (cs ds : List Char) : Prop := cs.map Char.toLower = ds.map Char.toLower

theorem toLower_of_not_ascii {c : Char} (h : ¬ c.toNat < 128) : c.toLower = c := by
  have hnot : ¬ (c.val ≥ 'A'.val ∧ c.val ≤ 'Z'.val) := by
    rintro ⟨-, hle⟩
    have hle : c.toNat ≤ 90 := UInt32.le_iff_toNat_le.1 hle
    omega
  unfold Char.toLower
  rw [dif_neg hnot]

def CaseBlind {α : Type} (f : Char → α) : Prop := ∀ {c d : Char}, c.toLower = d.toLower → f c = f d

theorem caseBlind_of_ascii {α : Type} {f : Char → α}
    (h : ∀ n < 128, f (Char.ofNat n).toLower = f (Char.ofNat n)) : CaseBlind f := by
  intro c d hcd
  have hlower (c : Char) : f c.toLower = f c := by
    by_cases hc : c.toNat < 128
    · exact forall_ascii (P := fun c => f c.toLower = f c) h hc
    · rw [toLower_of_not_ascii hc]
  rw [← hlower c, hcd, hlower d]

namespace Recased

variable {c d : Char} {cs ds : List Char}

theorem refl (cs : List Char) : Recased cs cs := rfl

theorem symm (h : Recased cs ds) : Recased ds cs := Eq.symm h

theorem cons_iff : Recased (c :: cs) (d :: ds) ↔ c.toLower = d.toLower ∧ Recased cs ds := by
  simp [Recased]

theorem nil_eq (h : Recased [] ds) : ds = [] := by simpa [Recased, eq_comm] using h

theorem exists_cons (h : Recased (c :: cs) ds) :
    ∃ d ds', ds = d :: ds' ∧ c.toLower = d.toLower ∧ Recased cs ds' := by
  cases ds with
  | nil => cases h
  | cons d ds => exact ⟨d, ds, rfl, cons_iff.1 h⟩

end Recased

theorem eqIgnoringCase_iff {a b : String} :
    eqIgnoringCase a b ↔ Recased a.toList b.toList := by
  simp [eqIgnoringCase, Recased]

theorem caseBlind_isCased : CaseBlind isCased := caseBlind_of_ascii (by decide)

theorem caseBlind_isCaseIgnorable : CaseBlind isCaseIgnorable := caseBlind_of_ascii (by decide)

theorem caseBlind_lowercaseChar : CaseBlind lowercaseChar := caseBlind_of_ascii (by decide)

theorem nextIsCased_congr {cs ds : List Char} (h : Recased cs ds) :
    nextIsCased cs = nextIsCased ds := by
  induction cs generalizing ds with
  | nil => rw [h.nil_eq]
  | cons c cs ih =>
    obtain ⟨d, ds, rfl, hcd, hrest⟩ := h.exists_cons
    have hignorable := caseBlind_isCaseIgnorable hcd
    have hcased := caseBlind_isCased hcd
    cases hc : isCaseIgnorable c with
    | true => simpa [nextIsCased, ← hignorable, hc] using ih hrest
    | false => simpa [nextIsCased, ← hignorable, hc] using hcased

theorem lowercaseAfter_congr {cs ds : List Char} (h : Recased cs ds) :
    ∀ {before before' : List Char}, Recased before before' →
      lowercaseAfter before cs = lowercaseAfter before' ds := by
  induction cs generalizing ds with
  | nil => rw [h.nil_eq]; exact fun _ => rfl
  | cons c cs ih =>
    intro before before' hbefore
    obtain ⟨d, ds, rfl, hcd, hrest⟩ := h.exists_cons
    have hsigma : (c = 'Σ') = (d = 'Σ') := caseBlind_of_ascii (f := (· = 'Σ')) (by decide) hcd
    have hfinal : isFinalSigma before cs = isFinalSigma before' ds := by
      rw [isFinalSigma, isFinalSigma, nextIsCased_congr hbefore, nextIsCased_congr hrest]
    simp only [lowercaseAfter, hsigma, hfinal, caseBlind_lowercaseChar hcd,
      ih hrest (Recased.cons_iff.2 ⟨hcd, hbefore⟩)]

theorem lowercase_congr {a b : String} (h : eqIgnoringCase a b) : lowercase a = lowercase b := by
  rw [lowercase, lowercase, lowercaseAfter_congr (eqIgnoringCase_iff.1 h) (.refl [])]

end LinkedRaces.Text
