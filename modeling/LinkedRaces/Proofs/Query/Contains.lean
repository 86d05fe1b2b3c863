import LinkedRaces.Proofs.Text.Sigma
import LinkedRaces.Proofs.Text.Trimming
import LinkedRaces.Query.Filter

/-!
What `contains` finds. It compares texts in lower case, so all that the exact tests find is found,
except where lowering a capital sigma in its word gives another form than lowering it in the part that
is looked for.
-/

namespace LinkedRaces

namespace Text

theorem containsIgnoringCase_iff {text part : String} :
    containsIgnoringCase text part ↔ (lowercase part).toList <:+: (lowercase text).toList :=
  occursIn_iff_isInfix

theorem containsIgnoringCase_of_loweredAlike {text part : String} {before after : List Char}
    (htext : text.toList = before ++ part.toList ++ after)
    (h : LoweredAlike before.reverse part.toList after) : containsIgnoringCase text part := by
  rw [containsIgnoringCase_iff, lowercase, lowercase, String.toList_ofList, String.toList_ofList,
    htext]
  exact h.isInfix

end Text

namespace Expression

section Values

variable {row : Binding} {a b : Expression} {x y : FilterValue}

theorem value?_contains (ha : a.value? row = some x) (hb : b.value? row = some y) :
    (contains a b).value? row = some (.bool (Text.containsIgnoringCase x.text y.text)) := by
  simp [value?, ha, hb]

theorem value?_strStarts (ha : a.value? row = some x) (hb : b.value? row = some y) :
    (strStarts a b).value? row = some (.bool (y.text.toList.isPrefixOf x.text.toList)) := by
  simp [value?, ha, hb]

theorem value?_strEnds (ha : a.value? row = some x) (hb : b.value? row = some y) :
    (strEnds a b).value? row = some (.bool (y.text.toList.isSuffixOf x.text.toList)) := by
  simp [value?, ha, hb]

theorem isInfix_of_exact (ha : a.value? row = some x) (hb : b.value? row = some y)
    (h : (strStarts a b).value? row = some (.bool true) ∨
      (strEnds a b).value? row = some (.bool true)) : y.text.toList <:+: x.text.toList := by
  rw [value?_strStarts ha hb, value?_strEnds ha hb] at h
  simp only [Option.some.injEq, FilterValue.bool.injEq] at h
  rcases h with h | h
  · exact (List.isPrefixOf_iff_prefix.1 h).isInfix
  · exact (List.isSuffixOf_iff_suffix.1 h).isInfix

/-- What starts or ends a text occurs in it. What occurs is found by `contains`, if its sigmas are
final in the text just where they are final in the part: if there are none, or if no cased character
is next to the part. With both forms of the small sigma taken for one, all that occurs is found. -/
theorem value?_contains_of_isInfix (ha : a.value? row = some x) (hb : b.value? row = some y) :
    ((strStarts a b).value? row = some (.bool true) ∨
        (strEnds a b).value? row = some (.bool true) → y.text.toList <:+: x.text.toList) ∧
      ('Σ' ∉ y.text.toList → y.text.toList <:+: x.text.toList →
        (contains a b).value? row = some (.bool true)) ∧
      (∀ before after, x.text.toList = before ++ y.text.toList ++ after →
        Text.nextIsCased before.reverse = false → Text.nextIsCased after = false →
        (contains a b).value? row = some (.bool true)) ∧
      (∀ before after, x.text.toList = before ++ y.text.toList ++ after →
        Text.sigmaForms before.reverse y.text.toList after =
          Text.sigmaForms [] y.text.toList [] →
        (contains a b).value? row = some (.bool true)) ∧
      (y.text.toList <:+: x.text.toList →
        (Text.lowercase y.text).toList.map Text.openSigma <:+:
          (Text.lowercase x.text).toList.map Text.openSigma) := by
  have hfound (before after : List Char) (htext : x.text.toList = before ++ y.text.toList ++ after)
      (hlowered : Text.LoweredAlike before.reverse y.text.toList after) :
      (contains a b).value? row = some (.bool true) := by
    rw [value?_contains ha hb, Text.containsIgnoringCase_of_loweredAlike htext hlowered]
  refine ⟨isInfix_of_exact ha hb, ?_, ?_, ?_, ?_⟩
  · rintro hsigma ⟨before, after, htext⟩
    exact hfound before after htext.symm (Text.loweredAlike_of_notMem hsigma)
  · intro before after htext hbefore hafter
    exact hfound before after htext (Text.loweredAlike_of_word hbefore hafter)
  · intro before after htext hforms
    exact hfound before after htext (Text.loweredAlike_iff.2 hforms)
  · intro h
    simpa [Text.lowercase] using Text.isInfix_openSigma h

end Values

def quoted (s : String) : Expression := .const (.literal (.plain s))

def quotedValue (s : String) : FilterValue := .term (.literal (.plain s))

theorem value?_quoted (row : Binding) (s : String) :
    (quoted s).value? row = some (quotedValue s) := rfl

theorem value?_contains_of_isInfix_marathon :
    let text := quoted "ΜΑΡΑΘΩΝΙΟΣ ΔΡΟΜΟΣ"
    (strStarts text (quoted "ΜΑΡΑΘΩΝΙΟΣ")).value? ∅ = some (.bool true) ∧
      (contains text (quoted "ΜΑΡΑΘΩΝΙΟΣ")).value? ∅ = some (.bool true) ∧
      (contains text (quoted "ΜΑΡΑΘΩΝ")).value? ∅ = some (.bool true) := by
  intro text
  have hstarts : (strStarts text (quoted "ΜΑΡΑΘΩΝΙΟΣ")).value? ∅ = some (.bool true) := by
    decide +kernel
  have hword := value?_contains_of_isInfix (value?_quoted ∅ "ΜΑΡΑΘΩΝΙΟΣ ΔΡΟΜΟΣ")
    (value?_quoted ∅ "ΜΑΡΑΘΩΝΙΟΣ")
  have hpart := value?_contains_of_isInfix (value?_quoted ∅ "ΜΑΡΑΘΩΝΙΟΣ ΔΡΟΜΟΣ")
    (value?_quoted ∅ "ΜΑΡΑΘΩΝ")
  refine ⟨hstarts, ?_, ?_⟩
  · exact hword.2.2.1 [] " ΔΡΟΜΟΣ".toList (by decide +kernel) (by decide +kernel) (by decide +kernel)
  · exact hpart.2.1 (by decide +kernel) (hpart.1 (.inl (by decide +kernel)))

/-- The sigma is final in the part, and not in the text. -/
theorem strStarts_not_contains :
    (strStarts (quoted "ΑΣΒ") (quoted "ΑΣ")).value? ∅ = some (.bool true) ∧
      (contains (quoted "ΑΣΒ") (quoted "ΑΣ")).value? ∅ = some (.bool false) := by
  decide +kernel

end Expression

end LinkedRaces
