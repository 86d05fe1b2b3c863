import LinkedRaces.Proofs.Query.Algebra
import LinkedRaces.Query.Filter

/-!
Filters and unbound variables. Only `bound` sees that a variable is unbound. Without it, a value that
an expression has stays as it is when more variables become bound, so a row never stops to pass. The
connectives may do without one side; without them too, an unbound variable leaves the expression
without a value, however deep it stands.
-/

namespace LinkedRaces

def KeepsValue {α : Type} (a b : Option α) : Prop := ∀ v, a = some v → b = some v

namespace KeepsValue

variable {α β γ : Type} {a b : Option α} {c d : Option β}

theorem refl (a : Option α) : KeepsValue a a := fun _ => id

theorem bind (h : KeepsValue a b) (f : α → Option γ) : KeepsValue (a.bind f) (b.bind f) := by
  intro v hv
  obtain ⟨x, hx, hf⟩ := Option.bind_eq_some_iff.1 hv
  exact Option.bind_eq_some_iff.2 ⟨x, h x hx, hf⟩

theorem bind₂ (h : KeepsValue a b) (h' : KeepsValue c d) (f : α → β → Option γ) :
    KeepsValue (a.bind fun x => c.bind (f x)) (b.bind fun x => d.bind (f x)) := by
  intro v hv
  obtain ⟨x, hx, hf⟩ := Option.bind_eq_some_iff.1 hv
  exact Option.bind_eq_some_iff.2 ⟨x, h x hx, h'.bind (f x) v hf⟩

theorem map (h : KeepsValue a b) (f : α → γ) : KeepsValue (a.map f) (b.map f) := by
  intro v hv
  obtain ⟨x, hx, hf⟩ := Option.map_eq_some_iff.1 hv
  exact Option.map_eq_some_iff.2 ⟨x, h x hx, hf⟩

end KeepsValue

theorem andTruth_eq_false_iff {a b : Option Bool} :
    andTruth a b = some false ↔ a = some false ∨ b = some false := by
  rcases a with _ | _ | _ <;> rcases b with _ | _ | _ <;> simp [andTruth]

theorem andTruth_eq_true_iff {a b : Option Bool} :
    andTruth a b = some true ↔ a = some true ∧ b = some true := by
  rcases a with _ | _ | _ <;> rcases b with _ | _ | _ <;> simp [andTruth]

theorem orTruth_eq_true_iff {a b : Option Bool} :
    orTruth a b = some true ↔ a = some true ∨ b = some true := by
  rcases a with _ | _ | _ <;> rcases b with _ | _ | _ <;> simp [orTruth]

theorem orTruth_eq_false_iff {a b : Option Bool} :
    orTruth a b = some false ↔ a = some false ∧ b = some false := by
  rcases a with _ | _ | _ <;> rcases b with _ | _ | _ <;> simp [orTruth]

theorem keepsValue_andTruth {a b c d : Option Bool} (h : KeepsValue a b) (h' : KeepsValue c d) :
    KeepsValue (andTruth a c) (andTruth b d) := by
  intro v hv
  cases v with
  | false => exact andTruth_eq_false_iff.2 ((andTruth_eq_false_iff.1 hv).imp (h _) (h' _))
  | true => exact andTruth_eq_true_iff.2 ((andTruth_eq_true_iff.1 hv).imp (h _) (h' _))

theorem keepsValue_orTruth {a b c d : Option Bool} (h : KeepsValue a b) (h' : KeepsValue c d) :
    KeepsValue (orTruth a c) (orTruth b d) := by
  intro v hv
  cases v with
  | false => exact orTruth_eq_false_iff.2 ((orTruth_eq_false_iff.1 hv).imp (h _) (h' _))
  | true => exact orTruth_eq_true_iff.2 ((orTruth_eq_true_iff.1 hv).imp (h _) (h' _))

theorem bind₂_eq_none {α β γ : Type} {a : Option α} {b : Option β} (h : a = none ∨ b = none)
    (f : α → β → Option γ) : (a.bind fun x => b.bind (f x)) = none := by
  rcases h with rfl | rfl <;> simp

namespace Expression

def BoundFree : Expression → Prop
  | .bound _ => False
  | .var _ | .const _ => True
  | .not e | .regex e _ | .str e | .lang e | .isIri e | .isLiteral e => e.BoundFree
  | .and a b | .or a b | .compare _ a b | .contains a b | .strStarts a b | .strEnds a b =>
    a.BoundFree ∧ b.BoundFree

def ConnectiveFree : Expression → Prop
  | .and _ _ | .or _ _ => False
  | .var _ | .const _ | .bound _ => True
  | .not e | .regex e _ | .str e | .lang e | .isIri e | .isLiteral e => e.ConnectiveFree
  | .compare _ a b | .contains a b | .strStarts a b | .strEnds a b =>
    a.ConnectiveFree ∧ b.ConnectiveFree

def variableNames : Expression → List String
  | .var name | .bound name => [name]
  | .const _ => []
  | .not e | .regex e _ | .str e | .lang e | .isIri e | .isLiteral e => e.variableNames
  | .and a b | .or a b | .compare _ a b | .contains a b | .strStarts a b | .strEnds a b =>
    a.variableNames ++ b.variableNames

theorem keepsValue_value? {m n : Binding} (h : m.Extends n) {e : Expression} (he : e.BoundFree) :
    KeepsValue (e.value? m) (e.value? n) := by
  induction e with
  | var name => exact KeepsValue.map (h name) _
  | const t => exact .refl _
  | bound name => cases he
  | not e ih | regex e p ih | str e ih | lang e ih | isIri e ih | isLiteral e ih =>
    exact (ih he).bind _
  | compare op a b iha ihb | contains a b iha ihb | strStarts a b iha ihb | strEnds a b iha ihb =>
    exact (iha he.1).bind₂ (ihb he.2) _
  | and a b iha ihb =>
    exact (keepsValue_andTruth ((iha he.1).bind _) ((ihb he.2).bind _)).map _
  | or a b iha ihb =>
    exact (keepsValue_orTruth ((iha he.1).bind _) ((ihb he.2).bind _)).map _

theorem holds_iff {e : Expression} {row : Binding} :
    e.holds row ↔ (e.value? row).bind (·.truth?) = some true := by
  rw [holds]
  cases (e.value? row).bind (·.truth?) <;> simp

theorem value?_eq_none {row : Binding} {e : Expression} (hbound : e.BoundFree)
    (hconnective : e.ConnectiveFree) {name : String} (hname : name ∈ e.variableNames)
    (hrow : row.get? name = none) : e.value? row = none := by
  induction e with
  | var other =>
    obtain rfl := List.mem_singleton.1 hname
    exact congrArg (Option.map _) hrow
  | const t => cases hname
  | bound other => cases hbound
  | not e ih | regex e p ih | str e ih | lang e ih | isIri e ih | isLiteral e ih =>
    exact congrArg (Option.bind · _) (ih hbound hconnective hname)
  | compare op a b iha ihb | contains a b iha ihb | strStarts a b iha ihb | strEnds a b iha ihb =>
    exact bind₂_eq_none ((List.mem_append.1 hname).imp (iha hbound.1 hconnective.1)
      (ihb hbound.2 hconnective.2)) _
  | and a b iha ihb => cases hconnective
  | or a b iha ihb => cases hconnective

/-- Without `bound`, whatever value a filter has under a row it has under every larger one, so that
what passes goes on to pass. Without the connectives too, it has a value only if all its variables
are bound. -/
theorem value?_of_unbound {e : Expression} (hbound : e.BoundFree) :
    (∀ m n : Binding, m.Extends n →
      (∀ v, e.value? m = some v → e.value? n = some v) ∧ (e.holds m → e.holds n)) ∧
    (e.ConnectiveFree → ∀ row : Binding, ∀ name ∈ e.variableNames, row.get? name = none →
      e.value? row = none ∧ e.holds row = false) := by
  refine ⟨fun m n h => ?_, fun hconnective row name hname hrow => ?_⟩
  · have hvalue := keepsValue_value? h hbound
    exact ⟨hvalue, fun hm => holds_iff.2 (hvalue.bind _ _ (holds_iff.1 hm))⟩
  · have hnone := value?_eq_none hbound hconnective hname hrow
    exact ⟨hnone, by simp [holds, hnone]⟩

theorem value?_of_unbound_date :
    let text (s : String) : Expression := .const (.literal (.plain s))
    let early : Expression := .not (.strStarts (.str (.var "date")) (text "202"))
    let either : Expression := .or early (.compare .equal (.var "place") (text "1"))
    let placed : Binding := Dictionary.ofList [("place", .literal (.plain "1"))]
    let dated : Binding := Dictionary.ofList [("date", .literal (.plain "2024-01-01"))]
    ∃ both, placed.merge? dated = some both ∧
      (either.BoundFree ∧ placed.Extends both ∧ either.holds placed ∧ either.holds both) ∧
      (early.BoundFree ∧ early.ConnectiveFree ∧ "date" ∈ early.variableNames ∧
        placed.get? "date" = none) ∧
      early.value? placed = none ∧ early.holds placed = false := by
  intro text early either placed dated
  have heither : either.BoundFree := ⟨⟨trivial, trivial⟩, trivial, trivial⟩
  have hearly : early.BoundFree := ⟨trivial, trivial⟩
  have hconnective : early.ConnectiveFree := ⟨trivial, trivial⟩
  have hname : "date" ∈ early.variableNames := by decide
  have hplaced : either.holds placed := by decide +kernel
  obtain ⟨both, hboth⟩ : ∃ both, placed.merge? dated = some both := ⟨_, rfl⟩
  have hextends := Binding.extends_of_merge? hboth
  exact ⟨both, hboth, ⟨heither, hextends, hplaced,
    ((value?_of_unbound heither).1 placed both hextends).2 hplaced⟩,
    ⟨hearly, hconnective, hname, rfl⟩,
    (value?_of_unbound hearly).2 hconnective placed "date" hname rfl⟩

end Expression

end LinkedRaces
