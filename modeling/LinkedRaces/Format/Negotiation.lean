import LinkedRaces.Number.Decimal
import LinkedRaces.Text.Lowercase

/-!
Choosing by an `Accept` header: of the listed media types that are known, the one of highest
quality, the earlier of two equals.
-/

namespace LinkedRaces

abbrev Quality := Number.Reading.Value

namespace Quality

def one : Quality := .number ⟨false, Number.binary32.round 1 1⟩

/-- The entry is refused: its weight is zero or less. -/
def isRefused : Quality → Bool
  | .number x => x.negative || x.isZero
  | .nan => false

/-- Never so if one of the two is no number. -/
def exceeds : Quality → Quality → Bool
  | .number x, .number y => x.compareValue y == .gt
  | _, _ => false

/-- The first parameter `q` that can be read; one if there is none. -/
def ofParameters (parameters : List (List Char)) : Quality :=
  let read? (parameter : List Char) : Option Quality :=
    (Text.dropBeginning? ['q', '='] (Text.trimChars parameter)).bind fun value =>
      Number.readFloat? Number.binary32 (Text.trimChars value)
  (parameters.findSome? read?).getD one

end Quality

def mediaEssence (mediaType : String) : String :=
  Text.lowercase (Text.trim (String.ofList (mediaType.toList.takeWhile (· != ';'))))

def acceptEntry {α : Type} (lookup : String → Option α) (entry : List Char) :
    Option (Quality × α) :=
  match Text.splitAll (· == ';') entry with
  | [] => none
  | mediaType :: parameters =>
    let quality := Quality.ofParameters parameters
    if quality.isRefused then none
    else (lookup (String.ofList (Text.trimChars mediaType))).map (quality, ·)

def better {α : Type} (best : Option (Quality × α)) (entry : Quality × α) :
    Option (Quality × α) :=
  match best with
  | none => some entry
  | some best => if entry.1.exceeds best.1 then some entry else some best

def negotiate {α : Type} (lookup : String → Option α) (accept : String) : Option α :=
  let entries := (Text.splitAll (· == ',') accept.toList).filterMap (acceptEntry lookup)
  (entries.foldl better none).map (·.2)

end LinkedRaces
