import LinkedRaces.Text.Alphabetic
import LinkedRaces.Text.Basic
import LinkedRaces.Text.Lowercase

/-! Labels as parts of IRIs: the words in lower case, with hyphens between them. -/

namespace LinkedRaces

/-- The words of a label: its longest runs of letters and numbers. -/
def labelWords (label : List Char) : List (List Char) :=
  (Text.splitAll (!Text.isAlphanumeric ·) label).filter (!·.isEmpty)

def slugChars (label : List Char) : List Char :=
  List.intercalate ['-'] ((labelWords label).map (·.flatMap Text.lowercaseChar))

def slug (label : String) : String := String.ofList (slugChars label.toList)

end LinkedRaces
