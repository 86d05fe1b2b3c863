import LinkedRaces.Regex.Unicode.Age
import LinkedRaces.Regex.Unicode.ScriptExtension
import LinkedRaces.Regex.Unicode.Segmentation

/-!
The names of properties. Case, blanks, hyphens and underscores do not count in them, nor does any
character that is not ASCII, nor an "is" at the beginning.
-/

namespace LinkedRaces.Regex.Property

def dropIs : List Char → List Char
  | i :: s :: rest =>
    if (i == 'i' || i == 'I') && (s == 's' || s == 'S') then rest else i :: s :: rest
  | cs => cs

/-- What counts in a name. The one letter "c" after "is" is no name. -/
def looseName (cs : List Char) : String :=
  let rest := dropIs cs
  let name := (rest.filter fun c =>
    c.toNat < 128 && c != ' ' && c != '-' && c != '_').map Char.toLower
  if rest.length < cs.length && name == ['c'] then "isc" else String.ofList name

def find? {α : Type} (name : String) (table : List (List String × α)) :
    Option (List String × α) :=
  table.find? fun (names, _) => names.any fun n => looseName n.toList == name

def lookUp? (name : String) (table : List (List String × CharSet)) : Option CharSet :=
  (find? name table).map (·.2)

def age? (name : String) : Option CharSet :=
  (find? name Age.additions).map fun (names, _) =>
    let earlier := Age.additions.takeWhile fun (others, _) => others != names
    .unions ((earlier.map (·.2)) ++ (lookUp? name Age.additions).toList)

def extendedScript? (name : String) : Option CharSet :=
  (find? name Script.all).map fun (names, own) => Script.extended names own

def named? (name : List Char) : Option CharSet :=
  let name := looseName name
  ((lookUp? name BinaryProperty.all).orElse fun _ => lookUp? name Category.all).orElse fun _ =>
    lookUp? name Script.all

def valued? (kind value : List Char) : Option CharSet :=
  let value := looseName value
  match looseName kind with
  | "gc" | "generalcategory" => lookUp? value Category.all
  | "sc" | "script" => lookUp? value Script.all
  | "scx" | "scriptextensions" => extendedScript? value
  | "age" => age? value
  | "gcb" | "graphemeclusterbreak" => lookUp? value GraphemeBreak.all
  | "wb" | "wordbreak" => lookUp? value WordBreak.all
  | "sb" | "sentencebreak" => lookUp? value SentenceBreak.all
  | _ => none

end LinkedRaces.Regex.Property
