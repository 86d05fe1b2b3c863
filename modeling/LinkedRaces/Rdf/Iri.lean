import LinkedRaces.Text.Basic

/-! IRI references: scheme, resolution against a base, relative form, and the split into names. -/

namespace LinkedRaces

structure Iri where
  text : String
deriving DecidableEq, Repr, Inhabited

namespace Iri

def isSchemeChar (c : Char) : Bool := c.isAlphanum || c == '+' || c == '-' || c == '.'

/-- A letter and then scheme characters stand before the first colon. -/
def hasScheme (cs : List Char) : Bool :=
  match Text.splitAt? [':'] cs with
  | some (c :: scheme, _) => c.isAlpha && scheme.all isSchemeChar
  | _ => false

/-- Everything up to the path, if a host is named. -/
def origin? (base : List Char) : Option (List Char) :=
  (Text.splitAt? "://".toList base).map fun (scheme, rest) =>
    scheme ++ "://".toList ++ rest.takeWhile (· != '/')

def directory (base : List Char) : List Char :=
  match Text.splitAfterLast? '/' base with
  | some (dir, _) => dir
  | none => base

def resolveChars (base reference : List Char) : List Char :=
  if hasScheme reference then reference
  else
    match reference with
    | [] => base
    | '#' :: _ => base.takeWhile (· != '#') ++ reference
    | '/' :: _ => (origin? base).getD (directory base) ++ reference
    | _ => directory base ++ reference

def resolve (base : Iri) (reference : String) : Iri :=
  ⟨String.ofList (resolveChars base.text.toList reference.toList)⟩

def relativeChars? (base iri : List Char) : Option (List Char) :=
  if base.getLast? = some '/' then
    (Text.dropBeginning? base iri).filter fun rest =>
      !rest.isEmpty && rest.head? != some '/' && !hasScheme rest
  else none

/-- The part of the IRI below `base`. Only a base that ends in a slash has parts below it: a
relative path is read against the directory of the base. -/
def relativeTo? (iri : Iri) (base : String) : Option String :=
  (relativeChars? base.toList iri.text.toList).map String.ofList

/-- Namespace and local name, split after the last `#`, else after the last slash. -/
def splitName (iri : List Char) : List Char × List Char :=
  match Text.splitAfterLast? '#' iri with
  | some parts => parts
  | none => (Text.splitAfterLast? '/' iri).getD (iri, [])

def display (iri : Iri) : String := "<" ++ iri.text ++ ">"

def order (a b : Iri) : Ordering := Text.order a.text b.text

end Iri

end LinkedRaces
