import LinkedRaces.Command.System
import LinkedRaces.Dictionary
import LinkedRaces.Text.Basic

/-!
A system in memory: files by their paths, variables, input and output. A directory is there if a
file is in it; the working directory always is.
-/

namespace LinkedRaces

structure Machine where
  files : Dictionary String
  environment : Dictionary String := ∅
  settingsDirectory : Option String := none
  input : String := ""
  output : String := ""
  reports : List String := []

/-- A place in the tree of files, by the names on the way to it from the root or from the working
directory, the last first. Names that lead upwards stand before all others. -/
structure Place where
  fromRoot : Bool
  names : List String
deriving DecidableEq, Repr, Inhabited

namespace Place

def text (p : Place) : String :=
  (if p.fromRoot then "/" else "") ++ Text.join "/" p.names.reverse

def parent (p : Place) : Place :=
  match p.names with
  | [] => if p.fromRoot then p else { p with names := [".."] }
  | ".." :: _ => { p with names := ".." :: p.names }
  | _ :: names => { p with names }

def child (p : Place) (name : String) : Place := { p with names := name :: p.names }

def isAncestor (p : Place) : Bool := p.names.all (· == "..")

end Place

namespace Machine

def isDirectory (m : Machine) (p : Place) : Bool :=
  p.isAncestor || m.files.keys.any ((p.text ++ "/").isPrefixOf ·)

def step? (m : Machine) (p : Place) (part : List Char) : Option Place :=
  if !m.isDirectory p then none
  else
    match part with
    | [] | ['.'] => some p
    | ['.', '.'] => some p.parent
    | name => some (p.child (String.ofList name))

def place? (m : Machine) (path : String) : Option Place :=
  match path.toList with
  | [] => none
  | '/' :: cs => (Text.splitAll (· == '/') cs).foldlM m.step? ⟨true, []⟩
  | cs => (Text.splitAll (· == '/') cs).foldlM m.step? ⟨false, []⟩

def readFile (m : Machine) (path : String) : Except FileFault String :=
  match m.place? path with
  | none => .error .missing
  | some p =>
    match m.files.get? p.text with
    | some text => .ok text
    | none => .error (if m.isDirectory p then .other else .missing)

def hasPath (m : Machine) (path : String) : Bool :=
  match m.place? path with
  | none => false
  | some p => (m.files.get? p.text).isSome || m.isDirectory p

/-- The machine with a file of that text, unless the path leads nowhere or to a directory. -/
def write? (m : Machine) (path text : String) : Option Machine := do
  let p ← m.place? path
  if m.isDirectory p then none
  return { m with files := m.files.insert p.text text }

def system : System (StateM Machine) where
  readFile path := return (← get).readFile path
  hasPath path := return (← get).hasPath path
  writeFile path text := do
    match (← get).write? path text with
    | some m =>
      set m
      return true
    | none => return false
  environment name := return (← get).environment.get? name
  settingsDirectory? := return (← get).settingsDirectory
  readInput := return some (← get).input
  print text := modify fun m => { m with output := m.output ++ text }
  report text := modify fun m => { m with reports := m.reports ++ [text] }
  listen _ _ := return true

end Machine

end LinkedRaces
