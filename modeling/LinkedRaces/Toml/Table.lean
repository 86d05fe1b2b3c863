/-!
TOML values, and how tables are built. A table remembers how it came about, since that decides what
may still be added to it. A key is defined once. A dotted key goes only through tables that have no
header and no braces of their own, and ends in one that dotted keys made; a header may go through
any table, and opens one that at most was passed through before.
-/

namespace LinkedRaces

/-- How a table came about: by a header of its own, on the way to the header of another table, on
the way of a dotted key, or in braces. -/
inductive Toml.Standing
  | header | way | dotted | inline
deriving DecidableEq, Repr, Inhabited

inductive Toml
  | string (text : String)
  | integer (value : Int)
  | float (text : String)
  | bool (value : Bool)
  | moment (text : String)
  | array (items : List Toml)
  /-- Tables that were added to a list one by one. -/
  | tables (items : List Toml)
  | table (standing : Toml.Standing) (entries : List (String × Toml))
deriving Repr, Inhabited

namespace Toml

abbrev Entries := List (String × Toml)

/-- The name of the one entry that a date or a time has where a table is wanted. -/
def momentName : String := "$__toml_private_datetime"

def entries? : Toml → Option Entries
  | .table _ entries => some entries
  | .moment text => some [(momentName, .string text)]
  | _ => none

def items? : Toml → Option (List Toml)
  | .array items | .tables items => some items
  | _ => none

end Toml

end LinkedRaces

namespace LinkedRaces.Toml

structure Key where
  way : List String
  name : String
deriving DecidableEq, Repr, Inhabited

def changeEntry (name : String) (f : Option Toml → Option Toml) : Entries → Option Entries
  | [] => (f none).map fun value => [(name, value)]
  | (n, value) :: rest =>
    if n = name then (f (some value)).map fun value => (n, value) :: rest
    else (changeEntry name f rest).map ((n, value) :: ·)

def changeLast (f : Toml → Option Toml) : List Toml → Option (List Toml)
  | [] => none
  | [item] => (f item).map ([·])
  | item :: items => (changeLast f items).map (item :: ·)

/-- A dotted key may go through a table of this standing, and end there if nothing follows. -/
def Standing.admitsDotted (standing : Standing) (isLast : Bool) : Bool :=
  match standing with
  | .dotted => true
  | .way => !isLast
  | .header | .inline => false

/-- Changes the entries of the table at the end of a way, making the tables that are missing. A
list of tables stands for its last one. -/
def changeWithin (dotted : Bool) (f : Entries → Option Entries) :
    List String → Entries → Option Entries
  | [], entries => f entries
  | name :: way, entries =>
    let go := changeWithin dotted f way
    changeEntry name (fun
      | none => (go []).map (.table (if dotted then .dotted else .way))
      | some (.table standing entries) =>
        if standing = .inline || (dotted && !standing.admitsDotted way.isEmpty) then none
        else (go entries).map (.table standing)
      | some (.tables items) =>
        if dotted && way.isEmpty then none
        else (changeLast (fun
          | .table standing entries => (go entries).map (.table standing)
          | _ => none) items).map .tables
      | some _ => none) entries

def define (key : Key) (value : Toml) : Entries → Option Entries :=
  changeWithin true (changeEntry key.name fun
    | none => some value
    | some _ => none) key.way

def openTable (key : Key) : Entries → Option Entries :=
  changeWithin false (changeEntry key.name fun
    | none => some (.table .header [])
    | some (.table .way entries) => some (.table .header entries)
    | some _ => none) key.way

def openItem (key : Key) : Entries → Option Entries :=
  changeWithin false (changeEntry key.name fun
    | none => some (.tables [.table .header []])
    | some (.tables items) => some (.tables (items ++ [.table .header []]))
    | some _ => none) key.way

def defineAll : List (Key × Toml) → Entries → Option Entries
  | [], entries => some entries
  | (key, value) :: rest, entries => (define key value entries).bind (defineAll rest)

inductive Statement
  | table (key : Key)
  | item (key : Key)
  | entry (key : Key) (value : Toml)
deriving Repr, Inhabited

structure Draft where
  entries : Entries
  opened : List String
deriving Repr, Inhabited

def Draft.empty : Draft := ⟨[], []⟩

def Draft.add (d : Draft) : Statement → Option Draft
  | .table key => (openTable key d.entries).map (⟨·, key.way ++ [key.name]⟩)
  | .item key => (openItem key d.entries).map (⟨·, key.way ++ [key.name]⟩)
  | .entry key value =>
    (changeWithin false (define key value) d.opened d.entries).map (⟨·, d.opened⟩)

def assemble (statements : List Statement) : Option Entries :=
  (statements.foldlM Draft.add .empty).map Draft.entries

end LinkedRaces.Toml
