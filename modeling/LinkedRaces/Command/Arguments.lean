import LinkedRaces.Format.Graph
import LinkedRaces.Number.Integer

/-!
What the arguments of a command line ask for. Options may be long or short, and short ones may share
a dash; a value stands in the next argument or follows directly. Some options may stand before or
after the name of the command, and what stands after it counts.
-/

namespace LinkedRaces

inductive Command
  | serve (host : Option String) (port : Option Nat)
  | dump (format : GraphFormat) (output : Option String)
  | query (text : String) (format output : Option String)
  | initSettings (path : String) (force : Bool)
deriving DecidableEq, Repr, Inhabited

structure Invocation where
  settingsPath : Option String
  dataPath : Option String
  baseIri : Option String
  triplePaths : List String
  verbose : Bool
  quiet : Bool
  command : Command
deriving DecidableEq, Repr, Inhabited

inductive Stop
  | help
  | version
  | misuse
deriving DecidableEq, Repr, Inhabited

namespace Arguments

inductive OptionName
  | settings | data | base | triples | verbose | quiet | host | port | format | output | force
  | help | version
deriving DecidableEq, Repr, Inhabited

structure OptionForm where
  name : OptionName
  long : String
  short : Option Char := none
  accepts : Option (String → Bool) := none
  repeatable : Bool := false

def isPath (value : String) : Bool := !value.isEmpty

def port? (value : String) : Option Nat :=
  ((Number.readInt64? value.toList).filter fun n => 0 ≤ n && n < 65536).map Int.toNat

def helpOption : OptionForm := { name := .help, long := "help", short := some 'h' }

def commonOptions : List OptionForm := [
  { name := .settings, long := "config", short := some 'c', accepts := some isPath },
  { name := .data, long := "data", accepts := some isPath },
  { name := .base, long := "base", accepts := some fun _ => true },
  { name := .triples, long := "triples", accepts := some isPath, repeatable := true },
  { name := .verbose, long := "verbose", short := some 'v' },
  { name := .quiet, long := "quiet", short := some 'q' },
  helpOption]

def leadingOptions : List OptionForm :=
  commonOptions ++ [{ name := .version, long := "version", short := some 'V' }]

inductive CommandName
  | serve | dump | query | initSettings
deriving DecidableEq, Repr, Inhabited

namespace CommandName

def text : CommandName → String
  | serve => "serve"
  | dump => "dump"
  | query => "query"
  | initSettings => "init-config"

def all : List CommandName := [serve, dump, query, initSettings]

def ofText? (text : String) : Option CommandName := all.find? (·.text == text)

def outputOption : OptionForm :=
  { name := .output, long := "output", short := some 'o', accepts := some isPath }

def formatOption (accepts : String → Bool) : OptionForm :=
  { name := .format, long := "format", short := some 'f', accepts := some accepts }

def options : CommandName → List OptionForm
  | serve => commonOptions ++ [
      { name := .host, long := "host", accepts := some fun _ => true },
      { name := .port, long := "port", short := some 'p',
        accepts := some fun v => (port? v).isSome }]
  | dump => commonOptions ++ [formatOption fun v => (GraphFormat.ofName? v).isSome, outputOption]
  | query => commonOptions ++ [formatOption fun _ => true, outputOption]
  | initSettings => commonOptions ++ [{ name := .force, long := "force" }]

def takes : CommandName → Nat → String → Bool
  | query, 0, _ => true
  | initSettings, 0, path => isPath path
  | _, _, _ => false

end CommandName

structure Given where
  options : List (OptionName × String) := []
  plain : List String := []

namespace Given

def value? (g : Given) (name : OptionName) : Option String := g.options.lookup name

def has (g : Given) (name : OptionName) : Bool := (g.value? name).isSome

def values (g : Given) (name : OptionName) : List String :=
  ((g.options.filter (·.1 == name)).map (·.2)).reverse

/-- Help and the version are given at once. No other option comes twice unless it may. -/
def addOption (g : Given) (o : OptionForm) (value : String) : Except Stop Given :=
  if o.name = .help then .error .help
  else if o.name = .version then .error .version
  else if (g.has o.name && !o.repeatable) || !(o.accepts.all (· value)) then .error .misuse
  else .ok { g with options := (o.name, value) :: g.options }

end Given

/-- What an argument that begins with a dash leaves: options are added, and the last one may still
need its value. -/
abbrev Pending := Given × Option OptionForm

def readLong (forms : List OptionForm) (g : Given) (cs : List Char) : Except Stop Pending :=
  let (name, value) := match Text.splitAt? ['='] cs with
    | some (name, value) => (name, some (String.ofList value))
    | none => (cs, none)
  match forms.find? (·.long == String.ofList name) with
  | none => .error .misuse
  | some o =>
    match o.accepts, value with
    | some _, some value => (g.addOption o value).map (·, none)
    | some _, none => .ok (g, some o)
    | none, none => (g.addOption o "").map (·, none)
    | none, some _ => .error .misuse

def attached : List Char → String
  | '=' :: cs => String.ofList cs
  | cs => String.ofList cs

def readShort (forms : List OptionForm) (g : Given) : List Char → Except Stop Pending
  | [] => .ok (g, none)
  | c :: cs =>
    match forms.find? (·.short == some c) with
    | none => .error .misuse
    | some o =>
      if o.accepts.isNone then do
        let g ← g.addOption o ""
        readShort forms g cs
      else if cs.isEmpty then .ok (g, some o)
      else (g.addOption o (attached cs)).map (·, none)

/-- Arguments that begin with a dash and go on are no values. -/
inductive Argument
  | plain (text : String)
  | long (cs : List Char)
  | short (cs : List Char)
  | divider
deriving DecidableEq, Repr, Inhabited

def Argument.ofText (text : String) : Argument :=
  match text.toList with
  | ['-', '-'] => .divider
  | '-' :: '-' :: cs => .long cs
  | '-' :: c :: cs => .short (c :: cs)
  | _ => .plain text

structure Level where
  options : List OptionForm
  /-- Whether a plain argument is taken after so many others; nothing if it ends the level. -/
  takes : Option (Nat → String → Bool)

def Level.addPlain (l : Level) (g : Given) (text : String) : Except Stop Given :=
  if l.takes.any (· g.plain.length text) then .ok { g with plain := text :: g.plain }
  else .error .misuse

def Level.readDashed (l : Level) (g : Given) : Argument → Except Stop Pending
  | .long cs => readLong l.options g cs
  | .short cs => readShort l.options g cs
  | .plain _ | .divider => .error .misuse

def Level.read (l : Level) (g : Given) : List String → Except Stop (Given × List String)
  | [] => .ok (g, [])
  | arg :: rest =>
    match Argument.ofText arg with
    | .divider => do
      let g ← rest.foldlM l.addPlain g
      if l.takes.isNone then .error .misuse else .ok (g, [])
    | .plain text =>
      if l.takes.isNone then .ok (g, arg :: rest)
      else do
        let g ← l.addPlain g text
        l.read g rest
    | dashed => do
      match ← l.readDashed g dashed, rest with
      | (g, none), rest => l.read g rest
      | (_, some _), [] => .error .misuse
      | (g, some o), value :: rest =>
        match Argument.ofText value with
        | .plain value => do
          let g ← g.addOption o value
          l.read g rest
        | _ => .error .misuse

def CommandName.level (c : CommandName) : Level := ⟨c.options, some c.takes⟩

def CommandName.command (c : CommandName) (g : Given) : Except Stop Command :=
  match c with
  | .serve => .ok (.serve (g.value? .host) ((g.value? .port).bind port?))
  | .dump =>
    let format := (g.value? .format).bind GraphFormat.ofName?
    .ok (.dump (format.getD .turtle) (g.value? .output))
  | .query =>
    match g.plain with
    | [text] => .ok (.query text (g.value? .format) (g.value? .output))
    | _ => .error .misuse
  | .initSettings => .ok (.initSettings (g.plain.headD "racegraph.toml") (g.has .force))

def helpOn : List String → Stop
  | [] => .help
  | [name] => if name = "help" ∨ (CommandName.ofText? name).isSome then .help else .misuse
  | _ => .misuse

def parse (args : List String) : Except Stop Invocation := do
  let (before, rest) ← Level.read ⟨leadingOptions, none⟩ {} args
  match rest with
  | [] => .error .misuse
  | name :: rest =>
    if name = "help" then .error (helpOn rest)
    else
      match CommandName.ofText? name with
      | none => .error .misuse
      | some c =>
        let (own, _) ← c.level.read {} rest
        let value? (o : OptionName) : Option String := (own.value? o).or (before.value? o)
        let triples := own.values .triples
        return {
          settingsPath := value? .settings
          dataPath := value? .data
          baseIri := value? .base
          triplePaths := if triples.isEmpty then before.values .triples else triples
          verbose := (value? .verbose).isSome
          quiet := (value? .quiet).isSome
          command := ← c.command own }

end Arguments

end LinkedRaces
