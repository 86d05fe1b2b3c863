import LinkedRaces.Command.Arguments
import LinkedRaces.Command.System
import LinkedRaces.Race.SnapshotReader
import LinkedRaces.Service.Http
import LinkedRaces.Settings.Printer
import LinkedRaces.Settings.Reader

/-!
Running a command. Settings come from a file that is named, or from the first that is found; then
variables and options override them. The first thing that fails ends the command.
-/

namespace LinkedRaces

inductive CommandFault
  | settingsExist (path : String)
  | settingsNotWritten (path : String)
  | settingsFile (path : String)
  | settingsSearch
  | settings
  | data (path : String)
  | triplesUnread (path : String)
  | triplesMalformed (path : String)
  | queryUnread (path : String)
  | inputUnread
  | triplesUnwritable
  | outputNotWritten (path : String)
  | server
  | failure (f : Failure)
deriving DecidableEq, Repr, Inhabited

def CommandFault.message : CommandFault → String
  | settingsExist path => path ++ " already exists (use --force to overwrite)"
  | settingsNotWritten path => "Failed to write config: " ++ path
  | settingsFile path => "Failed to load config: " ++ path
  | settingsSearch => "Failed to load configuration"
  | settings => "Invalid configuration"
  | data path => "Failed to load data file: " ++ path
  | triplesUnread path => "Failed to read triples file: " ++ path
  | triplesMalformed path => "Failed to parse " ++ path
  | queryUnread path => "Failed to read query file: " ++ path
  | inputUnread => "Failed to read query from stdin"
  | triplesUnwritable => "Failed to serialize triples"
  | outputNotWritten path => "Failed to write output file: " ++ path
  | server => "Server failed"
  | failure f => f.display

structure Exit where
  status : Nat
  complaint : Option String
deriving DecidableEq, Repr, Inhabited

def Invocation.override (i : Invocation) (s : Settings) : Settings :=
  { s with
    dataPath := i.dataPath.or s.dataPath
    baseIri := i.baseIri.getD s.baseIri
    logLevel := if i.quiet then .quiet else if i.verbose then .verbose else s.logLevel }

namespace Command

abbrev Action (m : Type → Type) := ExceptT CommandFault m

variable {m : Type → Type} [Monad m]

def require {α : Type} (fault : CommandFault) (action : m (Option α)) : Action m α := do
  match ← (action : ExceptT CommandFault m (Option α)) with
  | some value => return value
  | none => throw fault

def ensure (fault : CommandFault) (action : m Bool) : Action m Unit := do
  if ← (action : ExceptT CommandFault m Bool) then return else throw fault

def readFile? (sys : System m) (path : String) : m (Option String) :=
  Except.toOption <$> sys.readFile path

def overrides (sys : System m) : m (String → Option String) := do
  let found ← Settings.variableNames.mapM fun name => return (name, ← sys.environment name)
  return fun name => (found.lookup name).join

def settingsPaths (directory : Option String) : List String :=
  ["./racegraph.toml"] ++ directory.toList.map (· ++ "/racegraph/config.toml") ++
    ["/etc/racegraph/config.toml"]

def firstPresent (sys : System m) : List String → m (Option String)
  | [] => return none
  | path :: paths => do if ← sys.hasPath path then return some path else firstPresent sys paths

def loadSettings (sys : System m) (fault : CommandFault) (path : String) : Action m Settings := do
  let text ← require fault (readFile? sys path)
  match Settings.load path text with
  | .ok s => return s
  | .error _ => throw fault

def validate (fault : CommandFault) (s : Settings) : Action m Unit :=
  match s.validate with
  | .ok _ => return
  | .error _ => throw fault

/-- The settings of the file that is named, or of the first that is found. The latter have to be
valid also when the variables have overridden them. -/
def baseSettings (sys : System m) (path : Option String) : Action m Settings := do
  let found ← (overrides sys : m _)
  match path with
  | some path => return (← loadSettings sys (.settingsFile path) path).override found
  | none =>
    let file ← (firstPresent sys (settingsPaths (← (sys.settingsDirectory? : m _))) : m _)
    let s ← match file with
      | some path => loadSettings sys .settingsSearch path
      | none => pure {}
    let s := s.override found
    validate .settingsSearch s
    return s

def settings (sys : System m) (i : Invocation) : Action m Settings := do
  let s := i.override (← baseSettings sys i.settingsPath)
  validate .settings s
  return s

def loadSnapshot (sys : System m) : Option String → Action m Snapshot
  | none => return .empty
  | some path => do
    let text ← require (.data path) (readFile? sys path)
    match Snapshot.read? text with
    | some s => return s
    | none => throw (.data path)

def loadTriples (sys : System m) (path : String) : Action m (List Triple) := do
  let text ← require (.triplesUnread path) (readFile? sys path)
  match Turtle.read text with
  | .ok ts => return ts
  | .error _ => throw (.triplesMalformed path)

def loadService (sys : System m) (i : Invocation) (s : Settings) : Action m Service := do
  let snapshot ← loadSnapshot sys s.dataPath
  let extra ← i.triplePaths.mapM (loadTriples sys)
  return ⟨s, snapshot, extra.flatten⟩

def writeOutput (sys : System m) (path : Option String) (body : String) : Action m Unit :=
  match path with
  | some path => ensure (.outputNotWritten path) (sys.writeFile path body)
  | none => sys.print (if body.toList.getLast? = some '\n' then body else body ++ "\n")

/-- A query as an argument: a dash for the input, a file after `@`, or the query itself. -/
def queryText (sys : System m) (arg : String) : Action m String :=
  match arg.toList with
  | ['-'] => require .inputUnread sys.readInput
  | '@' :: path =>
    require (.queryUnread (String.ofList path)) (readFile? sys (String.ofList path))
  | _ => return arg

def orFail {α : Type} : Except Failure α → Action m α
  | .ok value => return value
  | .error f => throw (.failure f)

def runInitSettings (sys : System m) (path : String) (force : Bool) : Action m Unit := do
  if !force && (← (sys.hasPath path : m _)) then throw (.settingsExist path)
  ensure (.settingsNotWritten path) (sys.writeFile path Settings.template)
  sys.report ("Wrote " ++ path)

def runServe (sys : System m) (s : Service) : Action m Unit :=
  match s.settings.address with
  | .ok address => ensure .server (sys.listen address s.handle)
  | .error _ => throw .server

def runDump (sys : System m) (s : Service) (format : GraphFormat) (output : Option String) :
    Action m Unit := do
  match s.dump format with
  | .ok d => writeOutput sys output d.body
  | .error _ => throw .triplesUnwritable

def runQuery (sys : System m) (s : Service) (arg : String) (format output : Option String) :
    Action m Unit := do
  let text ← queryText sys arg
  let formats ← orFail ((format.map AnswerFormats.named).getD (.ok {}))
  let d ← orFail (s.answer text formats)
  writeOutput sys output d.body

def run (sys : System m) (i : Invocation) : Action m Unit := do
  match i.command with
  | .initSettings path force => runInitSettings sys path force
  | .serve host port =>
    let s ← settings sys i
    runServe sys (← loadService sys i { s with host := host.getD s.host, port := port.getD s.port })
  | .dump format output => runDump sys (← loadService sys i (← settings sys i)) format output
  | .query text format output =>
    runQuery sys (← loadService sys i (← settings sys i)) text format output

end Command

def versionText : String := "racegraph 0.1.0\n"

def usageText : String :=
  Text.join "\n" [
    "Linked-data view and SPARQL endpoint for race events, athletes and results",
    "",
    "Usage: racegraph [OPTIONS] <COMMAND>",
    "",
    "Commands:",
    "  serve        Run the HTTP endpoint",
    "  dump         Serialize every mapped triple",
    "  query        Run one query against the mapped triples",
    "  init-config  Write a commented default configuration file",
    "  help         Print this message or the help of the given subcommand(s)",
    "",
    "Options:",
    "  -c, --config <FILE>   Configuration file (defaults to the standard search paths)",
    "      --data <FILE>     JSON snapshot of events, athletes and results",
    "      --base <IRI>      Base IRI for minted entity IRIs",
    "      --triples <FILE>  Turtle or N-Triples files added to every store",
    "  -v, --verbose         Verbose output",
    "  -q, --quiet           Quiet mode (errors only)",
    "  -h, --help            Print help",
    "  -V, --version         Print version",
    ""]

def runProgram {m : Type → Type} [Monad m] (sys : System m) (args : List String) : m Exit := do
  match Arguments.parse args with
  | .error .version =>
    sys.print versionText
    return ⟨0, none⟩
  | .error .help =>
    sys.print usageText
    return ⟨0, none⟩
  | .error .misuse =>
    sys.report usageText
    return ⟨2, none⟩
  | .ok i =>
    match ← (Command.run sys i).run with
    | .ok _ => return ⟨0, none⟩
    | .error fault => return ⟨1, some fault.message⟩

end LinkedRaces
