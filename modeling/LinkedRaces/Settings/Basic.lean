import LinkedRaces.Failure
import LinkedRaces.Http.Address
import LinkedRaces.Query.Basic
import LinkedRaces.Rdf.Namespaces

/-!
How the service is set up, with the values that hold if nothing is said, what is refused, and the
variables that override them.
-/

namespace LinkedRaces

inductive LogLevel
  | quiet | normal | verbose | debug
deriving DecidableEq, Repr, Inhabited

namespace LogLevel

def name : LogLevel → String
  | quiet => "quiet"
  | normal => "normal"
  | verbose => "verbose"
  | debug => "debug"

def all : List LogLevel := [quiet, normal, verbose, debug]

def ofName? (name : String) : Option LogLevel := all.find? (·.name == name)

def ofText? (text : String) : Option LogLevel :=
  match Text.lowercase text with
  | "quiet" | "q" | "0" => some quiet
  | "normal" | "n" | "1" => some normal
  | "verbose" | "v" | "2" => some verbose
  | "debug" | "d" | "3" => some debug
  | _ => none

def directive : LogLevel → String
  | quiet => "error"
  | normal => "info"
  | verbose => "debug"
  | debug => "trace"

def filter (level : LogLevel) : String :=
  "warn,racegraph=" ++ level.directive ++ ",tower_http=" ++ level.directive

end LogLevel

structure Settings where
  baseIri : String := "http://localhost:8080/"
  logLevel : LogLevel := .normal
  maxLimit : Nat := defaultLimit
  port : Nat := 8080
  host : String := "0.0.0.0"
  corsEnabled : Bool := true
  maxBodySize : Nat := 1048576
  dataPath : Option String := none
  prefixes : List (String × String) := []
deriving DecidableEq, Repr, Inhabited

inductive SettingsFault
  | relativeBase (baseIri : String)
  | noLimit
  | prefixName (label : String)
deriving DecidableEq, Repr, Inhabited

def SettingsFault.message : SettingsFault → String
  | relativeBase baseIri => "base_iri must be an absolute IRI, got '" ++ baseIri ++ "'"
  | noLimit => "max_limit must be at least 1"
  | prefixName label => "'" ++ label ++ "' is not a valid prefix name"

inductive SettingsError
  | unreadable (path reason : String)
  | malformed (path reason : String)
  | unwritable (reason : String)
  | invalid (reason : String)
deriving DecidableEq, Repr, Inhabited

def SettingsError.message : SettingsError → String
  | unreadable path reason => "IO error reading " ++ path ++ ": " ++ reason
  | malformed path reason => "Parse error in " ++ path ++ ": " ++ reason
  | unwritable reason => "Serialization error: " ++ reason
  | invalid reason => "Invalid configuration: " ++ reason

def Failure.ofSettings (e : SettingsError) : Failure :=
  match e with
  | .unreadable .. => ⟨.settingsNotFound, e.message, none⟩
  | .malformed .. => ⟨.invalidSettings, e.message, none⟩
  | .unwritable _ | .invalid _ => ⟨.settingsError, e.message, none⟩

namespace Settings

def fault? (s : Settings) : Option SettingsFault :=
  if !Text.occursIn "://".toList s.baseIri.toList then some (.relativeBase s.baseIri)
  else if s.maxLimit = 0 then some .noLimit
  else (s.prefixes.find? fun (label, _) => !isPrefixLabel label.toList).map (.prefixName ·.1)

def validate (s : Settings) : Except SettingsError Unit :=
  match s.fault? with
  | some fault => .error (.invalid fault.message)
  | none => .ok ()

def namespaces (s : Settings) : Namespaces :=
  let t := Namespaces.wellKnown.setBase ⟨Mapping.normalBase s.baseIri⟩
  { t with prefixes := t.prefixes.insertAll s.prefixes }

def address (s : Settings) : Except Failure Address :=
  match Host.read? s.host with
  | some host => .ok ⟨host, s.port⟩
  | none =>
    .error ⟨.settingsError, "Invalid listen address " ++ s.host ++ ":" ++ toString s.port ++
      ": invalid socket address syntax", none⟩

def variableNames : List String := [
  "RACEGRAPH_BASE_IRI", "RACEGRAPH_MAX_LIMIT", "RACEGRAPH_LOG_LEVEL", "RACEGRAPH_HOST",
  "RACEGRAPH_PORT", "RACEGRAPH_DATA"]

/-- The settings after the variables that `lookup` finds. Values that cannot be read are ignored. -/
def override (s : Settings) (lookup : String → Option String) : Settings :=
  let number (bits : Nat) (name : String) (default : Nat) : Nat :=
    ((lookup name).bind fun value => Number.readUnsigned? bits value.toList).getD default
  { s with
    baseIri := (lookup "RACEGRAPH_BASE_IRI").getD s.baseIri
    maxLimit := number 64 "RACEGRAPH_MAX_LIMIT" s.maxLimit
    logLevel := ((lookup "RACEGRAPH_LOG_LEVEL").bind LogLevel.ofText?).getD s.logLevel
    host := (lookup "RACEGRAPH_HOST").getD s.host
    port := number 16 "RACEGRAPH_PORT" s.port
    dataPath := (lookup "RACEGRAPH_DATA").or s.dataPath }

end Settings

end LinkedRaces
