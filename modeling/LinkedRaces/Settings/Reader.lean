import LinkedRaces.Settings.Basic
import LinkedRaces.Toml.Reader

/-!
Settings from TOML. A section is a table, or a list of its values in order. What is missing takes
its default, and what is unknown is ignored.
-/

namespace LinkedRaces.SettingsReader

def fields? (names : List String) (value : Toml) : Option (List (Option Toml)) :=
  match value.entries?, value.items? with
  | some entries, _ => some (names.map fun name => (entries.find? (·.1 == name)).map (·.2))
  | none, some items =>
    some ((items.take names.length).map some ++
      List.replicate (names.length - items.length) none)
  | none, none => none

def text? : Toml → Option String
  | .string text => some text
  | _ => none

def bool? : Toml → Option Bool
  | .bool value => some value
  | _ => none

def word? (bits : Nat) : Toml → Option Nat
  | .integer n => if 0 ≤ n ∧ n < Number.wordCount bits then some n.toNat else none
  | _ => none

def isEmpty : Toml → Bool
  | .array items => items.isEmpty
  | .table _ entries => entries.isEmpty
  | _ => false

/-- A name, or a table whose one entry has that name and is empty. -/
def logLevel? : Toml → Option LogLevel
  | .string name => LogLevel.ofName? name
  | .table _ [(name, value)] => if isEmpty value then LogLevel.ofName? name else none
  | _ => none

def textEntry? (entry : String × Toml) : Option (String × String) :=
  (text? entry.2).map (entry.1, ·)

def prefixes? (value : Toml) : Option (List (String × String)) := do
  let prefixes ← (← value.entries?).mapM textEntry?
  return prefixes.mergeSort fun a b => (Text.order a.1 b.1).isLE

def withDefault {α : Type} (default : α) (read : Toml → Option α) : Option Toml → Option α
  | none => some default
  | some value => read value

def general? (s : Settings) (value : Toml) : Option Settings := do
  match ← fields? ["base_iri", "log_level"] value with
  | [baseIri, logLevel] =>
    return { s with
      baseIri := ← withDefault s.baseIri text? baseIri
      logLevel := ← withDefault s.logLevel logLevel? logLevel }
  | _ => none

def query? (s : Settings) (value : Toml) : Option Settings := do
  match ← fields? ["max_limit"] value with
  | [maxLimit] => return { s with maxLimit := ← withDefault s.maxLimit (word? 64) maxLimit }
  | _ => none

def server? (s : Settings) (value : Toml) : Option Settings := do
  match ← fields? ["port", "host", "cors_enabled", "max_body_size"] value with
  | [port, host, corsEnabled, maxBodySize] =>
    return { s with
      port := ← withDefault s.port (word? 16) port
      host := ← withDefault s.host text? host
      corsEnabled := ← withDefault s.corsEnabled bool? corsEnabled
      maxBodySize := ← withDefault s.maxBodySize (word? 64) maxBodySize }
  | _ => none

def data? (s : Settings) (value : Toml) : Option Settings := do
  match ← fields? ["path"] value with
  | [path] =>
    return { s with dataPath := ← withDefault s.dataPath (fun v => (text? v).map some) path }
  | _ => none

def settings? (value : Toml) : Option Settings := do
  match ← fields? ["general", "query", "server", "data", "prefixes"] value with
  | [general, query, server, data, prefixes] =>
    let s ← withDefault {} (general? {}) general
    let s ← withDefault s (query? s) query
    let s ← withDefault s (server? s) server
    let s ← withDefault s (data? s) data
    return { s with prefixes := ← withDefault [] prefixes? prefixes }
  | _ => none

end SettingsReader

namespace Settings

def read? (text : String) : Option Settings :=
  (Toml.read? text).bind fun entries => SettingsReader.settings? (.table .header entries)

def load (path text : String) : Except SettingsError Settings :=
  match read? text with
  | none => .error (.malformed path "not a settings document")
  | some s => (s.validate).map fun _ => s

end Settings

end LinkedRaces
