import LinkedRaces.Settings.Basic
import LinkedRaces.Toml.Printer

/-! Settings as TOML: all values in their sections, or the commented defaults for a new file. -/

namespace LinkedRaces.Settings

open Toml (line quote sectionText)

def greatestInteger : Nat := Number.wordCount 63 - 1

def toToml (s : Settings) : Except SettingsError String :=
  if greatestInteger < s.maxLimit || greatestInteger < s.maxBodySize then
    .error (.unwritable "out-of-range value for an integer")
  else
    let path := match s.dataPath with
      | some path => [line "path" (quote path)]
      | none => []
    .ok <| Text.join "\n" [
      sectionText "general" [line "base_iri" (quote s.baseIri),
        line "log_level" (quote s.logLevel.name)],
      sectionText "query" [line "max_limit" (toString s.maxLimit)],
      sectionText "server" [line "port" (toString s.port), line "host" (quote s.host),
        line "cors_enabled" (if s.corsEnabled then "true" else "false"),
        line "max_body_size" (toString s.maxBodySize)],
      sectionText "data" path,
      sectionText "prefixes" (s.prefixes.map fun (label, ns) => line label (quote ns))]

def template : String :=
  Text.join "\n" [
    "# racegraph configuration",
    "",
    "[general]",
    "# Entity IRIs are minted as <base_iri><collection>/<id>",
    "base_iri = \"http://localhost:8080/\"",
    "# Logging level: quiet, normal, verbose, debug",
    "log_level = \"normal\"",
    "",
    "[query]",
    "# Upper bound for LIMIT; queries without LIMIT get this value",
    "max_limit = 10000",
    "",
    "[server]",
    "port = 8080",
    "host = \"0.0.0.0\"",
    "# Permissive CORS headers for browser clients",
    "cors_enabled = true",
    "# Maximum request body size (bytes)",
    "max_body_size = 1048576",
    "",
    "[data]",
    "# JSON snapshot: \x7b\"events\": [...], \"athletes\": [...], \"results\": [...]\x7d",
    "# path = \"./data.json\"",
    "",
    "[prefixes]",
    "# Extra prefixes for queries and Turtle/JSON-LD output",
    "# ex = \"http://example.org/\"",
    ""]

end LinkedRaces.Settings
