import LinkedRaces.Graph.Turtle.Reader
import LinkedRaces.Graph.Writable
import LinkedRaces.Json.Printer
import LinkedRaces.Query.Error
import LinkedRaces.Race.Mapping

/-!
What the outside is told when something fails: a code, a message, and sometimes a hint. The code
fixes the number, the description and the HTTP status.
-/

namespace LinkedRaces

inductive FailureCode
  | invalidQuery | invalidTurtle | unsupportedFeature
  | mappingFailed
  | dataNotFound
  | emptyInput | inputTooLarge | invalidFormat | unknownFormat
  | settingsError | settingsNotFound | invalidSettings
  | internalError | serializationFailed
deriving DecidableEq, Repr, Inhabited

structure FailureCode.Entry where
  name : String
  number : Nat
  status : Nat
  description : String

namespace FailureCode

def entry : FailureCode → Entry
  | invalidQuery => ⟨"INVALID_SPARQL", 1003, 400, "Invalid SPARQL syntax"⟩
  | invalidTurtle => ⟨"INVALID_TURTLE", 1004, 400, "Invalid Turtle syntax"⟩
  | unsupportedFeature => ⟨"UNSUPPORTED_FEATURE", 1008, 400, "Unsupported query feature"⟩
  | mappingFailed => ⟨"MAPPING_FAILED", 2001, 400, "Entity mapping failed"⟩
  | dataNotFound => ⟨"DATA_NOT_FOUND", 3001, 404, "Data not found"⟩
  | emptyInput => ⟨"EMPTY_INPUT", 5001, 400, "Empty input"⟩
  | inputTooLarge => ⟨"INPUT_TOO_LARGE", 5002, 413, "Input too large"⟩
  | invalidFormat => ⟨"INVALID_FORMAT", 5003, 400, "Invalid format"⟩
  | unknownFormat => ⟨"UNKNOWN_FORMAT", 5006, 400, "Unknown output format"⟩
  | settingsError => ⟨"CONFIG_ERROR", 7000, 500, "Configuration error"⟩
  | settingsNotFound => ⟨"CONFIG_NOT_FOUND", 7001, 404, "Configuration file not found"⟩
  | invalidSettings => ⟨"INVALID_CONFIG_SYNTAX", 7002, 500, "Invalid configuration syntax"⟩
  | internalError => ⟨"INTERNAL_ERROR", 9000, 500, "Internal error"⟩
  | serializationFailed => ⟨"SERIALIZATION_FAILED", 9003, 500, "Serialization failed"⟩

def name (c : FailureCode) : String := c.entry.name
def number (c : FailureCode) : Nat := c.entry.number
def status (c : FailureCode) : Nat := c.entry.status
def description (c : FailureCode) : String := c.entry.description

def all : List FailureCode := [
  invalidQuery, invalidTurtle, unsupportedFeature, mappingFailed, dataNotFound, emptyInput,
  inputTooLarge, invalidFormat, unknownFormat, settingsError, settingsNotFound, invalidSettings,
  internalError, serializationFailed]

def ofName? (name : String) : Option FailureCode := all.find? (·.name == name)

def isClientError (c : FailureCode) : Bool := 400 ≤ c.status && c.status < 500

def isServerError (c : FailureCode) : Bool := 500 ≤ c.status && c.status < 600

end FailureCode

structure Failure where
  code : FailureCode
  message : String
  hint : Option String := none
deriving DecidableEq, Repr, Inhabited

namespace Failure

def withHint (f : Failure) (hint : String) : Failure := { f with hint := some hint }

def display (f : Failure) : String :=
  "[" ++ toString f.code.number ++ "] " ++ f.message ++
    match f.hint with
    | some hint => "\nHint: " ++ hint
    | none => ""

def hintField (f : Failure) : List (String × Json) :=
  match f.hint with
  | some hint => [("hint", .string hint)]
  | none => []

def toJson (f : Failure) : Json :=
  .object ([("code", .string f.code.name), ("message", .string f.message)] ++ f.hintField)

def body (f : Failure) : Json :=
  .object ([("error", .string f.message), ("code", .string f.code.name),
    ("status", .ofNat f.code.status)] ++ f.hintField)

def emptyInput (field : String) : Failure := ⟨.emptyInput, field ++ " cannot be empty", none⟩

def inputTooLarge (limit : Nat) : Failure :=
  ⟨.inputTooLarge, "Request body exceeds limit " ++ toString limit,
    some "Send a smaller request or raise server.max_body_size"⟩

def unknownFormat (name : String) (supported : List String) : Failure :=
  ⟨.unknownFormat, "Unknown format: " ++ name,
    some ("Supported formats: " ++ Text.join ", " supported)⟩

def ofQuery (e : QueryError) : Failure :=
  match e with
  | .malformed .. => ⟨.invalidQuery, e.message, none⟩
  | .unsupported _ => ⟨.unsupportedFeature, e.message, none⟩

def ofTurtle (e : Turtle.ReadError) : Failure := ⟨.invalidTurtle, e.message, none⟩

def ofWrite (e : WriteError) : Failure := ⟨.serializationFailed, e.message, none⟩

def ofMapping (e : MappingError) : Failure := ⟨.mappingFailed, e.message, none⟩

end Failure

inductive FileFault
  | missing
  | other
deriving DecidableEq, Repr, Inhabited

def Failure.ofFile (fault : FileFault) (reason : String) : Failure :=
  match fault with
  | .missing => ⟨.dataNotFound, reason, none⟩
  | .other => ⟨.internalError, reason, none⟩

end LinkedRaces
