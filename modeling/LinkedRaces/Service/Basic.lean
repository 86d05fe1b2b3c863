import LinkedRaces.Format.Results
import LinkedRaces.Graph.Writer
import LinkedRaces.Race.Mapping
import LinkedRaces.Results.Writer
import LinkedRaces.Settings.Basic

/-!
What the service does with its data: it writes all triples, or answers a query. Each time the
snapshot is mapped anew, so that no request sees anything of another.
-/

namespace LinkedRaces

structure Document where
  contentType : String
  body : String
deriving DecidableEq, Repr, Inhabited

structure AnswerFormats where
  results : ResultsFormat := .json
  graph : GraphFormat := .turtle
deriving DecidableEq, Repr, Inhabited

def GraphFormat.named (name : String) : Except Failure GraphFormat :=
  match GraphFormat.ofName? name with
  | some format => .ok format
  | none => .error (.unknownFormat name GraphFormat.names)

/-- One name may stand for a format of either kind, or of both. A kind that it does not name keeps
its default. -/
def AnswerFormats.named (name : String) : Except Failure AnswerFormats :=
  match ResultsFormat.ofName? name, GraphFormat.ofName? name with
  | none, none => .error (.unknownFormat name (ResultsFormat.names ++ GraphFormat.names))
  | results, graph => .ok ⟨results.getD .json, graph.getD .turtle⟩

structure Service where
  settings : Settings
  snapshot : Snapshot
  extra : List Triple
deriving Inhabited

namespace Service

def store (s : Service) : Store :=
  ⟨Mapping.snapshot (Mapping.normalBase s.settings.baseIri) s.snapshot ++ s.extra⟩

def writeGraph (t : Namespaces) (ts : List Triple) (format : GraphFormat) :
    Except Failure Document :=
  match LinkedRaces.writeGraph t ts format with
  | .ok body => .ok ⟨format.contentType, body⟩
  | .error e => .error (.ofWrite e)

def writeAnswer (a : Answer) (format : ResultsFormat) : Except Failure Document :=
  match LinkedRaces.writeAnswer a format with
  | .ok body => .ok ⟨format.contentType, body⟩
  | .error e => .error (.ofWrite e)

def dump (s : Service) (format : GraphFormat) : Except Failure Document :=
  writeGraph s.settings.namespaces s.store.triples format

def parse (s : Service) (text : String) : Except Failure Query :=
  match Query.parseWith s.settings.namespaces s.settings.maxLimit text with
  | .ok q => .ok q
  | .error e => .error (.ofQuery e)

/-- The answer to a query. A graph is written with the prefixes and the base of the query. -/
def answer (s : Service) (text : String) (formats : AnswerFormats) : Except Failure Document := do
  let q ← s.parse text
  match q.execute s.store with
  | .graph ts => writeGraph q.namespaces ts formats.graph
  | a => writeAnswer a formats.results

end Service

end LinkedRaces
