import LinkedRaces.Http.Message
import LinkedRaces.Rdf.Iri
import LinkedRaces.Service.Basic

/-!
The service over HTTP. `/rdf` has all triples, `/sparql` answers queries or describes itself, and
`/health` tells that the service is up. The format is named by a parameter or negotiated. Where
other origins are let in, each response says so.
-/

namespace LinkedRaces

def formatNamespace : String := "http://www.w3.org/ns/formats/"

def describedFormats : List String := [
  "SPARQL_Results_JSON", "SPARQL_Results_XML", "SPARQL_Results_CSV", "SPARQL_Results_TSV",
  "Turtle", "RDF_XML", "JSON-LD", "N-Triples"]

def endpointTriples (endpoint : Iri) : List Triple :=
  let state (property : Iri) (value : Iri) : Triple := ⟨endpoint, property, .iri value⟩
  [state Vocabulary.rdfType (Vocabulary.serviceName "Service"),
    state (Vocabulary.serviceName "endpoint") endpoint,
    state (Vocabulary.serviceName "supportedLanguage") (Vocabulary.serviceName "SPARQL11Query")] ++
  describedFormats.map fun name =>
    state (Vocabulary.serviceName "resultFormat") ⟨formatNamespace ++ name⟩

namespace Service

/-- The endpoint is named relative to the base as it is set, with no slash added. -/
def endpoint (s : Service) : Iri := Iri.resolve ⟨s.settings.baseIri⟩ "sparql"

def description (s : Service) : Except Failure Document :=
  let t := (s.settings.namespaces.insert "sd" Vocabulary.serviceDescription).insert "formats"
    formatNamespace
  writeGraph t (endpointTriples s.endpoint) .turtle

end Service

open Http (Request Response)

inductive Route
  | dump | query | health
deriving DecidableEq, Repr, Inhabited

namespace Route

def ofPath? : String → Option Route
  | "/rdf" => some dump
  | "/sparql" => some query
  | "/health" => some health
  | _ => none

def allow : Route → String
  | query => "GET,HEAD,POST"
  | dump | health => "GET,HEAD"

end Route

inductive Refusal
  | parameters (fault : Form.Fault)
  | failure (f : Failure)
deriving DecidableEq, Repr, Inhabited

def Document.response (d : Document) : Response := ⟨200, [("content-type", d.contentType)], d.body⟩

def plainText : String := "text/plain; charset=utf-8"

def Refusal.response : Refusal → Response
  | parameters fault => ⟨400, [("content-type", plainText)],
      "Failed to deserialize query string: " ++ fault.message⟩
  | failure f => ⟨f.code.status, [("content-type", "application/json")], f.body.compact⟩

def refused {α : Type} : Except Failure α → Except Refusal α
  | .ok a => .ok a
  | .error f => .error (.failure f)

def Http.Request.parameters (r : Request) (names : List String) :
    Except Refusal (List (String × String)) :=
  match Form.known names r.query with
  | .ok fields => .ok fields
  | .error fault => .error (.parameters fault)

namespace Service

def dumpFormat (name : Option String) (accept : String) : Except Failure GraphFormat :=
  match name with
  | some name => GraphFormat.named name
  | none => .ok ((GraphFormat.negotiate? accept).getD .turtle)

def answerFormats (name : Option String) (accept : String) : Except Failure AnswerFormats :=
  match name with
  | some name => AnswerFormats.named name
  | none => .ok ⟨(ResultsFormat.negotiate? accept).getD .json,
      (GraphFormat.negotiate? accept).getD .turtle⟩

def answerQuery (s : Service) (text : String) (format : Option String) (accept : String) :
    Except Failure Document := do
  if (Text.trim text).isEmpty then .error (.emptyInput "Query")
  let formats ← answerFormats format accept
  s.answer text formats

def getDump (s : Service) (r : Request) : Except Refusal Document := do
  let ps ← r.parameters ["format"]
  let format ← refused (dumpFormat (ps.lookup "format") (r.header "accept"))
  refused (s.dump format)

def getQuery (s : Service) (r : Request) : Except Refusal Document := do
  let ps ← r.parameters ["query", "format"]
  match ps.lookup "query" with
  | some text => refused (s.answerQuery text (ps.lookup "format") (r.header "accept"))
  | none => refused s.description

def bodyText (s : Service) (body : List UInt8) : Except Failure String :=
  if s.settings.maxBodySize < body.length then .error (.inputTooLarge s.settings.maxBodySize)
  else
    match Utf8.decode body with
    | .ok text => .ok text
    | .error fault => .error ⟨.invalidFormat, "Request body is not UTF-8: " ++ fault.message, none⟩

def readForm (text : String) : Except Failure (String × Option String) :=
  let fail (fault : Form.Fault) : Except Failure (String × Option String) :=
    .error ⟨.invalidFormat, "Invalid form data: " ++ fault.message,
      some "Send the query in a 'query' field"⟩
  match Form.known ["query", "format"] text with
  | .error fault => fail fault
  | .ok fields =>
    match fields.lookup "query" with
    | some query => .ok (query, fields.lookup "format")
    | none => fail (.missing "query")

def isForm (r : Request) : Bool :=
  Text.occursIn "application/x-www-form-urlencoded".toList (r.header "content-type").toList

def postQuery (s : Service) (r : Request) : Except Refusal Document := do
  let ps ← r.parameters ["query", "format"]
  let text ← refused (s.bodyText r.body)
  let (query, format) ← if isForm r then refused (readForm text) else .ok (text, none)
  refused (s.answerQuery query (format.or (ps.lookup "format")) (r.header "accept"))

def respond (outcome : Except Refusal Document) : Response :=
  match outcome with
  | .ok d => d.response
  | .error refusal => refusal.response

def get (s : Service) (r : Request) : Route → Response
  | .dump => respond (s.getDump r)
  | .query => respond (s.getQuery r)
  | .health => ⟨200, [("content-type", plainText)], "OK"⟩

/-- The response without regard to other origins. -/
def route (s : Service) (r : Request) : Response :=
  match Route.ofPath? r.path with
  | none => ⟨404, [], ""⟩
  | some route =>
    if r.method = "GET" then s.get r route
    else if r.method = "HEAD" then { s.get r route with body := "" }
    else if r.method = "POST" && route == .query then respond (s.postQuery r)
    else ⟨405, [("allow", route.allow)], ""⟩

def allowOrigin : String × String := ("access-control-allow-origin", "*")

def preflight (r : Request) : Response :=
  let allow := match Route.ofPath? r.path with
    | some route => [("allow", route.allow)]
    | none => []
  ⟨200, allow ++ [allowOrigin, ("access-control-allow-methods", "GET,POST,OPTIONS"),
    ("access-control-allow-headers", "content-type,accept")], ""⟩

def handle (s : Service) (r : Request) : Response :=
  if !s.settings.corsEnabled then s.route r
  else if r.method = "OPTIONS" then preflight r
  else
    let response := s.route r
    { response with headers := response.headers ++ [allowOrigin] }

end Service

end LinkedRaces
