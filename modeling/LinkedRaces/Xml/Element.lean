/-!
XML elements as text. An element that holds only text stays on one line; in any other each child
has a line of its own, indented by two spaces.
-/

namespace LinkedRaces.Xml

inductive Node
  | text (content : String)
  | element (name : String) (attributes : List (String × String)) (children : List Node)
deriving Repr, Inhabited

def escapeChar : Char → List Char
  | '&' => "&amp;".toList
  | '<' => "&lt;".toList
  | '>' => "&gt;".toList
  | c => [c]

def escape (s : String) : String := String.ofList (s.toList.flatMap escapeChar)

/-- In attributes also the quote is escaped, and blanks that a reader would turn into spaces. -/
def escapeAttributeChar : Char → List Char
  | '"' => "&quot;".toList
  | '\n' => "&#10;".toList
  | '\r' => "&#13;".toList
  | '\t' => "&#9;".toList
  | c => escapeChar c

def escapeAttribute (s : String) : String := String.ofList (s.toList.flatMap escapeAttributeChar)

def attributeText : String × String → String
  | (name, value) => " " ++ name ++ "=\"" ++ escapeAttribute value ++ "\""

def indent (depth : Nat) : String := String.ofList (List.replicate (2 * depth) ' ')

namespace Node

def isText : Node → Bool
  | text _ => true
  | element .. => false

def inlineText : List Node → String
  | [] => ""
  | text content :: rest => escape content ++ inlineText rest
  | element .. :: rest => inlineText rest

mutual

def lines (depth : Nat) : Node → String
  | text content => indent depth ++ escape content ++ "\n"
  | element name attributes children =>
    indent depth ++ "<" ++ name ++ String.join (attributes.map attributeText) ++
      (if children.isEmpty then "/>\n"
      else if children.all isText then ">" ++ inlineText children ++ "</" ++ name ++ ">\n"
      else ">\n" ++ childLines (depth + 1) children ++ indent depth ++ "</" ++ name ++ ">\n")

def childLines (depth : Nat) : List Node → String
  | [] => ""
  | child :: rest => lines depth child ++ childLines depth rest

end

end Node

def document (root : Node) : String :=
  "<?xml version=\"1.0\" encoding=\"UTF-8\"?>\n" ++ root.lines 0

end LinkedRaces.Xml
