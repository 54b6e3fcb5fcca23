import EditorText.Snippet.Run
import EditorText.Text.Blank

/-!
# Snippets as JSON

A snippet is written as a JSON object with its name as the only key, indented by four spaces.
Characters stand for themselves except the quote, the backslash and the control characters.
-/

set_option autoImplicit false

namespace EditorText.Snippet

/-- One character of a JSON string. -/
def jsonCode (c : Code) : Text :=
  if c = Code.quote ∨ c = Code.backslash then [Code.backslash, c]
  else if c = Code.newline then Text.ofChars ['\\', 'n']
  else if c = Code.carriageReturn then Text.ofChars ['\\', 'r']
  else if c = Code.tab then Text.ofChars ['\\', 't']
  else if c = 12 then Text.ofChars ['\\', 'f']
  else if c = 8 then Text.ofChars ['\\', 'b']
  else if c < 32 then Text.ofChars ['\\', 'u'] ++ Text.hex 4 c
  else [c]

/-- A JSON string. -/
def jsonString (t : Text) : Text :=
  Code.quote :: t.flatMap jsonCode ++ [Code.quote]

/-- A line end and the indentation of a level. -/
def jsonBreak (level : Nat) : Text :=
  Code.newline :: Text.run Code.space (4 * level)

/-- A JSON array of strings, at least one, on lines of their own. -/
def jsonArray (level : Nat) (ts : List Text) : Text :=
  Code.openBracket :: jsonBreak (level + 1) ++
    Text.join (Code.comma :: jsonBreak (level + 1)) (ts.map jsonString) ++
    jsonBreak level ++ [Code.closeBracket]

/-- A member of a JSON object, of which the value is already written. -/
def jsonMember (key value : Text) : Text :=
  jsonString key ++ Code.colon :: Code.space :: value

/-- A JSON object of members that are already written, at least one, on lines of their own. -/
def jsonObject (level : Nat) (members : List Text) : Text :=
  Code.openBrace :: jsonBreak (level + 1) ++
    Text.join (Code.comma :: jsonBreak (level + 1)) members ++ jsonBreak level ++ [Code.closeBrace]

/-- Pieces behind a comma: blanks at either side of a comma do not count. -/
def trimPieces : List Text → List Text
  | [] => []
  | [p] => [p.trimStart]
  | p :: ps => p.trim :: trimPieces ps

/-- The triggers in a list with commas. Blanks that touch a comma do not count; others do. -/
def triggers (list : Text) : List Text :=
  match Text.split [Code.comma] list with
  | [] => []
  | [p] => [p]
  | p :: ps => p.trimEnd :: trimPieces ps

/-- The snippet as a JSON document. -/
def Definition.json (d : Definition) : Text :=
  jsonObject 0 [jsonMember d.name (jsonObject 1
    [jsonMember "scope" (jsonString (d.scope.getD [])),
      jsonMember "prefix" (jsonArray 2 (triggers d.trigger)),
      jsonMember "body" (jsonArray 2 [d.body]),
      jsonMember "description" (jsonString d.name)])]

end EditorText.Snippet
