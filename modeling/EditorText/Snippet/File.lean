import EditorText.Report.Outcome
import EditorText.Snippet.Json
import EditorText.Snippet.Path

/-!
# Snippet files

A snippet file holds the snippet as JSON and behind it the definition it was read from, commented
out, so that the definition can be recovered from the file alone.
-/

set_option autoImplicit false

namespace EditorText.Snippet

/-- What a host needs to write a snippet file. -/
structure File where
  directory : Path
  filename : Text
  content : Text

/-- The path of the file. -/
def File.path (f : File) : Path :=
  f.directory.below f.filename

/-- What opens a comment. -/
def commentMark : Text := Text.ofChars ['/', '/', ' ']

/-- The text with a comment mark at the start and behind every line feed. -/
def commented (source : Text) : Text :=
  commentMark ++ Text.replaceCode Code.newline (Code.newline :: commentMark) source

/-- The content of a file: the JSON document, an empty line, and the definition as comments. -/
def content (d : Definition) (source eol : Text) : Text :=
  d.json ++ eol ++ eol ++ commented source

/-- The characters that file names may not hold. -/
def isForbidden (c : Code) : Bool :=
  (Text.ofChars ['/', '\\', '?', '%', '*', ':', '|', '"', '<', '>']).contains c

/-- Runs of two and more blanks reduced to one space. -/
def mergeBlanks : Text → Text
  | [] => []
  | [c] => [c]
  | c :: d :: t =>
    if isBlank c && isBlank d then
      match mergeBlanks (d :: t) with
      | [] => []
      | _ :: rest => Code.space :: rest
    else c :: mergeBlanks (d :: t)

/-- The text as part of a file name: without forbidden characters and without runs of blanks. -/
def sanitize (t : Text) : Text :=
  mergeBlanks (t.filter fun c => !isForbidden c)

/-- The ending of snippet files. -/
def extension : Text := Text.ofString ".code-snippets"

/-- The name of the file for a snippet: triggers and name in brackets, behind the scope. -/
def Definition.filename (d : Definition) : Text :=
  let name := Code.openBracket :: d.trigger ++ Text.ofString " - " ++ d.name ++
    [Code.closeBracket] ++ extension
  match d.scope with
  | none | some [] => sanitize name
  | some scope => sanitize (scope ++ Code.dot :: name)

/-- The directory for snippets: in the data of a portable installation if there is one, otherwise
with the user's settings. -/
def directory (user : Text) (portable : Option Text) : Path :=
  match portable with
  | none | some [] => (Path.ofText user).below (Text.ofString "snippets")
  | some data =>
    (((Path.ofText data).below (Text.ofString "user-data")).below (Text.ofString "User")).below
      (Text.ofString "snippets")

/-- Prepares the file for a snippet and reports its path. -/
def prepareFile {ε : Type} (d : Definition) (source user : Text) (portable : Option Text)
    (eol : Text) : Outcome ε File :=
  let f : File := ⟨directory user portable, d.filename, content d source eol⟩
  ⟨[.notice (.filePrepared f.path.text)], .ok f⟩

end EditorText.Snippet
