import EditorText.Report.Outcome

/-!
# Settings of the editor

The tab size and the line ending under which the engines work. A host's tab size counts only if it
is a positive whole number; a line ending is a line feed, alone or behind a carriage return.
-/

set_option autoImplicit false

namespace EditorText

/-- The tab size where the host gives no usable one. -/
def defaultTabSize : Int := 1

/-- The tab size that a host's value stands for. -/
def HostValue.tabSize? : HostValue → Option Int
  | whole n => if n < 1 then none else some n
  | _ => none

/-- The tab size to work with. A value that is none is reported and replaced. -/
def usableTabSize {ε : Type} (reported : HostValue) : Outcome ε Int :=
  match reported.tabSize? with
  | some n => .ok n
  | none => ⟨[.notice (.tabSizeRejected reported defaultTabSize)], .ok defaultTabSize⟩

/-- The lines of a document end with one of these. -/
def lineEndings : List Text :=
  [[Code.newline], [Code.carriageReturn, Code.newline]]

/-- Settings that the text engines use. -/
structure EditorSettings where
  tabSize : Int := defaultTabSize
  eol : Text := [Code.newline]

/-- No line of a document ends like that. -/
structure UnsupportedLineEnding where
  eol : Text

/-- The failure in words. -/
def UnsupportedLineEnding.message (e : UnsupportedLineEnding) : Text :=
  Text.ofString "Unsupported line ending: " ++ e.eol.quoted

/-- The settings that a host reports. -/
def EditorSettings.ofHost (tabSize : HostValue) (eol : Text) :
    Outcome UnsupportedLineEnding EditorSettings :=
  if lineEndings.contains eol then do
    let n ← usableTabSize tabSize
    return ⟨n, eol⟩
  else .fail ⟨eol⟩

end EditorText
