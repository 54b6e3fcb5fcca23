import EditorText.Yaml.BlockScalar
import EditorText.Yaml.Marker
import EditorText.Yaml.PlainScalar

/-!
# From text to tokens

A colon may turn what stands before it into a key, so a token that could be a key is held back until
that is known: until a colon follows, the line ends, or too much text has passed. `Tokens.ofText`
hands out tokens in order, each as soon as no held one precedes it, and ends with the problem that
stopped the reading if there is one. A problem thus comes behind the tokens that a reader takes
before meeting it.
-/

set_option autoImplicit false

namespace EditorText.Yaml

/-- A token that a colon may turn into a key: its number, its place, and whether a key must stand
there. -/
structure PossibleKey where
  token : Nat
  required : Bool
  index : Nat
  line : Nat
  column : Nat
  deriving Repr

/-- The state of a lexer. `level` counts the flow collections around the place, `indents` the
indentation of the block collections; `waiting` holds tokens that are not handed out yet, and
`handed` counts the others. -/
structure Lexer where
  at_ : Cursor
  level : Int := 0
  indent : Int := -1
  indents : List Int := []
  keyAllowed : Bool := true
  keys : List (Int × PossibleKey) := []
  waiting : List Token := []
  handed : Nat := 0
  finished : Bool := false

/-- A step of a lexer. -/
abbrev Lex := Except Problem Lexer

namespace Lexer

/-- Adds a token at the end. -/
def push (s : Lexer) (t : Token) : Lexer :=
  { s with waiting := s.waiting ++ [t] }

/-- The lexer at another place. -/
def moveTo (s : Lexer) (c : Cursor) : Lexer :=
  { s with at_ := c }

/-- A flow collection surrounds the place. -/
def inFlow (s : Lexer) : Bool :=
  s.level != 0

/-- A possible key can no longer become one: its line has ended, or it is too long. -/
def isStale (s : Lexer) (k : PossibleKey) : Bool :=
  k.line != s.at_.line || 1024 < s.at_.index - k.index

/-- Drops the possible keys that can no longer become keys. -/
def dropStale (s : Lexer) : Lex :=
  if s.keys.any fun k => s.isStale k.2 && k.2.required then .error (.token .missingColon)
  else .ok { s with keys := s.keys.filter fun k => !s.isStale k.2 }

/-- Drops the possible key of the present level. -/
def dropKey (s : Lexer) : Lex :=
  match s.keys.lookup s.level with
  | some k =>
    if k.required then .error (.token .missingColon)
    else .ok { s with keys := s.keys.filter fun x => x.1 != s.level }
  | none => .ok s

/-- The next token may become a key, where keys are allowed. -/
def holdKey (s : Lexer) : Lex :=
  if s.keyAllowed then do
    let required := !s.inFlow && s.indent == s.at_.column
    let s ← s.dropKey
    let k : PossibleKey :=
      ⟨s.handed + s.waiting.length, required, s.at_.index, s.at_.line, s.at_.column⟩
    return { s with keys := s.keys ++ [(s.level, k)] }
  else .ok s

/-- Closes the block collections that are indented deeper than a column. -/
def unwind (column : Int) : Nat → Lexer → Lexer
  | 0, s => s
  | fuel + 1, s =>
    if s.inFlow then s
    else if column < s.indent then
      match s.indents with
      | [] => s
      | outer :: rest =>
        unwind column fuel { (s.push .blockEnd) with indent := outer, indents := rest }
    else s

/-- Closes the block collections that are indented deeper than a column. -/
def unwindTo (column : Int) (s : Lexer) : Lexer :=
  unwind column (s.indents.length + 1) s

/-- Opens a block collection at a column, unless one is open there. -/
def openBlock (s : Lexer) (column : Int) : Option Lexer :=
  if s.indent < column then some { s with indent := column, indents := s.indent :: s.indents }
  else none

/-- Ends the tokens. -/
def endStream (s : Lexer) : Lex := do
  let s ← (s.unwindTo (-1)).dropKey
  return { s.push .streamEnd with keyAllowed := false, keys := [], finished := true }

/-- A directive. -/
def directive (s : Lexer) : Lex := do
  let s ← (s.unwindTo (-1)).dropKey
  let (t, c) ← directiveToken s.at_
  return { (s.moveTo c).push t with keyAllowed := false }

/-- A separator of documents. -/
def separator (s : Lexer) (t : Token) : Lex := do
  let s ← (s.unwindTo (-1)).dropKey
  return { (s.moveTo (s.at_.skip 3)).push t with keyAllowed := false }

/-- The start of a flow collection, which may itself be a key. -/
def openFlow (s : Lexer) (t : Token) : Lex := do
  let s ← s.holdKey
  return { (s.moveTo s.at_.next).push t with level := s.level + 1, keyAllowed := true }

/-- The end of a flow collection. -/
def closeFlow (s : Lexer) (t : Token) : Lex := do
  let s ← s.dropKey
  return { (s.moveTo s.at_.next).push t with level := s.level - 1, keyAllowed := false }

/-- A comma between the entries of a flow collection. -/
def flowComma (s : Lexer) : Lex := do
  let s ← { s with keyAllowed := true }.dropKey
  return (s.moveTo s.at_.next).push .flowEntry

/-- A dash before the entry of a block sequence. -/
def blockDash (s : Lexer) : Lex := do
  let s ← if s.inFlow then pure s
    else if !s.keyAllowed then .error (.token .entryNotAllowed)
    else match s.openBlock s.at_.column with
      | some opened => pure (opened.push .blockSequenceStart)
      | none => pure s
  let s ← { s with keyAllowed := true }.dropKey
  return (s.moveTo s.at_.next).push .blockEntry

/-- A question mark before a key. -/
def keyMark (s : Lexer) : Lex := do
  let s ← if s.inFlow then pure s
    else if !s.keyAllowed then .error (.token .keyNotAllowed)
    else match s.openBlock s.at_.column with
      | some opened => pure (opened.push .blockMappingStart)
      | none => pure s
  let s ← { s with keyAllowed := !s.inFlow }.dropKey
  return (s.moveTo s.at_.next).push .key

/-- A colon behind a possible key turns it into a key. -/
def makeKey (s : Lexer) (k : PossibleKey) : Lexer :=
  let before := k.token - s.handed
  let s := { s with
    keys := s.keys.filter fun x => x.1 != s.level
    waiting := s.waiting.insertIdx before .key
    keyAllowed := false }
  if s.inFlow then s
  else match s.openBlock k.column with
    | some opened => { opened with waiting := opened.waiting.insertIdx before .blockMappingStart }
    | none => s

/-- A colon before a value. -/
def valueMark (s : Lexer) : Lex := do
  let s ← match s.keys.lookup s.level with
    | some k => pure (s.makeKey k)
    | none => do
      let s ← if s.inFlow then pure s
        else if !s.keyAllowed then .error (.token .valueNotAllowed)
        else match s.openBlock s.at_.column with
          | some opened => pure (opened.push .blockMappingStart)
          | none => pure s
      { s with keyAllowed := !s.inFlow }.dropKey
  return (s.moveTo s.at_.next).push .value

/-- An anchor or an alias. -/
def anchorMark (s : Lexer) (make : Text → Token) : Lex := do
  let s ← s.holdKey
  let (name, c) ← anchorName s.at_
  return { (s.moveTo c).push (make name) with keyAllowed := false }

/-- A tag. -/
def tagMark (s : Lexer) : Lex := do
  let s ← s.holdKey
  let (t, c) ← tagToken s.at_
  return { (s.moveTo c).push t with keyAllowed := false }

/-- A block scalar, which no colon can turn into a key. -/
def blockText (s : Lexer) (folded : Bool) : Lex := do
  let s ← { s with keyAllowed := true }.dropKey
  let (t, c) ← blockScalar folded s.indent s.at_
  return (s.moveTo c).push (.scalar t false)

/-- A quoted scalar. -/
def quotedText (s : Lexer) (double : Bool) : Lex := do
  let s ← s.holdKey
  let (t, c) ← flowScalar double s.at_
  return { (s.moveTo c).push (.scalar t false) with keyAllowed := false }

/-- A plain scalar. Keys are allowed again behind it if its line has ended. -/
def plainText (s : Lexer) : Lex := do
  let s ← s.holdKey
  let (t, c, ended) := plainScalar s.inFlow (s.indent + 1) s.at_
  return { (s.moveTo c).push (.scalar t true) with keyAllowed := ended }

/-- Goes on to the next token, over spaces, comments and line ends. A line end outside flow
collections allows keys. -/
def skipGap : Nat → Lexer → Lexer
  | 0, s => s
  | fuel + 1, s =>
    let c := (s.at_.skipWhile (· == Code.space)).skipComment
    let (mark, after) := c.lineBreak
    if mark = [] then s.moveTo c
    else skipGap fuel { s.moveTo after with keyAllowed := s.keyAllowed || !s.inFlow }

/-- Goes on to the next token. A byte order mark at the start of the text does not count. -/
def toToken (s : Lexer) : Lexer :=
  let s := if s.at_.index = 0 ∧ s.at_.first = byteOrderMark then s.moveTo s.at_.next else s
  skipGap (s.at_.rest.length + 1) s

/-- The characters that begin no plain scalar. -/
def isIndicator (c : Code) : Bool :=
  c == Code.dash || c == Code.question || c == Code.colon || startSigns.contains c

/-- A plain scalar begins here. -/
def atPlain (s : Lexer) : Bool :=
  let c := s.at_.first
  !(isGap c || isIndicator c) ||
  (!isGap (s.at_.peek 1) &&
    (c == Code.dash || (!s.inFlow && (c == Code.question || c == Code.colon))))

/-- Goes on to the next token. Block collections that are indented deeper than its column end. -/
def arrive (s : Lexer) : Lex := do
  let s ← s.toToken.dropStale
  return s.unwindTo s.at_.column

/-- Reads the token at the place. -/
def token (s : Lexer) : Lex :=
  let c := s.at_.first
  let gapNext := isGap (s.at_.peek 1)
  if s.at_.rest = [] then s.endStream
  else if c = Code.percent ∧ s.at_.column = 0 then s.directive
  else if s.at_.atLineOf Code.dash then s.separator .documentStart
  else if s.at_.atLineOf Code.dot then s.separator .documentEnd
  else if c = Code.openBracket then s.openFlow .flowSequenceStart
  else if c = Code.openBrace then s.openFlow .flowMappingStart
  else if c = Code.closeBracket then s.closeFlow .flowSequenceEnd
  else if c = Code.closeBrace then s.closeFlow .flowMappingEnd
  else if c = Code.comma then s.flowComma
  else if c = Code.dash ∧ gapNext then s.blockDash
  else if c = Code.question ∧ (s.inFlow ∨ gapNext) then s.keyMark
  else if c = Code.colon ∧ (s.inFlow ∨ gapNext) then s.valueMark
  else if c = Code.asterisk then s.anchorMark .alias
  else if c = Code.ampersand then s.anchorMark .anchor
  else if c = 33 then s.tagMark
  else if c = Code.pipe ∧ !s.inFlow then s.blockText false
  else if c = Code.greater ∧ !s.inFlow then s.blockText true
  else if c = Code.apostrophe then s.quotedText false
  else if c = Code.quote then s.quotedText true
  else if s.atPlain then s.plainText
  else .error (.token .noToken)

/-- Reads the next token. -/
def fetch (s : Lexer) : Lex := do
  let s ← s.arrive
  s.token

/-- The next token is held back, or there is none yet. -/
def needsMore (s : Lexer) : Except Problem (Bool × Lexer) :=
  if s.finished then .ok (false, s)
  else if s.waiting = [] then .ok (true, s)
  else do
    let s ← s.dropStale
    return (s.keys.any fun k => k.2.token == s.handed, s)

end Lexer

/-- The tokens of a text in order, and the problem behind them if the text was not read to its
end. -/
structure Tokens where
  tokens : List Token
  problem : Option Problem := none

namespace Tokens

/-- The tokens with another one in front. -/
def cons (t : Token) (ts : Tokens) : Tokens :=
  { ts with tokens := t :: ts.tokens }

/-- Hands out tokens and reads more where they are held back; `fuel` bounds the steps. -/
def from_ : Nat → Lexer → Tokens
  | 0, _ => ⟨[], some .tooDeep⟩
  | fuel + 1, s =>
    match s.needsMore with
    | .error e => ⟨[], some e⟩
    | .ok (true, s) =>
      match s.fetch with
      | .error e => ⟨[], some e⟩
      | .ok s => from_ fuel s
    | .ok (false, s) =>
      match s.waiting with
      | [] => ⟨[], none⟩
      | t :: rest => cons t (from_ fuel { s with waiting := rest, handed := s.handed + 1 })

/-- The tokens of a text. -/
def ofText (text : Text) : Tokens :=
  from_ (8 * text.length + 16) { at_ := { rest := text } }

end Tokens

end EditorText.Yaml
