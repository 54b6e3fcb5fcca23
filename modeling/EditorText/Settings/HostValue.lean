import EditorText.Decimal.Shortest
import EditorText.Text.Quoted

/-!
# Values reported by the host

A host hands over settings without a promise about their type. `HostValue.shown` writes such a value
into a message.
-/

set_option autoImplicit false

namespace EditorText

/-- What a host may report as a setting. -/
inductive HostValue where
  | missing
  | flag (value : Bool)
  | whole (value : Int)
  | real (value : Float)
  | text (value : Text)
  | items (values : List HostValue)
  | record (fields : List (Text × HostValue))
  deriving Inhabited

namespace HostValue

mutual

/-- The value as a message shows it. -/
def shown : HostValue → Text
  | missing => "None"
  | flag true => "True"
  | flag false => "False"
  | whole n => Text.ofInt n
  | real x => Decimal.shown x
  | text t => Text.quoted t
  | items vs => Code.openBracket :: Text.join (Text.ofChars [',', ' ']) (shownItems vs) ++
      [Code.closeBracket]
  | record fs => Code.openBrace :: Text.join (Text.ofChars [',', ' ']) (shownFields fs) ++
      [Code.closeBrace]

/-- Each value of a list as a message shows it. -/
def shownItems : List HostValue → List Text
  | [] => []
  | v :: vs => shown v :: shownItems vs

/-- Each field of a record as a message shows it. -/
def shownFields : List (Text × HostValue) → List Text
  | [] => []
  | (name, v) :: fs =>
    (Text.quoted name ++ Text.ofChars [':', ' '] ++ shown v) :: shownFields fs

end

end HostValue

end EditorText
