import CollectionTree.Decimal.RealText
import CollectionTree.Text.Quoted

/-
  What can be wrong with a JSON text.

  Key definitions include:
    * `Json.Fault`
    * `Json.Found`
    * `Json.Fault.message`

  A fault is either one of notation or one of meaning: a
  well-formed value of the wrong kind, or the wrong fields.
-/

namespace CollectionTree

namespace Json

------------------------------------------------------------
-- Kinds of Faults
------------------------------------------------------------

/- What was being read when the text ended. -/
inductive Part
  | value
  | object
  | list
  | string
  deriving DecidableEq, Repr

/- A value that stands where another kind is expected. -/
inductive Found
  | integer (n : Int)
  | real (x : Float)
  | boolean (b : Bool)
  | text (s : String)
  | null
  | sequence
  | map
  | unitVariant

/- The first thing wrong with a text. -/
inductive Fault
  | ended (part : Part)
  | expectedValue
  | expectedName
  | expectedColon
  | expectedEntry
  | expectedElement
  | keyNotText
  | trailingComma
  | trailingCharacters
  | badNumber
  | numberOutOfRange
  | badEscape
  | loneSurrogate
  | unfinishedPair
  | controlCharacter
  | wrongType (found : Found) (expected : String)
  | wrongValue (found : Int) (expected : String)
  | wrongLength (found : Nat) (expected : String)
  | missingField (name : String)
  | repeatedField (name : String)
  | unknownVariant (name : String) (expected : String)

------------------------------------------------------------
-- Wording
------------------------------------------------------------

/- A word set off from the words around it. -/
def marked
    (word : String) : String :=
  "`" ++ word ++ "`"

/- The wording of an unfinished part. -/
def Part.name : Part → String
  | .value => "a value"
  | .object => "an object"
  | .list => "a list"
  | .string => "a string"

/- The wording of a value. -/
def Found.describe : Found → String
  | .integer n => "integer " ++ marked (Whole.signedText n)
  | .real x =>
      "floating point " ++
        marked ((RealText.data? x).getD (RealText.plain x))
  | .boolean true => "boolean " ++ marked "true"
  | .boolean false => "boolean " ++ marked "false"
  | .text s => "string " ++ Text.quoted s
  | .null => "null"
  | .sequence => "sequence"
  | .map => "map"
  | .unitVariant => "unit variant"

/- The wording of a fault. -/
def Fault.message : Fault → String
  | .ended part => "EOF while parsing " ++ part.name
  | .expectedValue => "expected value"
  | .expectedName => "expected ident"
  | .expectedColon => "expected " ++ marked ":"
  | .expectedEntry =>
      "expected " ++ marked "," ++ " or " ++ marked "\x7d"
  | .expectedElement =>
      "expected " ++ marked "," ++ " or " ++ marked "]"
  | .keyNotText => "key must be a string"
  | .trailingComma => "trailing comma"
  | .trailingCharacters => "trailing characters"
  | .badNumber => "invalid number"
  | .numberOutOfRange => "number out of range"
  | .badEscape => "invalid escape"
  | .loneSurrogate => "lone leading surrogate in hex escape"
  | .unfinishedPair => "unexpected end of hex escape"
  | .controlCharacter =>
      "control character (\\u0000-\\u001F) found " ++
        "while parsing a string"
  | .wrongType found expected =>
      "invalid type: " ++ found.describe ++
        ", expected " ++ expected
  | .wrongValue found expected =>
      "invalid value: " ++ (Found.integer found).describe ++
        ", expected " ++ expected
  | .wrongLength found expected =>
      "invalid length " ++ Whole.text found ++
        ", expected " ++ expected
  | .missingField name => "missing field " ++ marked name
  | .repeatedField name =>
      "duplicate field " ++ marked name
  | .unknownVariant name expected =>
      "unknown variant " ++ marked name ++
        ", expected " ++ expected

end Json

end CollectionTree
