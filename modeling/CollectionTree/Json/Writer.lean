import CollectionTree.Decimal.RealText

/-
  JSON values and their two written forms.

  Key definitions include:
    * `Json.Value`
    * `Json.Value.compact`
    * `Json.Value.pretty`

  The compact form has no white space.  The pretty form has
  each element and each entry on a line of its own, indented
  by two blanks for each enclosure.
-/

namespace CollectionTree

namespace Json

/- A value with the order of its entries. -/
inductive Value
  | null
  | boolean (b : Bool)
  | whole (n : Nat)
  | real (x : Float)
  | text (s : String)
  | list (items : List Value)
  | object (entries : List (String × Value))

------------------------------------------------------------
-- Scalars
------------------------------------------------------------

/- One character of a string. -/
def encodeChar
    (c : Char) : List Char :=
  if c = '"' then ['\\', '"']
  else if c = '\\' then ['\\', '\\']
  else if c = '\x08' then ['\\', 'b']
  else if c = '\x0c' then ['\\', 'f']
  else if c = '\n' then ['\\', 'n']
  else if c = '\r' then ['\\', 'r']
  else if c = '\t' then ['\\', 't']
  else if c.toNat < 32 then
    let digits := Nat.toDigits 16 c.toNat
    ['\\', 'u'] ++
      List.replicate (4 - digits.length) '0' ++ digits
  else
    [c]

/- A string between quotes. -/
def encodeText
    (s : String) : String :=
  String.ofList
    ('"' :: s.toList.flatMap encodeChar ++ ['"'])

/- A real number; one that is not finite is written as null. -/
def encodeReal
    (x : Float) : String :=
  (RealText.data? x).getD "null"

namespace Value

------------------------------------------------------------
-- Compact Form
------------------------------------------------------------

mutual

/- A value on one line. -/
def compact : Value → String
  | .null => "null"
  | .boolean true => "true"
  | .boolean false => "false"
  | .whole n => Whole.text n
  | .real x => encodeReal x
  | .text s => encodeText s
  | .list items =>
      "[" ++ ",".intercalate (compactItems items) ++ "]"
  | .object entries =>
      "\x7b" ++ ",".intercalate (compactEntries entries) ++
        "\x7d"

/- The elements of a list. -/
def compactItems : List Value → List String
  | [] => []
  | item :: items => compact item :: compactItems items

/- The entries of an object. -/
def compactEntries :
    List (String × Value) → List String
  | [] => []
  | (key, value) :: entries =>
      (encodeText key ++ ":" ++ compact value) ::
        compactEntries entries

end

------------------------------------------------------------
-- Pretty Form
------------------------------------------------------------

/- The white space before a line. -/
def indentation
    (depth : Nat) : String :=
  String.ofList (List.replicate (2 * depth) ' ')

/- Lines in an enclosure, which closes on its own line. -/
def enclose
    (opening closing : String)
    (depth : Nat)
    (lines : List String) : String :=
  if lines.isEmpty then
    opening ++ closing
  else
    opening ++ "\n" ++
      ",\n".intercalate
        (lines.map
          (fun line => indentation (depth + 1) ++ line)) ++
      "\n" ++ indentation depth ++ closing

mutual

/- A value inside a number of enclosures. -/
def prettyAt
    (depth : Nat) : Value → String
  | .null => "null"
  | .boolean true => "true"
  | .boolean false => "false"
  | .whole n => Whole.text n
  | .real x => encodeReal x
  | .text s => encodeText s
  | .list items =>
      enclose "[" "]" depth (prettyItems depth items)
  | .object entries =>
      enclose "\x7b" "\x7d" depth
        (prettyEntries depth entries)

/- The elements of a list, which is inside enclosures. -/
def prettyItems
    (depth : Nat) : List Value → List String
  | [] => []
  | item :: items =>
      prettyAt (depth + 1) item :: prettyItems depth items

/- The entries of an object, which is inside enclosures. -/
def prettyEntries
    (depth : Nat) : List (String × Value) → List String
  | [] => []
  | (key, value) :: entries =>
      (encodeText key ++ ": " ++ prettyAt (depth + 1) value)
        :: prettyEntries depth entries

end

/- A value over several lines. -/
def pretty
    (value : Value) : String :=
  prettyAt 0 value

end Value

end Json

end CollectionTree
