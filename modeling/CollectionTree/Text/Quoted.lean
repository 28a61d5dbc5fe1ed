import CollectionTree.Text.Visible

/-
  Text between double quotes, for naming it in a message.

  Key definitions include:
    * `Text.quotedChar`
    * `Text.quoted`

  Quotes, backslashes and the usual control characters are
  written with a backslash; other characters that cannot be
  shown are written as their code point.
-/

namespace CollectionTree

namespace Text

/- One character inside quotes. -/
def quotedChar
    (c : Char) : List Char :=
  if c = '\x00' then ['\\', '0']
  else if c = '\t' then ['\\', 't']
  else if c = '\r' then ['\\', 'r']
  else if c = '\n' then ['\\', 'n']
  else if c = '\\' then ['\\', '\\']
  else if c = '"' then ['\\', '"']
  else if isVisible c then [c]
  else
    ['\\', 'u', '\x7b'] ++ Nat.toDigits 16 c.toNat ++
      ['\x7d']

/- A text between quotes. -/
def quoted
    (text : String) : String :=
  String.ofList
    ('"' :: text.toList.flatMap quotedChar ++ ['"'])

end Text

end CollectionTree
