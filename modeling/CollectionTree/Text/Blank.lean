/-
  Cutting text: white space, trimming, and splitting at a
  separator.  Text is handled as a list of characters.

  Key definitions include:
    * `Text.isBlank`
    * `Text.trim`
    * `Text.splitFirst?`
    * `Text.pieces`
-/

namespace CollectionTree

namespace Text

------------------------------------------------------------
-- White Space
------------------------------------------------------------

/- The characters with the Unicode property `White_Space`. -/
def isBlank
    (c : Char) : Bool :=
  let n := c.toNat
  (9 ≤ n && n ≤ 13) || n == 32 || n == 0x85 ||
    n == 0xA0 || n == 0x1680 ||
    (0x2000 ≤ n && n ≤ 0x200A) ||
    n == 0x2028 || n == 0x2029 || n == 0x202F ||
    n == 0x205F || n == 0x3000

/- Text without the white space at either end. -/
def trim
    (text : List Char) : List Char :=
  ((text.dropWhile isBlank).reverse.dropWhile
    isBlank).reverse

------------------------------------------------------------
-- Splitting
------------------------------------------------------------

/-
  The text before and the text after the first separator;
  `none` when the separator does not occur.
-/
def splitFirst?
    (separator : Char) :
    List Char → Option (List Char × List Char)
  | [] => none
  | c :: rest =>
      if c = separator then
        some ([], rest)
      else
        (splitFirst? separator rest).map
          (fun halves => (c :: halves.1, halves.2))

/-
  The pieces between separators, in order.  There is one
  piece more than there are separators, so empty text is one
  empty piece.
-/
def pieces
    (separator : Char) :
    List Char → List (List Char)
  | [] => [[]]
  | c :: rest =>
      if c = separator then
        [] :: pieces separator rest
      else
        match pieces separator rest with
        | [] => [[c]]
        | piece :: others => (c :: piece) :: others

end Text

end CollectionTree
