import CollectionTree.Json.Fault

/-
  Reading the smallest parts of a JSON text.

  Key definitions include:
    * `Json.Reader`
    * `Json.skipSpace`
    * `Json.scanName`
    * `Json.scanString`
    * `Json.scanNumber`

  A reader takes the characters that are left and gives a
  value with the characters left after it, or the first
  fault that it meets from left to right.
-/

namespace CollectionTree

namespace Json

/- A way of reading a value off the front of a text. -/
abbrev Reader (α : Type) :=
  List Char → Except Fault (α × List Char)

------------------------------------------------------------
-- White Space and Names
------------------------------------------------------------

/- The four characters that may stand between tokens. -/
def isSpace
    (c : Char) : Bool :=
  c == ' ' || c == '\t' || c == '\n' || c == '\r'

/- The text from its next token on. -/
def skipSpace
    (input : List Char) : List Char :=
  input.dropWhile isSpace

/- Read the rest of a name whose first letter is known. -/
def scanName :
    List Char → List Char → Except Fault (List Char)
  | [], input => .ok input
  | _ :: _, [] => .error (.ended .value)
  | letter :: letters, c :: rest =>
      if c = letter then
        scanName letters rest
      else
        .error .expectedName

------------------------------------------------------------
-- Strings
------------------------------------------------------------

/- The value of a hexadecimal digit. -/
def hexDigit?
    (c : Char) : Option Nat :=
  if '0' ≤ c ∧ c ≤ '9' then
    some (c.toNat - '0'.toNat)
  else if 'a' ≤ c ∧ c ≤ 'f' then
    some (c.toNat - 'a'.toNat + 10)
  else if 'A' ≤ c ∧ c ≤ 'F' then
    some (c.toNat - 'A'.toNat + 10)
  else
    none

/- The value of four hexadecimal digits. -/
def hexWord?
    (a b c d : Char) : Option Nat := do
  let w ← hexDigit? a
  let x ← hexDigit? b
  let y ← hexDigit? c
  let z ← hexDigit? d
  pure (((w * 16 + x) * 16 + y) * 16 + z)

/-
  The fault of an escape with fewer than four characters
  after its letter.  The escape takes four bytes, so some
  characters outside ASCII are enough to fill it.
-/
def shortEscape
    (rest : List Char) : Fault :=
  if (rest.map Char.utf8Size).foldl Nat.add 0 < 4 then
    .ended .string
  else
    .badEscape

/- The character that a one-letter escape stands for. -/
def escaped?
    (letter : Char) : Option Char :=
  match letter with
  | '"' => some '"'
  | '\\' => some '\\'
  | '/' => some '/'
  | 'b' => some '\x08'
  | 'f' => some '\x0c'
  | 'n' => some '\n'
  | 'r' => some '\r'
  | 't' => some '\t'
  | _ => none

/- The first word of a surrogate pair. -/
def isHighSurrogate
    (word : Nat) : Bool :=
  0xD800 ≤ word && word ≤ 0xDBFF

/- The second word of a surrogate pair. -/
def isLowSurrogate
    (word : Nat) : Bool :=
  0xDC00 ≤ word && word ≤ 0xDFFF

/- The character that a surrogate pair stands for. -/
def pairChar
    (high low : Nat) : Char :=
  Char.ofNat
    ((high - 0xD800) * 0x400 + (low - 0xDC00) + 0x10000)

/-
  Read the rest of a string whose opening quote is known.
  The characters read so far come in reverse, and a high
  surrogate waits for its partner.
-/
def scanStringFrom :
    List Char → Option Nat → Reader String
  | done, none, '"' :: rest =>
      .ok (String.ofList done.reverse, rest)
  | done, none, '\\' :: 'u' :: a :: b :: c :: d :: rest =>
      match hexWord? a b c d with
      | none => .error .badEscape
      | some word =>
          if isLowSurrogate word then
            .error .loneSurrogate
          else if isHighSurrogate word then
            scanStringFrom done (some word) rest
          else
            scanStringFrom (Char.ofNat word :: done) none
              rest
  | _, none, '\\' :: 'u' :: rest =>
      .error (shortEscape rest)
  | done, none, '\\' :: letter :: rest =>
      match escaped? letter with
      | none => .error .badEscape
      | some c => scanStringFrom (c :: done) none rest
  | _, none, ['\\'] => .error (.ended .string)
  | done, none, c :: rest =>
      if c.toNat < 32 then
        .error .controlCharacter
      else
        scanStringFrom (c :: done) none rest
  | done, some high,
      '\\' :: 'u' :: a :: b :: c :: d :: rest =>
      match hexWord? a b c d with
      | none => .error .badEscape
      | some low =>
          if isLowSurrogate low then
            scanStringFrom (pairChar high low :: done) none
              rest
          else
            .error .loneSurrogate
  | _, some _, '\\' :: 'u' :: rest =>
      .error (shortEscape rest)
  | _, some _, ['\\'] => .error (.ended .string)
  | _, some _, _ :: _ => .error .unfinishedPair
  | _, _, [] => .error (.ended .string)

/- Read a string whose opening quote is known. -/
def scanString : Reader String :=
  scanStringFrom [] none

/-
  Pass over a string whose opening quote is known.  Escapes
  are not decoded, so halves of surrogate pairs may stand
  alone.
-/
def skipString :
    List Char → Except Fault (List Char)
  | '"' :: rest => .ok rest
  | '\\' :: 'u' :: a :: b :: c :: d :: rest =>
      match hexWord? a b c d with
      | none => .error .badEscape
      | some _ => skipString rest
  | '\\' :: 'u' :: rest => .error (shortEscape rest)
  | '\\' :: letter :: rest =>
      match escaped? letter with
      | none => .error .badEscape
      | some _ => skipString rest
  | ['\\'] => .error (.ended .string)
  | c :: rest =>
      if c.toNat < 32 then
        .error .controlCharacter
      else
        skipString rest
  | [] => .error (.ended .string)

------------------------------------------------------------
-- Numbers
------------------------------------------------------------

/-
  A number as it is written: an integer that fits 64 bits,
  or a real number.
-/
inductive Number
  | whole (n : Nat)
  | negative (n : Nat)
  | real (x : Float)

/- The value that a number stands for. -/
def Number.found : Number → Found
  | .whole n => .integer n
  | .negative n => .integer (-(n : Int))
  | .real x => .real x

/- The greatest significand that is kept exactly. -/
def significandLimit : Nat :=
  Nat.pow 2 64 - 1

/- The greatest exponent that is kept exactly. -/
def exponentLimit : Nat :=
  Nat.pow 2 31 - 1

/-
  Read digits on to a number as long as it is at most
  `limit`; also count them.
-/
def scanDigits
    (limit : Nat) :
    Nat → Nat → List Char → Nat × Nat × List Char
  | value, count, [] => (value, count, [])
  | value, count, c :: rest =>
      match Whole.digit? c with
      | none => (value, count, c :: rest)
      | some d =>
          if 10 * value + d ≤ limit then
            scanDigits limit (10 * value + d) (count + 1)
              rest
          else
            (value, count, c :: rest)

/- Whether the text goes on with a digit. -/
def startsWithDigit
    (input : List Char) : Bool :=
  input.head?.any Char.isDigit

/- The text after the digits that it starts with. -/
def dropDigits
    (input : List Char) : List Char :=
  input.dropWhile Char.isDigit

/- A power of ten, rounded once. -/
def powerOfTen
    (exponent : Nat) : Float :=
  Float.ofScientific 1 false exponent

/- The greatest exponent of a power of ten. -/
def greatestPower : Nat :=
  308

/-
  Divide by a power of ten, rounded once for the division
  and once for each full power left over.
-/
def divideByPower
    (x : Float)
    (exponent : Nat) : Float :=
  if exponent ≤ greatestPower then
    x / powerOfTen exponent
  else if x == 0.0 then
    x
  else
    divideByPower (x / powerOfTen greatestPower)
      (exponent - greatestPower)
termination_by exponent
decreasing_by
  simp only [greatestPower] at *
  omega

/-
  The real number of a significand and an exponent.  It is
  the significand rounded, and then multiplied or divided.
-/
def realOfParts
    (minus : Bool)
    (significand : Nat)
    (exponent : Int) : Except Fault Float :=
  let signed (x : Float) : Float := if minus then -x else x
  let x := Float.ofNat significand
  if exponent < 0 then
    .ok (signed (divideByPower x (-exponent).toNat))
  else if exponent.toNat ≤ greatestPower then
    let scaled := x * powerOfTen exponent.toNat
    if scaled.isInf then
      .error .numberOutOfRange
    else
      .ok (signed scaled)
  else if x == 0.0 then
    .ok (signed x)
  else
    .error .numberOutOfRange

/- Attach what is left of the text to a real number. -/
def realThen
    (rest : List Char)
    (x : Except Fault Float) :
    Except Fault (Number × List Char) :=
  x.map (fun x => (.real x, rest))

/-
  Read an exponent whose letter is known.  One that is too
  great for its type makes the number zero or too large.
-/
def scanExponent
    (minus : Bool)
    (significand : Nat)
    (start : Int) : Reader Number := fun input =>
  let (downward, input) : Bool × List Char :=
    match input with
    | '+' :: rest => (false, rest)
    | '-' :: rest => (true, rest)
    | _ => (false, input)
  if input.isEmpty then
    .error (.ended .value)
  else if !startsWithDigit input then
    .error .badNumber
  else
    let (exponent, _, rest) :=
      scanDigits exponentLimit 0 0 input
    if startsWithDigit rest then
      if significand ≠ 0 ∧ !downward then
        .error .numberOutOfRange
      else
        .ok (.real (if minus then -0.0 else 0.0),
          dropDigits rest)
    else
      realThen rest (realOfParts minus significand
        (if downward then
          start - exponent
        else
          start + exponent))

/- Read an exponent, if there is one, and give the number. -/
def scanReal
    (minus : Bool)
    (significand : Nat)
    (exponent : Int) : Reader Number := fun input =>
  match input with
  | 'e' :: rest =>
      scanExponent minus significand exponent rest
  | 'E' :: rest =>
      scanExponent minus significand exponent rest
  | _ =>
      realThen input
        (realOfParts minus significand exponent)

/-
  Read the places of a number whose point is known.  Places
  that the significand has no room for are passed over.
-/
def scanPlaces
    (minus : Bool)
    (significand : Nat)
    (exponent : Int) : Reader Number := fun input =>
  let (significand, count, rest) :=
    scanDigits significandLimit significand 0 input
  if startsWithDigit rest then
    scanReal minus significand (exponent - count)
      (dropDigits rest)
  else if count = 0 then
    .error
      (if rest.isEmpty then .ended .value else .badNumber)
  else
    scanReal minus significand (exponent - count) rest

/- Go on after the digits before the point. -/
def scanFraction
    (minus : Bool)
    (significand : Nat)
    (exponent : Int) : Reader Number := fun input =>
  match input with
  | '.' :: rest =>
      scanPlaces minus significand exponent rest
  | _ => scanReal minus significand exponent input

/-
  The number whose digits have been read, when no point and
  no exponent may follow any more.
-/
def integerOrReal
    (minus : Bool)
    (significand : Nat) : Number :=
  if !minus then
    .whole significand
  else if significand = 0 ∨ Nat.pow 2 63 < significand then
    .real (-(Float.ofNat significand))
  else
    .negative significand

/- Read a number after its sign. -/
def scanNumber
    (minus : Bool) : Reader Number := fun input =>
  match input with
  | [] => .error (.ended .value)
  | c :: rest =>
      if !c.isDigit ∨ (c = '0' ∧ startsWithDigit rest) then
        .error .badNumber
      else
        let (significand, _, rest) :=
          scanDigits significandLimit 0 0 input
        if startsWithDigit rest then
          scanFraction minus significand
            (rest.takeWhile Char.isDigit).length
            (dropDigits rest)
        else
          match rest with
          | '.' :: _ =>
              scanFraction minus significand 0 rest
          | 'e' :: _ =>
              scanFraction minus significand 0 rest
          | 'E' :: _ =>
              scanFraction minus significand 0 rest
          | _ => .ok (integerOrReal minus significand, rest)

/- Pass over an exponent whose letter is known. -/
def skipExponent
    (input : List Char) : Except Fault (List Char) :=
  let input :=
    match input with
    | '+' :: rest => rest
    | '-' :: rest => rest
    | _ => input
  if startsWithDigit input then
    .ok (dropDigits input)
  else
    .error .badNumber

/- Pass over an exponent, if there is one. -/
def skipOptionalExponent
    (input : List Char) : Except Fault (List Char) :=
  match input with
  | 'e' :: rest => skipExponent rest
  | 'E' :: rest => skipExponent rest
  | _ => .ok input

/- Pass over a number after its sign. -/
def skipNumber
    (input : List Char) : Except Fault (List Char) :=
  match input with
  | [] => .error .badNumber
  | c :: rest =>
      if !c.isDigit ∨ (c = '0' ∧ startsWithDigit rest) then
        .error .badNumber
      else
        match dropDigits input with
        | '.' :: places =>
            if startsWithDigit places then
              skipOptionalExponent (dropDigits places)
            else
              .error .badNumber
        | rest => skipOptionalExponent rest

end Json

end CollectionTree
