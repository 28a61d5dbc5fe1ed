/-
  Whole numbers in decimal notation.

  Key definitions include:
    * `Whole.Fault`
    * `Whole.parse`
    * `Whole.text`

  A number is an optional plus sign and ASCII digits, with a
  greatest value that the reader is given.  Characters are
  read from left to right and the first one that cannot
  stand decides the fault; at one character a wrong digit is
  noticed before the value becomes too large.
-/

namespace CollectionTree

namespace Whole

------------------------------------------------------------
-- Digits
------------------------------------------------------------

/- The value of an ASCII digit. -/
def digit?
    (c : Char) : Option Nat :=
  if '0' ≤ c ∧ c ≤ '9' then
    some (c.toNat - '0'.toNat)
  else
    none

------------------------------------------------------------
-- Reading
------------------------------------------------------------

/- Why a text is not a whole number. -/
inductive Fault
  | empty
  | invalidDigit
  | tooLarge
  deriving DecidableEq, Repr

/- The wording of a fault. -/
def Fault.message : Fault → String
  | .empty => "cannot parse integer from empty string"
  | .invalidDigit => "invalid digit found in string"
  | .tooLarge =>
      "number too large to fit in target type"

/- Continue a number, whose digits so far give `value`. -/
def parseDigits
    (limit : Nat) :
    Nat → List Char → Except Fault Nat
  | value, [] => .ok value
  | value, c :: rest =>
      match digit? c with
      | none => .error .invalidDigit
      | some d =>
          if 10 * value + d ≤ limit then
            parseDigits limit (10 * value + d) rest
          else
            .error .tooLarge

/- Read a number that is at most `limit`. -/
def parse
    (limit : Nat)
    (text : List Char) : Except Fault Nat :=
  match text with
  | [] => .error .empty
  | '+' :: c :: rest => parseDigits limit 0 (c :: rest)
  | _ => parseDigits limit 0 text

------------------------------------------------------------
-- Writing
------------------------------------------------------------

/- The decimal digits of a number, without leading zeros. -/
def digits
    (n : Nat) : List Char :=
  Nat.toDigits 10 n

/- The decimal notation of a number. -/
def text
    (n : Nat) : String :=
  String.ofList (digits n)

/- The decimal notation of an integer. -/
def signedText
    (n : Int) : String :=
  match n with
  | .ofNat n => text n
  | .negSucc n => "-" ++ text (n + 1)

/- Decimal notation filled with zeros to a given width. -/
def paddedText
    (width n : Nat) : String :=
  let shown := digits n
  String.ofList
    (List.replicate (width - shown.length) '0' ++ shown)

end Whole

end CollectionTree
