import CollectionTree.Json.Scan

/-
  Passing over a JSON value of any kind.

  Key definitions include:
    * `Json.Enclosure`
    * `Json.Position`
    * `Json.skipValue`

  A value that nobody asks for is only checked for its
  notation, and less strictly than one that is kept: its
  numbers may be out of range and its strings may hold
  halves of surrogate pairs.
-/

namespace CollectionTree

namespace Json

/- A list or an object that is not yet closed. -/
inductive Enclosure
  | list
  | object
  deriving DecidableEq, Repr

/- What may come next. -/
inductive Position
  | value
  | opened
  | followed
  deriving DecidableEq, Repr

/- The fault of a text that ends inside an enclosure. -/
def Enclosure.endedFault : Enclosure → Fault
  | .list => .ended .list
  | .object => .ended .object

/- The fault of a value that nothing sets off from the next. -/
def Enclosure.separatorFault : Enclosure → Fault
  | .list => .expectedElement
  | .object => .expectedEntry

/- The character that closes an enclosure. -/
def Enclosure.closing : Enclosure → Char
  | .list => ']'
  | .object => '\x7d'

/- Pass over the key of an entry and the colon after it. -/
def skipKey
    (input : List Char) : Except Fault (List Char) :=
  match skipSpace input with
  | [] => .error (.ended .object)
  | '"' :: rest => do
      let rest ← skipString rest
      match skipSpace rest with
      | [] => .error (.ended .object)
      | ':' :: rest => .ok rest
      | _ => .error .expectedColon
  | _ => .error .keyNotText

/- Pass over what stands before a value in an enclosure. -/
def skipToValue
    (enclosure : Enclosure)
    (input : List Char) : Except Fault (List Char) :=
  match enclosure with
  | .list => .ok input
  | .object => skipKey input

/-
  Pass over a scalar, whose first character is given; `none`
  when a list or an object starts there.
-/
def skipScalar
    (first : Char)
    (rest : List Char) :
    Except Fault (Option (List Char)) :=
  match first with
  | 'n' => (scanName ['u', 'l', 'l'] rest).map some
  | 't' => (scanName ['r', 'u', 'e'] rest).map some
  | 'f' => (scanName ['a', 'l', 's', 'e'] rest).map some
  | '"' => (skipString rest).map some
  | '-' => (skipNumber rest).map some
  | '[' => .ok none
  | '\x7b' => .ok none
  | _ =>
      if first.isDigit then
        (skipNumber (first :: rest)).map some
      else
        .error .expectedValue

/-
  Pass over a value inside some enclosures, the innermost
  first, in at most `fuel` moves.  Each move but the one
  into an enclosure takes a character at least.
-/
def skipFrom :
    Nat → Position → List Enclosure → List Char →
      Except Fault (List Char)
  | 0, _, _, _ => .error .expectedValue
  | fuel + 1, .value, enclosures, input =>
      match skipSpace input with
      | [] => .error (.ended .value)
      | first :: rest => do
          match ← skipScalar first rest with
          | some rest =>
              skipFrom fuel .followed enclosures rest
          | none =>
              let inner :=
                if first = '[' then
                  Enclosure.list
                else
                  Enclosure.object
              skipFrom fuel .opened (inner :: enclosures)
                rest
  | _ + 1, _, [], input => .ok input
  | fuel + 1, position, inner :: outer, input =>
      match skipSpace input with
      | [] => .error inner.endedFault
      | c :: rest => do
          if c = inner.closing then
            skipFrom fuel .followed outer rest
          else if position = .opened then
            let next ← skipToValue inner (c :: rest)
            skipFrom fuel .value (inner :: outer) next
          else if c = ',' then
            let next ← skipToValue inner rest
            skipFrom fuel .value (inner :: outer) next
          else
            .error inner.separatorFault

/- Pass over one value. -/
def skipValue
    (input : List Char) : Except Fault (List Char) :=
  skipFrom (2 * input.length + 2) .value [] input

end Json

end CollectionTree
