import CollectionTree.Json.Skip

/-
  Reading JSON values of known kinds.

  Key definitions include:
    * `Json.readWhole`
    * `Json.readReal`
    * `Json.readArray`
    * `Json.readOnlyKey`
    * `Json.Shape`
    * `Json.Shape.read`
    * `Json.parse`

  A record is written as an object or as a list of its
  fields in order.  The first fault from left to right is
  reported; what is missing shows only at the end.
-/

namespace CollectionTree

namespace Json

------------------------------------------------------------
-- Faults of Kind
------------------------------------------------------------

/- The fault of a value of an unexpected kind. -/
def mismatch
    (expected : String)
    (input : List Char) : Fault :=
  let wrong (found : Found) : Fault :=
    .wrongType found expected
  let named
      (letters : List Char)
      (rest : List Char)
      (found : Found) : Fault :=
    match scanName letters rest with
    | .ok _ => wrong found
    | .error fault => fault
  let number (minus : Bool) (text : List Char) : Fault :=
    match scanNumber minus text with
    | .ok (n, _) => wrong n.found
    | .error fault => fault
  match input with
  | 'n' :: rest => named ['u', 'l', 'l'] rest .null
  | 't' :: rest => named ['r', 'u', 'e'] rest (.boolean true)
  | 'f' :: rest =>
      named ['a', 'l', 's', 'e'] rest (.boolean false)
  | '-' :: rest => number true rest
  | '"' :: rest =>
      match scanString rest with
      | .ok (s, _) => wrong (.text s)
      | .error fault => fault
  | '[' :: _ => wrong .sequence
  | '\x7b' :: _ => wrong .map
  | c :: _ =>
      if c.isDigit then number false input else .expectedValue
  | [] => .expectedValue

------------------------------------------------------------
-- Scalars
------------------------------------------------------------

/-
  Read a number, which is then to be accepted or refused by
  what it stands for.
-/
def readNumber
    (expected : String)
    (accept : Number → Except Fault α) : Reader α :=
  fun input =>
    let take (minus : Bool) (text : List Char) :
        Except Fault (α × List Char) := do
      let (n, rest) ← scanNumber minus text
      let value ← accept n
      pure (value, rest)
    match skipSpace input with
    | [] => .error (.ended .value)
    | '-' :: rest => take true rest
    | c :: rest =>
        if c.isDigit then
          take false (c :: rest)
        else
          .error (mismatch expected (c :: rest))

/- Read an integer from zero to a limit. -/
def readWhole
    (expected : String)
    (limit : Nat) : Reader Nat :=
  readNumber expected (fun n =>
    match n with
    | .whole value =>
        if value ≤ limit then
          .ok value
        else
          .error (.wrongValue value expected)
    | .negative value =>
        .error (.wrongValue (-(value : Int)) expected)
    | .real x => .error (.wrongType (.real x) expected))

/- Read a byte. -/
def readUInt8 : Reader UInt8 := fun input => do
  let (n, rest) ← readWhole "u8" (Nat.pow 2 8 - 1) input
  pure (n.toUInt8, rest)

/- Read a 64-bit word. -/
def readUInt64 : Reader UInt64 := fun input => do
  let (n, rest) ← readWhole "u64" (Nat.pow 2 64 - 1) input
  pure (n.toUInt64, rest)

/- Read a 64-bit word that counts something. -/
def readSize : Reader UInt64 := fun input => do
  let (n, rest) ← readWhole "usize" (Nat.pow 2 64 - 1) input
  pure (n.toUInt64, rest)

/- Read a real number, which may be written as an integer. -/
def readReal : Reader Float :=
  readNumber "f64" (fun n =>
    match n with
    | .whole value => .ok (Float.ofNat value)
    | .negative value => .ok (-(Float.ofNat value))
    | .real x => .ok x)

/- Read the value that stands for nothing. -/
def readNull : Reader Unit := fun input =>
  match skipSpace input with
  | [] => .error (.ended .value)
  | 'n' :: rest => do
      let rest ← scanName ['u', 'l', 'l'] rest
      pure ((), rest)
  | other => .error (mismatch "unit" other)

------------------------------------------------------------
-- Lists
------------------------------------------------------------

/-
  Go to the next element of a list; `none` at the end, which
  is not passed over.
-/
def nextElement
    (isFirst : Bool)
    (input : List Char) :
    Except Fault (Option (List Char)) :=
  match skipSpace input with
  | [] => .error (.ended .list)
  | ']' :: _ => .ok none
  | c :: rest =>
      if isFirst then
        .ok (some (c :: rest))
      else if c = ',' then
        match skipSpace rest with
        | [] => .error (.ended .value)
        | ']' :: _ => .error .trailingComma
        | next => .ok (some next)
      else
        .error .expectedElement

/- Pass over the end of a list that holds all it should. -/
def endList
    (input : List Char) : Except Fault (List Char) :=
  match skipSpace input with
  | [] => .error (.ended .list)
  | ']' :: rest => .ok rest
  | ',' :: rest =>
      match skipSpace rest with
      | ']' :: _ => .error .trailingComma
      | _ => .error .trailingCharacters
  | _ => .error .trailingCharacters

/-
  Read the elements of a list that are still to come, given
  how many have been read, and the end of the list.
-/
def readElements
    (element : Reader α)
    (expected : String) :
    Nat → Nat → Reader (List α)
  | _, 0, input => do
      let rest ← endList input
      pure ([], rest)
  | done, missing + 1, input => do
      match ← nextElement (done == 0) input with
      | none => .error (.wrongLength done expected)
      | some next => do
          let (value, rest) ← element next
          let (values, rest) ←
            readElements element expected (done + 1) missing
              rest
          pure (value :: values, rest)

/- Read a list of known length. -/
def readArray
    (length : Nat)
    (element : Reader α) : Reader (List α) := fun input =>
  let expected := "an array of length " ++ Whole.text length
  match skipSpace input with
  | [] => .error (.ended .value)
  | '[' :: rest =>
      readElements element expected 0 length rest
  | other => .error (mismatch expected other)

------------------------------------------------------------
-- Objects of One Entry
------------------------------------------------------------

/-
  Read the only key of an object whose opening is known.  An
  object without one lacks a value.
-/
def readOnlyKey : Reader String := fun input =>
  match skipSpace input with
  | [] => .error (.ended .object)
  | '"' :: rest => scanString rest
  | '\x7d' :: _ => .error .expectedValue
  | _ => .error .keyNotText

/- Pass over the end of an object after its only entry. -/
def endOnlyEntry
    (input : List Char) : Except Fault (List Char) :=
  match skipSpace input with
  | [] => .error (.ended .object)
  | '\x7d' :: rest => .ok rest
  | _ => .error .expectedValue

------------------------------------------------------------
-- Records
------------------------------------------------------------

/- A field of a record under construction. -/
structure Field (σ : Type) where
  name : String
  read : σ → Reader σ

/-
  A kind of record.  When fields are required, leaving one
  out is a fault; otherwise it keeps its initial value.
-/
structure Shape (σ : Type) where
  title : String
  fields : List (Field σ)
  required : Bool

namespace Shape

variable {σ : Type}

/- What is expected of a list that is too short. -/
def lengthTitle
    (shape : Shape σ) : String :=
  let count := shape.fields.length
  shape.title ++ " with " ++ Whole.text count ++
    (if count = 1 then " element" else " elements")

/- Read the fields that are still to come in a list. -/
def readListed
    (shape : Shape σ) :
    Nat → List (Field σ) → σ → Reader σ
  | _, [], state, input => do
      let rest ← endList input
      pure (state, rest)
  | done, field :: fields, state, input => do
      match ← nextElement (done == 0) input with
      | none =>
          if shape.required then
            .error (.wrongLength done shape.lengthTitle)
          else do
            let rest ← endList input
            pure (state, rest)
      | some next => do
          let (state, rest) ← field.read state next
          readListed shape (done + 1) fields state rest

/-
  Go to the key of the next entry, past its opening quote;
  `none` at the end, which is passed over by the caller.
-/
def nextKey
    (isFirst : Bool)
    (input : List Char) :
    Except Fault (Option (List Char)) :=
  match skipSpace input with
  | [] => .error (.ended .object)
  | '\x7d' :: _ => .ok none
  | c :: rest =>
      if isFirst then
        if c = '"' then
          .ok (some rest)
        else
          .error .keyNotText
      else if c = ',' then
        match skipSpace rest with
        | [] => .error (.ended .value)
        | '"' :: rest => .ok (some rest)
        | '\x7d' :: _ => .error .trailingComma
        | _ => .error .keyNotText
      else
        .error .expectedEntry

/- Pass over the colon after a key. -/
def endKey
    (input : List Char) : Except Fault (List Char) :=
  match skipSpace input with
  | [] => .error (.ended .object)
  | ':' :: rest => .ok rest
  | _ => .error .expectedColon

/- The fault of the first required field that is missing. -/
def checkComplete
    (shape : Shape σ)
    (seen : List String) : Except Fault Unit :=
  if shape.required then
    match shape.fields.find?
        (fun field => !seen.contains field.name) with
    | some field => .error (.missingField field.name)
    | none => .ok ()
  else
    .ok ()

/-
  Read the entries that are still to come in an object, in
  at most `fuel` of them.  Unknown fields are passed over.
-/
def readEntries
    (shape : Shape σ) :
    Nat → List String → Bool → σ → Reader σ
  | 0, _, _, _, _ => .error (.ended .object)
  | fuel + 1, seen, isFirst, state, input => do
      match ← nextKey isFirst input with
      | none => do
          shape.checkComplete seen
          pure (state, (skipSpace input).drop 1)
      | some next => do
          let (name, rest) ← scanString next
          match shape.fields.find?
              (fun field => field.name == name) with
          | some field =>
              if seen.contains name then
                .error (.repeatedField name)
              else do
                let rest ← endKey rest
                let (state, rest) ← field.read state rest
                readEntries shape fuel (name :: seen) false
                  state rest
          | none => do
              let rest ← endKey rest
              let rest ← skipValue rest
              readEntries shape fuel seen false state rest

/- Read a record, starting from an initial one. -/
def read
    (shape : Shape σ)
    (initial : σ) : Reader σ := fun input =>
  match skipSpace input with
  | [] => .error (.ended .value)
  | '[' :: rest =>
      shape.readListed 0 shape.fields initial rest
  | '\x7b' :: rest =>
      shape.readEntries (rest.length + 1) [] true initial
        rest
  | other => .error (mismatch shape.title other)

end Shape

------------------------------------------------------------
-- Whole Texts
------------------------------------------------------------

/- Read a text that holds one value and nothing else. -/
def parse
    (reader : Reader α)
    (text : String) : Except Fault α := do
  let (value, rest) ← reader text.toList
  match skipSpace rest with
  | [] => .ok value
  | _ => .error .trailingCharacters

end Json

end CollectionTree
