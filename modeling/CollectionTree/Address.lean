import CollectionTree.Decimal.Whole
import CollectionTree.Text.Blank

/-
  Link-layer node addresses: two bytes, compared by value
  and written in dotted notation.

  Key definitions include:
    * `Address`
    * `Address.null`
    * `Address.ofUInt16`
    * `Address.toUInt16`
    * `Address.text`
    * `Address.parse`
    * `Address.sort`
-/

namespace CollectionTree

------------------------------------------------------------
-- Addresses
------------------------------------------------------------

/- The address of a node, high byte first. -/
structure Address where
  hi : UInt8
  lo : UInt8
  deriving DecidableEq, Repr, Inhabited

namespace Address

/- The address that stands for an unset slot. -/
def null : Address :=
  ⟨0, 0⟩

/- Whether an address is the unset one. -/
def isNull
    (a : Address) : Bool :=
  a == null

/- The address whose bytes are those of a 16-bit word. -/
def ofUInt16
    (word : UInt16) : Address :=
  ⟨(word >>> 8).toUInt8, word.toUInt8⟩

/- The two bytes as one word, high byte first. -/
def toUInt16
    (a : Address) : UInt16 :=
  (a.hi.toUInt16 <<< 8) ||| a.lo.toUInt16

/- The two bytes in order. -/
def bytes
    (a : Address) : List UInt8 :=
  [a.hi, a.lo]

------------------------------------------------------------
-- Order
------------------------------------------------------------

/- The high byte decides; between equals, the low byte. -/
def precedes
    (a b : Address) : Bool :=
  a.hi < b.hi || (a.hi == b.hi && a.lo ≤ b.lo)

/- Addresses in ascending order. -/
def sort
    (addresses : List Address) : List Address :=
  addresses.mergeSort precedes

/- How many different addresses a list holds. -/
def distinctCount
    (addresses : List Address) : Nat :=
  addresses.eraseDups.length

------------------------------------------------------------
-- Dotted Notation
------------------------------------------------------------

/- The two bytes in decimal with a dot between them. -/
def text
    (a : Address) : String :=
  Whole.text a.hi.toNat ++ "." ++ Whole.text a.lo.toNat

/- The dotted notation marked as an address. -/
def label
    (a : Address) : String :=
  "NodeAddr(" ++ a.text ++ ")"

/- Why a text is not an address. -/
inductive Fault
  | noDot
  | badHalf (fault : Whole.Fault)
  deriving DecidableEq, Repr

/- Read one half: a byte, with white space around it. -/
def parseHalf
    (half : List Char) : Except Fault UInt8 :=
  match Whole.parse 255 (Text.trim half) with
  | .ok n => .ok n.toUInt8
  | .error fault => .error (.badHalf fault)

/-
  Read dotted notation, cut at the first dot.  When both
  halves are bad, the fault is that of the first.
-/
def parse
    (text : List Char) : Except Fault Address :=
  match Text.splitFirst? '.' text with
  | none => .error .noDot
  | some (first, second) =>
      match parseHalf first with
      | .error fault => .error fault
      | .ok hi =>
          match parseHalf second with
          | .error fault => .error fault
          | .ok lo => .ok ⟨hi, lo⟩

end Address

end CollectionTree
