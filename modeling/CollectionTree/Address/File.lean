import CollectionTree.Address
import CollectionTree.Json.Reader
import CollectionTree.Json.Writer

/-
  Addresses in files: a list of the two bytes.

  Key definitions include:
    * `Address.ofJson`
    * `Address.toJson`
-/

namespace CollectionTree

namespace Address

/- The address with the given bytes. -/
def ofBytes : List UInt8 → Address
  | [hi, lo] => ⟨hi, lo⟩
  | _ => null

/- Read an address. -/
def ofJson
    (text : String) : Except Json.Fault Address :=
  (Json.parse (Json.readArray 2 Json.readUInt8) text).map
    ofBytes

/- An address as a value. -/
def value
    (a : Address) : Json.Value :=
  .list (a.bytes.map (fun byte => .whole byte.toNat))

/- An address as text on one line. -/
def toJson
    (a : Address) : String :=
  a.value.compact

end Address

end CollectionTree
