import CollectionTree.Json.Reader
import CollectionTree.Json.Writer
import CollectionTree.LinkEstimate

/-
  Link estimates in files.

  Key definitions include:
    * `LinkEstimate.shape`
    * `LinkEstimate.ofJson`
    * `LinkEstimate.toJson`

  The slots are written as they are stored, together with
  the cursor.  Reading takes any cursor.
-/

namespace CollectionTree

namespace LinkEstimate

------------------------------------------------------------
-- Reading
------------------------------------------------------------

/- The estimate with other slots. -/
def withSlots
    (e : LinkEstimate)
    (slots : List UInt8) : LinkEstimate :=
  ⟨{ e.history with slots := slots }⟩

/- The estimate with another cursor. -/
def withCursor
    (e : LinkEstimate)
    (cursor : Nat) : LinkEstimate :=
  ⟨{ e.history with cursor := cursor }⟩

/- How an estimate is laid out. -/
def shape : Json.Shape LinkEstimate where
  title := "struct LinkEstimate"
  required := true
  fields :=
    [ ⟨"history", fun e input => do
        let (slots, rest) ←
          Json.readArray window Json.readUInt8 input
        pure (e.withSlots slots, rest)⟩,
      ⟨"cursor", fun e input => do
        let (cursor, rest) ← Json.readSize input
        pure (e.withCursor cursor.toNat, rest)⟩ ]

/- Read an estimate. -/
def ofJson
    (text : String) : Except Json.Fault LinkEstimate :=
  Json.parse (shape.read fresh) text

------------------------------------------------------------
-- Writing
------------------------------------------------------------

/- An estimate as a value. -/
def value
    (e : LinkEstimate) : Json.Value :=
  .object
    [ ("history",
        .list
          (e.history.slots.map
            (fun cost => .whole cost.toNat))),
      ("cursor", .whole e.history.cursor) ]

/- An estimate as text on one line. -/
def toJson
    (e : LinkEstimate) : String :=
  e.value.compact

end LinkEstimate

end CollectionTree
