import CollectionTree.LinkEstimate

/-
  Uses of an estimate whose cursor may stand anywhere, as
  one that was read from a file has it.

  Key definitions include:
    * `LinkEstimate.record?`
    * `LinkEstimate.costs?`

  A cursor past the slots addresses none of them.  A cursor
  right after the last slot still parts the slots in two.
-/

namespace CollectionTree

namespace LinkEstimate

/- Note a packet's cost, if there is a slot for it. -/
def record?
    (e : LinkEstimate)
    (cost : UInt8) : Option LinkEstimate :=
  if e.history.InBounds then
    some (e.record cost)
  else
    none

/- The costs from the cursor on and then those before it. -/
def costs?
    (e : LinkEstimate) : Option (List UInt8) :=
  if e.history.cursor ≤ e.history.size then
    some e.costs
  else
    none

end LinkEstimate

end CollectionTree
