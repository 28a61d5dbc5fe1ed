/-
  Ring buffers: a fixed number of slots that are overwritten in
  turn, so that the newest values replace the oldest.

  Key definitions include:
    * `RingBuffer`
    * `RingBuffer.filled`
    * `RingBuffer.push`
    * `RingBuffer.toList`
-/

namespace CollectionTree

/-
  Slots with a cursor.  The cursor points at the oldest
  value, which is the next one to be overwritten.
-/
structure RingBuffer (α : Type) where
  slots : List α
  cursor : Nat
  deriving DecidableEq, Repr

namespace RingBuffer

variable {α : Type}

/- A ring with the same value in each of its slots. -/
def filled
    (size : Nat)
    (x : α) : RingBuffer α :=
  ⟨List.replicate size x, 0⟩

/- The number of slots. -/
def size
    (r : RingBuffer α) : Nat :=
  r.slots.length

/- The cursor addresses one of the slots. -/
def InBounds
    (r : RingBuffer α) : Prop :=
  r.cursor < r.slots.length

instance
    (r : RingBuffer α) :
    Decidable r.InBounds := by
  unfold InBounds
  infer_instance

/-
  Overwrite the oldest value and move on, from the last slot
  back to the first.
-/
def push
    (r : RingBuffer α)
    (x : α) : RingBuffer α :=
  ⟨r.slots.set r.cursor x,
    (r.cursor + 1) % r.slots.length⟩

/- The values from the oldest to the newest. -/
def toList
    (r : RingBuffer α) : List α :=
  r.slots.drop r.cursor ++ r.slots.take r.cursor

/-
  Seen from the oldest value on, a push drops the first
  value and adds the new one at the end.
-/
theorem toList_push
    (r : RingBuffer α)
    (x : α)
    (hBounds : r.InBounds) :
    (r.push x).toList = r.toList.tail ++ [x] := by
  obtain ⟨slots, cursor⟩ := r
  have hLt : cursor < slots.length := hBounds
  have hTail :
      (slots.drop cursor ++ slots.take cursor).tail =
        slots.drop (cursor + 1) ++ slots.take cursor := by
    rw [List.drop_eq_getElem_cons hLt]
    rfl
  have hTake :
      (slots.set cursor x).take (cursor + 1) =
        slots.take cursor ++ [x] := by
    rw [List.take_add_one]
    have hSame :
        (slots.take cursor).set cursor x =
          slots.take cursor :=
      List.set_eq_of_length_le (List.length_take_le _ _)
    simp [hLt, List.take_set, hSame]
  simp only [toList, push, hTail]
  by_cases hLast : cursor + 1 = slots.length
  · have hSet :
        slots.set cursor x = slots.take cursor ++ [x] := by
      rw [← hTake]
      exact (List.take_of_length_le
        (by rw [List.length_set]; omega)).symm
    simp [hLast, hSet]
  · have hMod : (cursor + 1) % slots.length = cursor + 1 :=
      Nat.mod_eq_of_lt (by omega)
    rw [hMod, hTake]
    simp [List.drop_set]

end RingBuffer

end CollectionTree
