import CollectionTree.Proofs.LinkHistory

/-
  Links that get better.

  Key definitions include:
    * `LinkEstimate.Steady`

  Key theorems include:
    * `LinkEstimate.Steady.recordSuccess`
    * `LinkEstimate.Steady.etx_recordSuccess_le`
    * `LinkEstimate.Steady.etx_le`

  An unused link counts as one that takes four transmissions
  for a packet.  Packets that take a single one can only
  make it cheaper.
-/

namespace CollectionTree

namespace LinkEstimate

------------------------------------------------------------
-- Sums of Costs
------------------------------------------------------------

/- A cost that is at most all others makes a sum no greater. -/
theorem foldl_set_le
    {slots : List UInt8}
    {cost : UInt8}
    (hLeast : ∀ old ∈ slots, cost.toNat ≤ old.toNat)
    (cursor total : Nat) :
    (slots.set cursor cost).foldl
        (fun total cost => total + cost.toNat) total ≤
      slots.foldl
        (fun total cost => total + cost.toNat) total := by
  have hMore :
      ∀ (slots : List UInt8) (a b : Nat), a ≤ b →
        slots.foldl (fun total cost => total + cost.toNat)
            a ≤
          slots.foldl (fun total cost => total + cost.toNat)
            b := by
    intro slots
    induction slots with
    | nil => exact fun a b hLe => hLe
    | cons first rest ih =>
        intro a b hLe
        exact ih _ _ (Nat.add_le_add_right hLe _)
  induction slots generalizing cursor total with
  | nil => exact Nat.le_refl _
  | cons first rest ih =>
      have hFirst := hLeast first List.mem_cons_self
      have hRest :
          ∀ old ∈ rest, cost.toNat ≤ old.toNat :=
        fun old hMem =>
          hLeast old (List.mem_cons_of_mem first hMem)
      cases cursor with
      | zero =>
          exact hMore rest _ _
            (Nat.add_le_add_left hFirst total)
      | succ cursor => exact ih hRest cursor _

------------------------------------------------------------
-- Steady Links
------------------------------------------------------------

/- No packet on record took more than an unused link does. -/
structure Steady
    (e : LinkEstimate) : Prop where
  full : e.history.slots.length = window
  costs :
    ∀ cost ∈ e.history.slots,
      1 ≤ cost.toNat ∧ cost.toNat ≤ 4

theorem steady_fresh :
    fresh.Steady := by
  constructor
  · rfl
  · intro cost hMem
    rw [List.eq_of_mem_replicate hMem]
    decide

theorem Steady.recordSuccess
    {e : LinkEstimate}
    (hSteady : e.Steady) :
    (e.recordSuccess 1).Steady := by
  constructor
  · have hLength :
        (e.recordSuccess 1).history.slots.length =
          e.history.slots.length :=
      List.length_set
    exact hLength.trans hSteady.full
  · intro cost hMem
    rcases List.mem_or_eq_of_mem_set hMem with hOld | hNew
    · exact hSteady.costs cost hOld
    · rw [hNew]
      decide

/- A packet that took one transmission makes none dearer. -/
theorem Steady.etx_recordSuccess_le
    {e : LinkEstimate}
    (hSteady : e.Steady) :
    (e.recordSuccess 1).etx.toNat ≤ e.etx.toNat := by
  have hLeast :
      ∀ old ∈ e.history.slots,
        (1 : UInt8).toNat ≤ old.toNat :=
    fun old hMem => (hSteady.costs old hMem).1
  have hTotal :
      (e.recordSuccess 1).totalCost ≤ e.totalCost :=
    foldl_set_le hLeast e.history.cursor 0
  rw [toNat_etx, toNat_etx]
  omega

theorem Steady.etx_le
    {e : LinkEstimate}
    (hSteady : e.Steady) :
    e.etx.toNat ≤ 32 := by
  have hTotal : e.totalCost ≤ 64 := by
    have hLow :
        ∀ cost ∈ e.history.slots.map UInt8.toNat,
          cost ≤ 4 := by
      intro cost hMem
      rcases List.mem_map.mp hMem with ⟨byte, hByte, rfl⟩
      exact (hSteady.costs byte hByte).2
    have hSum := List.sum_le_card_nsmul _ 4 hLow
    rw [List.length_map, hSteady.full] at hSum
    rw [totalCost_eq_sum_slots]
    exact hSum
  rw [toNat_etx]
  omega

theorem Steady.le_etx
    {e : LinkEstimate}
    (hSteady : e.Steady) :
    8 ≤ e.etx.toNat :=
  Positive.le_etx
    { full := hSteady.full
      positive := fun cost hMem =>
        (hSteady.costs cost hMem).1 }

end LinkEstimate

end CollectionTree
