import CollectionTree.Proofs.Duplicates
import CollectionTree.Proofs.Routes
import Mathlib.Algebra.Order.BigOperators.Group.List
import Mathlib.Algebra.Order.Group.Nat
import Mathlib.Algebra.Ring.Nat
import Mathlib.Data.List.DropRight

/-
  A link estimate as a window that slides over the costs of
  packets.

  Key definitions include:
    * `LinkEstimate.Intact`
    * `LinkEstimate.Change`
    * `LinkEstimate.after`
    * `LinkEstimate.costsSinceReset`

  Key theorems include:
    * `LinkEstimate.Intact.costs_record`
    * `LinkEstimate.toNat_costs_after`
    * `LinkEstimate.etx_follows_latest_costs`

  Where the cursor stands cannot be seen from outside: read
  from the oldest cost on, each packet pushes one cost out
  and leaves its own at the end.
-/

namespace CollectionTree

namespace LinkEstimate

------------------------------------------------------------
-- Intact Estimates
------------------------------------------------------------

/- All slots are there, and the cursor points at one. -/
structure Intact
    (e : LinkEstimate) : Prop where
  full : e.history.slots.length = window
  cursor : e.history.cursor < window

theorem intact_fresh :
    fresh.Intact where
  full := List.length_replicate
  cursor := by decide

theorem Intact.inBounds
    {e : LinkEstimate}
    (hIntact : e.Intact) :
    e.history.InBounds := by
  unfold RingBuffer.InBounds
  rw [hIntact.full]
  exact hIntact.cursor

theorem Intact.record
    {e : LinkEstimate}
    (hIntact : e.Intact)
    (cost : UInt8) :
    (e.record cost).Intact where
  full := List.length_set.trans hIntact.full
  cursor := by
    have hCursor := hIntact.inBounds.push cost
    unfold RingBuffer.InBounds RingBuffer.push at hCursor
    rw [List.length_set, hIntact.full] at hCursor
    unfold LinkEstimate.record RingBuffer.push
    rw [hIntact.full]
    exact hCursor

theorem Intact.length_costs
    {e : LinkEstimate}
    (hIntact : e.Intact) :
    e.costs.length = 16 := by
  have hLength :
      e.costs.reverse.length = e.history.slots.length :=
    e.history.length_newestFirst
  rw [← List.length_reverse, hLength]
  exact hIntact.full

/- A cost pushes the oldest one out. -/
theorem Intact.costs_record
    {e : LinkEstimate}
    (hIntact : e.Intact)
    (cost : UInt8) :
    (e.record cost).costs = e.costs.tail ++ [cost] :=
  e.history.toList_push cost hIntact.inBounds

theorem Intact.toNat_costs_record
    {e : LinkEstimate}
    (hIntact : e.Intact)
    (cost : UInt8) :
    (e.record cost).costs.map UInt8.toNat =
      (e.costs.map UInt8.toNat).tail ++ [cost.toNat] := by
  rw [hIntact.costs_record, List.map_append, List.map_tail]
  rfl

theorem totalCost_eq_sum_slots
    (e : LinkEstimate) :
    e.totalCost =
      (e.history.slots.map UInt8.toNat).sum := by
  unfold totalCost
  rw [List.sum_eq_foldl, List.foldl_map]

/- The order of the slots does not matter to their sum. -/
theorem totalCost_eq_sum
    (e : LinkEstimate) :
    e.totalCost = (e.costs.map UInt8.toNat).sum := by
  have hPerm : e.history.slots.Perm e.costs :=
    e.history.toList_perm.symm
  rw [totalCost_eq_sum_slots]
  exact (hPerm.map UInt8.toNat).sum_eq

/- The sum of the costs has room in 32 bits. -/
theorem Intact.totalCost_le
    {e : LinkEstimate}
    (hIntact : e.Intact) :
    e.totalCost ≤ 255 * window := by
  have hBytes :
      ∀ cost ∈ e.costs.map UInt8.toNat, cost ≤ 255 := by
    intro cost hMem
    rcases List.mem_map.mp hMem with ⟨byte, -, rfl⟩
    exact Nat.le_of_lt_succ (UInt8.toNat_lt byte)
  have hSum := List.sum_le_card_nsmul _ 255 hBytes
  rw [List.length_map, hIntact.length_costs] at hSum
  rw [totalCost_eq_sum]
  exact hSum

/- The expected cost never reaches the end of the words. -/
theorem Intact.toNat_etx
    {e : LinkEstimate}
    (hIntact : e.Intact) :
    e.etx.toNat =
      8 * (e.costs.map UInt8.toNat).sum / 16 := by
  have hTotal : e.totalCost ≤ 255 * 16 :=
    hIntact.totalCost_le
  rw [LinkEstimate.toNat_etx, ← totalCost_eq_sum]
  omega

------------------------------------------------------------
-- Changes
------------------------------------------------------------

/- What happens to an estimate. -/
inductive Change
  | success (transmissions : UInt8)
  | failure (transmissions : UInt8)
  | reset
  deriving DecidableEq, Repr

/-
  The cost of a packet: a failure counts double, as far as
  a byte goes.  A reset is not a packet.
-/
def Change.cost? : Change → Option Nat
  | .success transmissions => some transmissions.toNat
  | .failure transmissions =>
      some (min (2 * transmissions.toNat) 255)
  | .reset => none

/- The estimate after a change; a reset begins anew. -/
def change
    (e : LinkEstimate) : Change → LinkEstimate
  | .success transmissions => e.recordSuccess transmissions
  | .failure transmissions => e.recordFailure transmissions
  | .reset => fresh

/- The estimate of a new link after some changes. -/
def after
    (changes : List Change) : LinkEstimate :=
  changes.foldl change fresh

/- The costs after the last reset, the oldest first. -/
def costsSinceReset
    (changes : List Change) : List Nat :=
  (changes.rtakeWhile (fun c => c ≠ .reset)).filterMap
    Change.cost?

theorem after_concat
    (changes : List Change)
    (last : Change) :
    after (changes ++ [last]) =
      (after changes).change last :=
  List.foldl_concat ..

theorem costsSinceReset_concat
    (changes : List Change)
    (last : Change) :
    costsSinceReset (changes ++ [last]) =
      last.cost?.elim []
        (fun cost => costsSinceReset changes ++ [cost]) := by
  unfold costsSinceReset
  cases last with
  | reset =>
      rw [List.rtakeWhile_concat_neg _ _ _ (by simp)]
      rfl
  | success transmissions =>
      rw [List.rtakeWhile_concat_pos _ _ _ (by simp),
        List.filterMap_append]
      rfl
  | failure transmissions =>
      rw [List.rtakeWhile_concat_pos _ _ _ (by simp),
        List.filterMap_append]
      rfl

/- Every change but a reset records its cost. -/
theorem exists_change_eq_record
    {packet : Change}
    {cost : Nat}
    (hCost : packet.cost? = some cost)
    (e : LinkEstimate) :
    ∃ byte : UInt8,
      byte.toNat = cost ∧ e.change packet = e.record byte := by
  cases packet with
  | reset => contradiction
  | success transmissions =>
      exact ⟨transmissions, Option.some.inj hCost, rfl⟩
  | failure transmissions =>
      refine ⟨failureCost transmissions, ?_, rfl⟩
      rw [toNat_failureCost]
      exact Option.some.inj hCost

theorem eq_reset_of_cost?
    {packet : Change}
    (hNone : packet.cost? = none) :
    packet = .reset := by
  cases packet with
  | reset => rfl
  | success transmissions => contradiction
  | failure transmissions => contradiction

theorem intact_after
    (changes : List Change) :
    (after changes).Intact := by
  induction changes using List.reverseRecOn with
  | nil => exact intact_fresh
  | append_singleton earlier last ih =>
      rw [after_concat]
      cases hCost : last.cost? with
      | none =>
          rw [eq_reset_of_cost? hCost]
          exact intact_fresh
      | some cost =>
          rcases exists_change_eq_record hCost _ with
            ⟨byte, -, hRecord⟩
          rw [hRecord]
          exact ih.record byte

------------------------------------------------------------
-- The Window
------------------------------------------------------------

/- The last of some elements, when one more follows them. -/
theorem rtake_concat_of_le
    {α : Type}
    {size : Nat}
    {l : List α}
    (hEnough : size ≤ l.length)
    (x : α)
    (hSize : 0 < size) :
    (l ++ [x]).rtake size = (l.rtake size).tail ++ [x] := by
  rcases Nat.exists_eq_add_of_lt hSize with ⟨fewer, hFewer⟩
  have hSucc : size = fewer + 1 := by
    omega
  have hTail : (l.rtake size).tail = l.rtake fewer := by
    unfold List.rtake
    rw [List.tail_drop]
    congr 1
    omega
  rw [hTail, hSucc, List.rtake_concat_succ]

/-
  The costs that an estimate remembers are the latest ones,
  as if sixteen packets of cost four had come before.
-/
theorem toNat_costs_after
    (changes : List Change) :
    (after changes).costs.map UInt8.toNat =
      (List.replicate 16 4 ++
        costsSinceReset changes).rtake 16 := by
  induction changes using List.reverseRecOn with
  | nil => decide
  | append_singleton earlier last ih =>
      rw [after_concat, costsSinceReset_concat]
      cases hCost : last.cost? with
      | none =>
          rw [eq_reset_of_cost? hCost]
          change
            fresh.costs.map UInt8.toNat =
              (List.replicate 16 4 ++ []).rtake 16
          decide
      | some cost =>
          rcases exists_change_eq_record hCost
              (after earlier) with
            ⟨byte, rfl, hRecord⟩
          have hEnough :
              16 ≤
                (List.replicate 16 4 ++
                  costsSinceReset earlier).length := by
            rw [List.length_append, List.length_replicate]
            omega
          rw [hRecord,
            (intact_after earlier).toNat_costs_record, ih,
            Option.elim_some, ← List.append_assoc,
            rtake_concat_of_le hEnough _ (by decide)]

/-
  Costs that follow one another push out all that came
  before when they fill the window.
-/
theorem rtake_append_of_length
    {α : Type}
    (l last : List α) :
    (l ++ last).rtake last.length = last := by
  unfold List.rtake
  rw [List.length_append, Nat.add_sub_cancel,
    List.drop_left]

theorem costsSinceReset_append_of_costs
    (changes : List Change)
    {packets : List Change}
    {cost : Nat}
    (hCosts : ∀ p ∈ packets, p.cost? = some cost) :
    costsSinceReset (changes ++ packets) =
      costsSinceReset changes ++
        List.replicate packets.length cost := by
  induction packets using List.reverseRecOn with
  | nil => simp
  | append_singleton earlier last ih =>
      have hLast : last.cost? = some cost :=
        hCosts last (by simp)
      have hEarlier :=
        ih (fun p hMem =>
          hCosts p (List.mem_append_left _ hMem))
      rw [← List.append_assoc, costsSinceReset_concat,
        hLast, Option.elim_some, hEarlier,
        List.append_assoc, List.length_append,
        List.length_singleton, List.replicate_succ']

/- A dearer packet makes no later list of costs cheaper. -/
theorem forall₂_costsSinceReset
    (earlier : List Change)
    {less more : Change}
    {lower higher : Nat}
    (hLess : less.cost? = some lower)
    (hMore : more.cost? = some higher)
    (hLe : lower ≤ higher)
    (later : List Change) :
    List.Forall₂ (· ≤ ·)
      (costsSinceReset (earlier ++ less :: later))
      (costsSinceReset (earlier ++ more :: later)) := by
  induction later using List.reverseRecOn with
  | nil =>
      rw [costsSinceReset_concat, costsSinceReset_concat,
        hLess, hMore]
      exact List.rel_append
        (List.forall₂_refl _)
        (List.Forall₂.cons hLe List.Forall₂.nil)
  | append_singleton between last ih =>
      have hSplit
          (packet : Change) :
          earlier ++ packet :: (between ++ [last]) =
            (earlier ++ packet :: between) ++ [last] := by
        simp
      rw [hSplit, hSplit, costsSinceReset_concat,
        costsSinceReset_concat]
      cases last.cost? with
      | none => exact List.Forall₂.nil
      | some cost =>
          exact List.rel_append ih (List.forall₂_refl _)

/- The same number of the last costs keeps their order. -/
theorem forall₂_rtake
    {costs dearer : List Nat}
    (hLe : List.Forall₂ (· ≤ ·) costs dearer)
    (size : Nat) :
    List.Forall₂ (· ≤ ·)
      (costs.rtake size) (dearer.rtake size) := by
  unfold List.rtake
  rw [hLe.length_eq]
  exact List.forall₂_drop _ hLe

------------------------------------------------------------
-- The Expected Cost
------------------------------------------------------------

/-
  Half of a sum, rounded down, moves by no more than half of
  what the sum moves by, rounded up.
-/
theorem natAbs_half_sub_le
    (rest oldest cost : Nat) :
    (((8 * (rest + cost) / 16 : Nat) : Int) -
        (8 * (oldest + rest) / 16 : Nat)).natAbs ≤
      (((cost : Int) - oldest).natAbs + 1) / 2 := by
  omega

/- One packet moves what is expected only so far. -/
theorem Intact.natAbs_etx_record_le
    {e : LinkEstimate}
    (hIntact : e.Intact)
    (cost : UInt8) :
    ∃ oldest ∈ (e.costs.map UInt8.toNat).head?,
      (((e.record cost).etx.toNat : Int) -
          e.etx.toNat).natAbs ≤
        (((cost.toNat : Int) - oldest).natAbs + 1) / 2 := by
  have hLength : (e.costs.map UInt8.toNat).length = 16 := by
    rw [List.length_map, hIntact.length_costs]
  obtain ⟨oldest, rest, hCosts⟩ :=
    List.exists_cons_of_length_eq_add_one hLength
  have hOld :
      e.etx.toNat = 8 * (oldest + rest.sum) / 16 := by
    rw [hIntact.toNat_etx, hCosts, List.sum_cons]
  have hNew :
      (e.record cost).etx.toNat =
        8 * (rest.sum + cost.toNat) / 16 := by
    rw [(hIntact.record cost).toNat_etx,
      hIntact.toNat_costs_record, hCosts, List.tail_cons,
      List.sum_append, List.sum_singleton]
  refine ⟨oldest, by simp [hCosts], ?_⟩
  rw [hNew, hOld]
  exact natAbs_half_sub_le rest.sum oldest cost.toNat

/- What is expected is half of the sum of the window. -/
theorem toNat_etx_after
    (changes : List Change) :
    (after changes).etx.toNat =
      8 *
        ((List.replicate 16 4 ++
          costsSinceReset changes).rtake 16).sum / 16 := by
  rw [(intact_after changes).toNat_etx, toNat_costs_after]

/- Sixteen packets of one cost fill the window. -/
theorem etx_of_equal_costs
    (changes : List Change)
    {packets : List Change}
    {cost : Nat}
    (hLength : packets.length = 16)
    (hCosts : ∀ p ∈ packets, p.cost? = some cost) :
    (after (changes ++ packets)).etx.toNat = 8 * cost := by
  have hWindow :
      (List.replicate 16 4 ++
          costsSinceReset (changes ++ packets)).rtake 16 =
        List.replicate 16 cost := by
    have hAll :=
      rtake_append_of_length
        (List.replicate 16 4 ++ costsSinceReset changes)
        (List.replicate 16 cost)
    rw [List.length_replicate] at hAll
    rw [costsSinceReset_append_of_costs changes hCosts,
      hLength, ← List.append_assoc]
    exact hAll
  rw [toNat_etx_after, hWindow, List.sum_replicate_nat]
  omega

/- Nothing is cheaper after a dearer packet. -/
theorem etx_le_of_dearer
    (earlier : List Change)
    {less more : Change}
    {lower higher : Nat}
    (hLess : less.cost? = some lower)
    (hMore : more.cost? = some higher)
    (hLe : lower ≤ higher)
    (later : List Change) :
    (after (earlier ++ less :: later)).etx.toNat ≤
      (after (earlier ++ more :: later)).etx.toNat := by
  have hCosts :
      List.Forall₂ (· ≤ ·)
        (List.replicate 16 4 ++
          costsSinceReset (earlier ++ less :: later))
        (List.replicate 16 4 ++
          costsSinceReset (earlier ++ more :: later)) :=
    List.rel_append (List.forall₂_refl _)
      (forall₂_costsSinceReset earlier hLess hMore hLe
        later)
  have hSum := (forall₂_rtake hCosts 16).sum_le_sum
  rw [toNat_etx_after, toNat_etx_after]
  exact Nat.div_le_div_right (Nat.mul_le_mul_left 8 hSum)

/-
  An estimate remembers the costs of the last sixteen
  packets since it was reset, after sixteen of cost four,
  and expects half of their sum, rounded down, which is far
  from the end of the words.  So a packet moves what is
  expected by no more than half of the difference to the
  oldest cost, rounded up; sixteen packets of one cost make
  all earlier ones forgotten; and it is never cheaper after
  a dearer packet.
-/
theorem etx_follows_latest_costs
    (changes : List Change) :
    let e := after changes
    let costs := e.costs.map UInt8.toNat
    costs =
        (List.replicate 16 4 ++
          costsSinceReset changes).rtake 16 ∧
      e.etx.toNat = 8 * costs.sum / 16 ∧
      Metric.unit * e.totalCost / window ≤ 2040 ∧
      e.etx.toNat ≤ 2040 ∧
      (∀ (packet : Change) (cost : Nat),
        packet.cost? = some cost →
          ∃ oldest ∈ costs.head?,
            (((e.change packet).etx.toNat : Int) -
                e.etx.toNat).natAbs ≤
              (((cost : Int) - oldest).natAbs + 1) / 2) ∧
      (∀ (packets : List Change) (cost : Nat),
        packets.length = 16 →
          (∀ packet ∈ packets, packet.cost? = some cost) →
            (after (changes ++ packets)).etx.toNat =
              8 * cost) ∧
      ∀ (less more : Change) (lower higher : Nat)
        (later : List Change),
        less.cost? = some lower →
          more.cost? = some higher →
            lower ≤ higher →
              (after (changes ++ less :: later)).etx.toNat ≤
                (after
                  (changes ++ more :: later)).etx.toNat := by
  intro e costs
  have hIntact : e.Intact := intact_after changes
  have hTotal : e.totalCost ≤ 255 * 16 :=
    hIntact.totalCost_le
  have hBound : Metric.unit * e.totalCost / window ≤ 2040 := by
    unfold Metric.unit window
    omega
  refine
    ⟨toNat_costs_after changes, hIntact.toNat_etx, hBound,
      ?_, ?_,
      fun _ _ hLength hCosts =>
        etx_of_equal_costs changes hLength hCosts,
      fun _ _ _ _ later hLess hMore hLe =>
        etx_le_of_dearer changes hLess hMore hLe later⟩
  · rw [LinkEstimate.toNat_etx]
    omega
  · intro packet cost hCost
    rcases exists_change_eq_record hCost e with
      ⟨byte, rfl, hRecord⟩
    rw [hRecord]
    exact hIntact.natAbs_etx_record_le byte

end LinkEstimate

end CollectionTree
