import CollectionTree.NeighborTable

/-
  The costs of routes, in exact numbers.

  Key definitions include:
    * `LinkEstimate.Positive`
    * `NeighborTable.routeCosts`

  Key theorems include:
    * `LinkEstimate.Positive.le_etx`
    * `Neighbor.hasRoute_iff`
    * `NeighborTable.toNat_cost_best_le`
    * `NeighborTable.min?_routeCosts`

  Words never overflow below `Metric.unreachable`, so the
  cost of a neighbor with a route is the sum that it stands
  for.  A link costs at least one transmission, which is
  `Metric.unit`, because no packet is sent for nothing.
-/

namespace CollectionTree

------------------------------------------------------------
-- Metrics
------------------------------------------------------------

namespace Metric

@[simp] theorem toNat_unreachable :
    unreachable.toNat = 511 :=
  rfl

@[simp] theorem toNat_sink :
    sink.toNat = 0 :=
  rfl

/- Addition is exact up to the greatest word. -/
theorem toNat_plus
    (a b : Metric) :
    (plus a b).toNat = min (a.toNat + b.toNat) 65535 := by
  have hWord : min (a.toNat + b.toNat) 65535 < 65536 := by
    omega
  unfold plus
  simp [hWord]

theorem lt_unreachable_iff
    (m : Metric) :
    m < unreachable ↔ m.toNat < 511 := by
  rw [UInt16.lt_iff_toNat_lt, toNat_unreachable]

theorem eq_unreachable_iff
    (m : Metric) :
    m = unreachable ↔ m.toNat = 511 := by
  rw [← UInt16.toNat_inj, toNat_unreachable]

end Metric

------------------------------------------------------------
-- Links
------------------------------------------------------------

namespace LinkEstimate

/- No remembered packet was free. -/
structure Positive
    (e : LinkEstimate) : Prop where
  full : e.history.slots.length = window
  positive : ∀ cost ∈ e.history.slots, 0 < cost.toNat

theorem fresh_positive :
    fresh.Positive := by
  constructor
  · rfl
  · intro cost hMem
    rw [List.eq_of_mem_replicate hMem]
    decide

theorem Positive.record
    {e : LinkEstimate}
    (hPositive : e.Positive)
    {cost : UInt8}
    (hCost : 0 < cost.toNat) :
    (e.record cost).Positive := by
  constructor
  · simpa [LinkEstimate.record, RingBuffer.push] using
      hPositive.full
  · intro old hOld
    rcases List.mem_or_eq_of_mem_set hOld with hKept | hNew
    · exact hPositive.positive old hKept
    · exact hNew ▸ hCost

theorem toNat_failureCost
    (transmissions : UInt8) :
    (failureCost transmissions).toNat =
      min (2 * transmissions.toNat) 255 := by
  have hByte : min (2 * transmissions.toNat) 255 < 256 := by
    omega
  unfold failureCost
  simp [Nat.mod_eq_of_lt hByte]

theorem toNat_failureCost_pos
    {transmissions : UInt8}
    (hSent : 0 < transmissions.toNat) :
    0 < (failureCost transmissions).toNat := by
  rw [toNat_failureCost]
  omega

/- Terms of at least one add up to at least their number. -/
theorem length_le_foldl
    (slots : List UInt8)
    (total : Nat)
    (hPositive : ∀ cost ∈ slots, 0 < cost.toNat) :
    total + slots.length ≤
      slots.foldl
        (fun total cost => total + cost.toNat) total := by
  induction slots generalizing total with
  | nil => simp
  | cons cost slots ih =>
      have hHead := hPositive cost List.mem_cons_self
      have hTail :=
        ih (total + cost.toNat) (fun c hMem =>
          hPositive c (List.mem_cons_of_mem cost hMem))
      simp only [List.length_cons, List.foldl_cons]
      omega

/- The expected cost of a packet is a word that fits. -/
theorem toNat_etx
    (e : LinkEstimate) :
    e.etx.toNat = min (8 * e.totalCost / 16) 65535 := by
  have hWord :
      min (8 * e.totalCost / 16) 65535 < 65536 := by
    omega
  unfold etx
  simp [Metric.unit, window, hWord]

/- A link costs at least one transmission. -/
theorem Positive.le_etx
    {e : LinkEstimate}
    (hPositive : e.Positive) :
    8 ≤ e.etx.toNat := by
  have hTotal :
      16 ≤ e.totalCost := by
    have hSum :=
      length_le_foldl e.history.slots 0 hPositive.positive
    rw [hPositive.full] at hSum
    simpa [totalCost, window] using hSum
  rw [toNat_etx]
  omega

/- A link that has not been used costs four transmissions. -/
@[simp] theorem etx_fresh :
    fresh.etx = 32 := by
  decide

end LinkEstimate

------------------------------------------------------------
-- Neighbors
------------------------------------------------------------

namespace Neighbor

/- A route exists when the exact cost stays in bounds. -/
theorem hasRoute_iff
    (n : Neighbor) :
    n.hasRoute = true ↔
      n.metric.toNat < 511 ∧
        n.metric.toNat + n.etx.toNat < 511 := by
  unfold hasRoute cost
  rw [Bool.and_eq_true, decide_eq_true_eq,
    decide_eq_true_eq, Metric.lt_unreachable_iff,
    Metric.lt_unreachable_iff, Metric.toNat_plus]
  omega

/- The cost of a route is a sum that does not overflow. -/
theorem toNat_cost_of_hasRoute
    {n : Neighbor}
    (hRoute : n.hasRoute = true) :
    n.cost.toNat = n.metric.toNat + n.etx.toNat := by
  have hBound := ((hasRoute_iff n).mp hRoute).2
  unfold cost
  rw [Metric.toNat_plus]
  omega

theorem toNat_cost_lt_of_hasRoute
    {n : Neighbor}
    (hRoute : n.hasRoute = true) :
    n.cost.toNat < 511 := by
  rw [toNat_cost_of_hasRoute hRoute]
  exact ((hasRoute_iff n).mp hRoute).2

end Neighbor

------------------------------------------------------------
-- The Best Neighbor
------------------------------------------------------------

namespace NeighborTable

/- No entry leads to the sink. -/
def HasNoRoute
    (t : NeighborTable) : Prop :=
  ∀ n ∈ t.entries, n.hasRoute = false

instance
    (t : NeighborTable) :
    Decidable t.HasNoRoute := by
  unfold HasNoRoute
  infer_instance

/- The exact costs of the routes, in the order of entries. -/
def routeCosts
    (t : NeighborTable) : List Nat :=
  (t.entries.filter (fun n =>
    n.metric.toNat < 511 ∧
      n.metric.toNat + n.etx.toNat < 511)).map (fun n =>
    n.metric.toNat + n.etx.toNat)

theorem mem_and_hasRoute_of_best
    {t : NeighborTable}
    {n : Neighbor}
    (hBest : t.best = some n) :
    n ∈ t.entries ∧ n.hasRoute = true := by
  unfold best at hBest
  exact List.mem_filter.mp (List.minOn?_mem hBest)

theorem best_eq_none_iff
    (t : NeighborTable) :
    t.best = none ↔ t.HasNoRoute := by
  unfold best
  rw [← Option.not_isSome_iff_eq_none,
    List.isSome_minOn?_iff, Decidable.not_not,
    List.filter_eq_nil_iff]
  simp only [HasNoRoute, Bool.not_eq_true]

/- No route costs less than that of the best neighbor. -/
theorem toNat_cost_best_le
    {t : NeighborTable}
    {n m : Neighbor}
    (hBest : t.best = some n)
    (hMem : m ∈ t.entries)
    (hRoute : m.hasRoute = true) :
    n.cost.toNat ≤ m.cost.toNat := by
  have hFilter : m ∈ t.entries.filter Neighbor.hasRoute :=
    List.mem_filter.mpr ⟨hMem, hRoute⟩
  have hLe :=
    List.apply_get_minOn?_le_of_mem
      (f := Neighbor.cost) hFilter
  unfold best at hBest
  simpa only [hBest, Option.get_some,
    UInt16.le_iff_toNat_le] using hLe

theorem mem_routeCosts_iff
    (t : NeighborTable)
    (cost : Nat) :
    cost ∈ t.routeCosts ↔
      ∃ n ∈ t.entries,
        n.hasRoute = true ∧ n.cost.toNat = cost := by
  unfold routeCosts
  rw [List.mem_map]
  constructor
  · rintro ⟨n, hFilter, rfl⟩
    rcases List.mem_filter.mp hFilter with ⟨hMem, hBounds⟩
    have hRoute :=
      (Neighbor.hasRoute_iff n).mpr (by simpa using hBounds)
    exact ⟨n, hMem, hRoute,
      Neighbor.toNat_cost_of_hasRoute hRoute⟩
  · rintro ⟨n, hMem, hRoute, rfl⟩
    have hBounds := (Neighbor.hasRoute_iff n).mp hRoute
    refine ⟨n, List.mem_filter.mpr ⟨hMem, ?_⟩, ?_⟩
    · simpa using hBounds
    · exact (Neighbor.toNat_cost_of_hasRoute hRoute).symm

/- The best neighbor's cost is the least of all routes'. -/
theorem min?_routeCosts
    (t : NeighborTable) :
    t.routeCosts.min? =
      t.best.map (fun n => n.cost.toNat) := by
  cases hBest : t.best with
  | none =>
      have hNone := (best_eq_none_iff t).mp hBest
      rw [Option.map_none, List.min?_eq_none_iff,
        List.eq_nil_iff_forall_not_mem]
      intro cost hMem
      rcases (mem_routeCosts_iff t cost).mp hMem with
        ⟨n, hEntry, hRoute, -⟩
      rw [hNone n hEntry] at hRoute
      contradiction
  | some n =>
      rcases mem_and_hasRoute_of_best hBest with
        ⟨hEntry, hRoute⟩
      rw [Option.map_some, List.min?_eq_some_iff]
      constructor
      · exact (mem_routeCosts_iff t _).mpr
          ⟨n, hEntry, hRoute, rfl⟩
      · intro cost hMem
        rcases (mem_routeCosts_iff t cost).mp hMem with
          ⟨m, hOther, hOtherRoute, rfl⟩
        exact toNat_cost_best_le hBest hOther hOtherRoute

end NeighborTable

end CollectionTree
