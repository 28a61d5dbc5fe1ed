import CollectionTree.Proofs.Connection.Coherence
import Mathlib.Order.Fin.Basic
import Mathlib.Order.MinMax

/-
  Metrics by level, where one level is one transmission.

  Key definitions include:
    * `Metric.level`
    * `NeighborTable.known`

  Key theorems include:
    * `NeighborTable.noteAnnounced_cases`
    * `Connection.routeMetric_of_replaced`
    * `Connection.exists_low_level`

  A link costs at least one transmission.  So a route that
  changes because of what a neighbor announces is on a
  higher level than what the neighbor announces now, or than
  what it announced before.
-/

namespace CollectionTree

------------------------------------------------------------
-- Levels
------------------------------------------------------------

namespace Metric

/- How many whole transmissions a metric stands for. -/
def level
    (m : Metric) : Fin 8192 :=
  ⟨m.toNat / 8, by
    have hWord := m.toNat_lt
    omega⟩

theorem level_lt_level
    {a b : Metric}
    (hMore : a.toNat + 8 ≤ b.toNat) :
    a.level < b.level := by
  change a.toNat / 8 < b.toNat / 8
  omega

end Metric

namespace NeighborTable

/- How many entries of a table are on a level. -/
def known
    (t : NeighborTable)
    (level : Fin 8192) : Nat :=
  t.entries.countP (fun n => n.metric.level = level)

------------------------------------------------------------
-- What an Announcement Replaces
------------------------------------------------------------

theorem modifyEntry_of_mem
    {a : Address}
    {entries : List Neighbor}
    (hMem : a ∈ entries.map Neighbor.address)
    (change : Neighbor → Neighbor) :
    ∃ before n after, entries = before ++ n :: after ∧
      modifyEntry a change entries =
        before ++ change n :: after := by
  induction entries with
  | nil => contradiction
  | cons m rest ih =>
      unfold modifyEntry
      by_cases hSame : m.address = a
      · rw [if_pos hSame]
        exact ⟨[], m, rest, rfl, rfl⟩
      · rw [if_neg hSame]
        rw [List.map_cons, List.mem_cons] at hMem
        rcases hMem with hFirst | hRest
        · exact absurd hFirst.symm hSame
        · rcases ih hRest with
            ⟨before, n, after, hOld, hNew⟩
          refine ⟨m :: before, n, after, ?_, ?_⟩
          · rw [hOld]
            rfl
          · rw [hNew]
            rfl

/-
  An announcement leaves the table as it is, or it puts an
  entry with the new metric in place of at most one other.
-/
theorem noteAnnounced_cases
    (t : NeighborTable)
    (sender : Address)
    (metric : Metric) :
    Connection.noteAnnounced t sender metric = t ∨
      ∃ before old after n,
        old.length ≤ 1 ∧
          t.entries = before ++ old ++ after ∧
          (Connection.noteAnnounced t sender
            metric).entries = before ++ n :: after ∧
          n.metric = metric := by
  rw [Connection.noteAnnounced_eq_upsert]
  rcases upsert_cases t (Neighbor.new sender metric)
    (fun n => n.announcing metric) with
    ⟨hKnown, hEq⟩ | ⟨-, -, hEq⟩ | ⟨-, -, hEq⟩
  · rcases modifyEntry_of_mem hKnown
      (fun n => n.announcing metric) with
      ⟨before, n, after, hOld, hNew⟩
    apply Or.inr
    refine
      ⟨before, [n], after, n.announcing metric,
        Nat.le_refl 1, ?_, ?_, rfl⟩
    · rw [hOld, List.append_assoc]
      rfl
    · rw [hEq]
      exact hNew
  · exact Or.inl hEq
  · apply Or.inr
    refine
      ⟨t.entries, [], [], Neighbor.new sender metric,
        Nat.zero_le 1, ?_, ?_, rfl⟩
    · rw [List.append_nil, List.append_nil]
    · rw [hEq]

/- What is replaced is counted no more, and the new entry is. -/
theorem known_of_replaced
    {t u : NeighborTable}
    {before old after : List Neighbor}
    {n : Neighbor}
    (hOld : t.entries = before ++ old ++ after)
    (hNew : u.entries = before ++ n :: after)
    (level : Fin 8192) :
    u.known level +
        old.countP (fun m => m.metric.level = level) =
      t.known level +
        if n.metric.level = level then 1 else 0 := by
  unfold known
  rw [hOld, hNew, List.countP_append, List.countP_append,
    List.countP_append, List.countP_cons]
  by_cases hLevel : n.metric.level = level
  · simp only [hLevel, decide_true, if_true]
    omega
  · simp only [hLevel, decide_false, if_false,
      Bool.false_eq_true]
    omega

end NeighborTable

------------------------------------------------------------
-- Routes
------------------------------------------------------------

namespace Connection

/- A route costs no more than what any neighbor gives. -/
theorem toNat_routeMetric_le
    {c : Connection}
    {n : Neighbor}
    (hMem : n ∈ c.neighbors.entries)
    (hRoute : n.hasRoute = true) :
    c.routeMetric.toNat ≤ n.cost.toNat := by
  cases hBest : c.neighbors.best with
  | none =>
      have hNone :=
        (NeighborTable.best_eq_none_iff _).mp hBest n hMem
      rw [hRoute] at hNone
      contradiction
  | some best =>
      rw [routeMetric_of_best hBest]
      exact
        NeighborTable.toNat_cost_best_le hBest hMem hRoute

/- A route costs what some neighbor gives. -/
theorem routeMetric_cases
    (c : Connection) :
    c.routeMetric = Metric.unreachable ∨
      ∃ n ∈ c.neighbors.entries,
        n.hasRoute = true ∧ c.routeMetric = n.cost := by
  cases hBest : c.neighbors.best with
  | none =>
      apply Or.inl
      unfold routeMetric
      rw [hBest]
  | some best =>
      obtain ⟨hMem, hRoute⟩ :=
        NeighborTable.mem_and_hasRoute_of_best hBest
      exact Or.inr
        ⟨best, hMem, hRoute, routeMetric_of_best hBest⟩

theorem toNat_routeMetric_le_unreachable
    (c : Connection) :
    c.routeMetric.toNat ≤ 511 := by
  rcases routeMetric_cases c with
    hNone | ⟨n, -, hRoute, hEq⟩
  · rw [hNone]
    exact Nat.le_refl 511
  · rw [hEq]
    exact
      Nat.le_of_lt (Neighbor.toNat_cost_lt_of_hasRoute hRoute)

/- A neighbor with a route costs at least one transmission. -/
theorem le_toNat_cost
    {t : NeighborTable}
    (hLinks : t.Positive)
    {n : Neighbor}
    (hMem : n ∈ t.entries)
    (hRoute : n.hasRoute = true) :
    n.metric.toNat + 8 ≤ n.cost.toNat := by
  rw [Neighbor.toNat_cost_of_hasRoute hRoute]
  exact Nat.add_le_add_left (hLinks n hMem).le_etx _

/-
  All entries of one table with a route below some bound are
  in the other one, so its route is no worse below the bound.
-/
theorem routeMetric_le_of_shared
    {c d : Connection}
    {bound : Nat}
    (hBelow : d.routeMetric.toNat < bound)
    (hShared :
      ∀ n ∈ d.neighbors.entries, n.hasRoute = true →
        n.cost.toNat < bound → n ∈ c.neighbors.entries) :
    c.routeMetric.toNat ≤ d.routeMetric.toNat := by
  rcases routeMetric_cases d with
    hNone | ⟨n, hMem, hRoute, hEq⟩
  · rw [hNone, Metric.toNat_unreachable]
    exact toNat_routeMetric_le_unreachable c
  · rw [hEq] at hBelow ⊢
    exact
      toNat_routeMetric_le (hShared n hMem hRoute hBelow)
        hRoute

/-
  A route that changes with one entry costs at least one
  transmission more than what the neighbor announces now, or
  than what it announced before.
-/
theorem routeMetric_of_replaced
    {c d : Connection}
    (hLinks : c.neighbors.Positive)
    (hNewLinks : d.neighbors.Positive)
    {before old after : List Neighbor}
    {n : Neighbor}
    (hOld : c.neighbors.entries = before ++ old ++ after)
    (hNew : d.neighbors.entries = before ++ n :: after)
    (hChanged : d.routeMetric ≠ c.routeMetric) :
    ∃ m, (m = n ∨ m ∈ old) ∧
      m.metric.toNat + 8 ≤ d.routeMetric.toNat := by
  apply Classical.byContradiction
  intro hNone
  have hLow :
      ∀ m, m = n ∨ m ∈ old →
        d.routeMetric.toNat < m.metric.toNat + 8 := by
    intro m hMem
    apply Nat.lt_of_not_le
    intro hMore
    exact hNone ⟨m, hMem, hMore⟩
  -- Neither the new entry nor the old one gives the route.
  have hForth :
      c.routeMetric.toNat ≤ d.routeMetric.toNat := by
    apply routeMetric_le_of_shared
      (Nat.lt_succ_self d.routeMetric.toNat)
    intro m hMem hRoute hCost
    have hAll := le_toNat_cost hNewLinks hMem hRoute
    rw [hNew, List.mem_append, List.mem_cons] at hMem
    rw [hOld, List.mem_append, List.mem_append]
    rcases hMem with hBefore | rfl | hAfter
    · exact Or.inl (Or.inl hBefore)
    · have hBound := hLow m (Or.inl rfl)
      omega
    · exact Or.inr hAfter
  have hBack :
      d.routeMetric.toNat ≤ c.routeMetric.toNat := by
    apply routeMetric_le_of_shared
      (Nat.lt_succ_self c.routeMetric.toNat)
    intro m hMem hRoute hCost
    have hAll := le_toNat_cost hLinks hMem hRoute
    rw [hOld, List.mem_append, List.mem_append] at hMem
    rw [hNew, List.mem_append, List.mem_cons]
    rcases hMem with (hBefore | hIn) | hAfter
    · exact Or.inl hBefore
    · have hBound := hLow m (Or.inr hIn)
      omega
    · exact Or.inr (Or.inr hAfter)
  exact hChanged
    (UInt16.toNat_inj.mp (Nat.le_antisymm hBack hForth))

/-
  An announcement leaves the table as it was below some
  level, and on that level it adds one entry at most if it
  is on the level itself, and else takes one away.  A route
  that changes is above that level.
-/
theorem exists_low_level
    {c d : Connection}
    {sender : Address}
    {metric : Metric}
    (hLinks : c.neighbors.Positive)
    (hTable :
      d.neighbors =
        noteAnnounced c.neighbors sender metric) :
    ∃ low, low ≤ metric.level ∧
      (∀ level, level < low →
        d.neighbors.known level = c.neighbors.known level) ∧
      d.neighbors.known low <
        c.neighbors.known low +
          (if metric.level = low then 2 else 0) ∧
      (d.routeMetric ≠ c.routeMetric →
        low < d.routeMetric.level) := by
  rcases NeighborTable.noteAnnounced_cases c.neighbors
    sender metric with
    hSame | ⟨before, old, after, n, hFew, hOld, hNew, rfl⟩
  · rw [hSame] at hTable
    refine ⟨metric.level, le_refl _, ?_, ?_, ?_⟩
    · intro level _
      rw [hTable]
    · rw [hTable, if_pos rfl]
      omega
    · intro hChanged
      have hRoute : d.routeMetric = c.routeMetric := by
        unfold routeMetric
        rw [hTable]
      exact absurd hRoute hChanged
  · have hNewLinks : d.neighbors.Positive := by
      rw [hTable]
      exact positive_noteAnnounced hLinks sender _
    rw [← hTable] at hNew
    have hCount :=
      NeighborTable.known_of_replaced hOld hNew
    have hRoute :
        d.routeMetric ≠ c.routeMetric →
          ∃ m, (m = n ∨ m ∈ old) ∧
            m.metric.level < d.routeMetric.level := by
      intro hChanged
      rcases routeMetric_of_replaced hLinks hNewLinks hOld
        hNew hChanged with ⟨m, hMem, hMore⟩
      exact ⟨m, hMem, Metric.level_lt_level hMore⟩
    rcases old with - | ⟨o, rest⟩
    · -- The neighbor was not in the table.
      refine ⟨n.metric.level, le_refl _, ?_, ?_, ?_⟩
      · intro level hLess
        have hLevel := hCount level
        rw [if_neg (ne_of_gt hLess)] at hLevel
        exact hLevel
      · have hLevel := hCount n.metric.level
        rw [if_pos rfl] at hLevel ⊢
        exact Nat.lt_of_le_of_lt (Nat.le_of_eq hLevel)
          (Nat.lt_succ_self _)
      · intro hChanged
        rcases hRoute hChanged with ⟨m, hMem, hLess⟩
        rcases hMem with rfl | hIn
        · exact hLess
        · contradiction
    · -- The lower of what it announced and announces now.
      have hRest : rest = [] := by
        rw [List.length_cons] at hFew
        exact List.eq_nil_of_length_eq_zero (by omega)
      subst hRest
      refine
        ⟨min n.metric.level o.metric.level, min_le_left _ _,
          ?_, ?_, ?_⟩
      · intro level hLess
        rw [lt_min_iff] at hLess
        have hLevel := hCount level
        rw [if_neg (ne_of_gt hLess.1),
          List.countP_singleton,
          if_neg (by simpa using ne_of_gt hLess.2)] at hLevel
        exact hLevel
      · have hLevel :=
          hCount (min n.metric.level o.metric.level)
        rw [List.countP_singleton] at hLevel
        rcases le_or_gt n.metric.level o.metric.level with
          hLe | hGt
        · rw [min_eq_left hLe, if_pos rfl] at hLevel
          rw [min_eq_left hLe, if_pos rfl]
          omega
        · rw [min_eq_right (le_of_lt hGt),
            if_neg (ne_of_gt hGt),
            if_pos (by simp)] at hLevel
          rw [min_eq_right (le_of_lt hGt),
            if_neg (ne_of_gt hGt)]
          omega
      · intro hChanged
        rcases hRoute hChanged with ⟨m, hMem, hLess⟩
        apply lt_of_le_of_lt ?_ hLess
        rcases hMem with rfl | hIn
        · exact min_le_left _ _
        · rw [List.mem_singleton] at hIn
          rw [hIn]
          exact min_le_right _ _

end Connection

end CollectionTree
