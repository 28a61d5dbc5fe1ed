import CollectionTree.Proofs.Routes

/-
  Which neighbor a table chooses, in exact numbers.

  Key definitions include:
    * `Neighbor.routeCost`
    * `Neighbor.Routed`
    * `NeighborTable.bestOf`
    * `NeighborTable.Leads`

  Key theorems include:
    * `NeighborTable.bestOf_append`
    * `NeighborTable.bestOf_eq_some_iff`
    * `NeighborTable.bestOf_remove`
    * `NeighborTable.best_is_first_of_cheapest`

  The choice is the first of the cheapest routes.  It only
  compares entries, so it depends neither on those without a
  route nor on those that it did not choose.
-/

namespace CollectionTree

------------------------------------------------------------
-- Routes in Exact Numbers
------------------------------------------------------------

namespace Neighbor

/- The exact cost of reaching the sink. -/
def routeCost
    (n : Neighbor) : Nat :=
  n.metric.toNat + n.etx.toNat

/- The sink can be reached for less than it may cost. -/
def Routed
    (n : Neighbor) : Prop :=
  n.metric.toNat < 511 ∧ n.routeCost < 511

instance
    (n : Neighbor) :
    Decidable n.Routed := by
  unfold Routed
  infer_instance

theorem hasRoute_iff_routed
    (n : Neighbor) :
    n.hasRoute = true ↔ n.Routed :=
  hasRoute_iff n

/- Among routes, words compare as the numbers that they are. -/
theorem minOn_cost
    {n m : Neighbor}
    (hFirst : n.Routed)
    (hSecond : m.Routed) :
    minOn cost n m =
      if n.routeCost ≤ m.routeCost then n else m := by
  have hFirstCost :=
    toNat_cost_of_hasRoute
      ((hasRoute_iff_routed n).mpr hFirst)
  have hSecondCost :=
    toNat_cost_of_hasRoute
      ((hasRoute_iff_routed m).mpr hSecond)
  have hLe :
      n.cost ≤ m.cost ↔ n.routeCost ≤ m.routeCost := by
    rw [UInt16.le_iff_toNat_le, hFirstCost, hSecondCost]
    rfl
  unfold minOn
  by_cases hCheap : n.routeCost ≤ m.routeCost
  · rw [if_pos (hLe.mpr hCheap), if_pos hCheap]
  · rw [if_neg (fun h => hCheap (hLe.mp h)),
      if_neg hCheap]

end Neighbor

------------------------------------------------------------
-- Choosing From a List
------------------------------------------------------------

namespace NeighborTable

/- The choice among entries in the order of arrival. -/
def bestOf
    (entries : List Neighbor) : Option Neighbor :=
  (entries.filter Neighbor.hasRoute).minOn? Neighbor.cost

theorem best_eq_bestOf
    (t : NeighborTable) :
    t.best = bestOf t.entries :=
  rfl

theorem mem_of_bestOf
    {entries : List Neighbor}
    {n : Neighbor}
    (hBest : bestOf entries = some n) :
    n ∈ entries :=
  (List.mem_filter.mp (List.minOn?_mem hBest)).1

theorem routed_of_bestOf
    {entries : List Neighbor}
    {n : Neighbor}
    (hBest : bestOf entries = some n) :
    n.Routed :=
  (Neighbor.hasRoute_iff_routed n).mp
    (List.mem_filter.mp (List.minOn?_mem hBest)).2

theorem bestOf_eq_none_iff
    (entries : List Neighbor) :
    bestOf entries = none ↔
      ∀ n ∈ entries, ¬ n.Routed := by
  have hTable := best_eq_none_iff ⟨entries, 0, Duration.zero⟩
  rw [best_eq_bestOf] at hTable
  rw [hTable]
  simp only [HasNoRoute, ← Neighbor.hasRoute_iff_routed,
    Bool.not_eq_true]

/- The choice from two lists is one between two choices. -/
theorem bestOf_append
    (entries more : List Neighbor) :
    bestOf (entries ++ more) =
      Option.merge (minOn Neighbor.cost)
        (bestOf entries) (bestOf more) := by
  unfold bestOf
  rw [List.filter_append, List.minOn?_append]

theorem bestOf_singleton
    {n : Neighbor}
    (hRouted : n.Routed) :
    bestOf [n] = some n := by
  have hRoute := (Neighbor.hasRoute_iff_routed n).mpr hRouted
  unfold bestOf
  rw [List.filter_cons_of_pos hRoute, List.filter_nil,
    List.minOn?_singleton]

theorem bestOf_singleton_of_not
    {n : Neighbor}
    (hNot : ¬ n.Routed) :
    bestOf [n] = none := by
  rw [bestOf_eq_none_iff]
  intro m hMem
  exact List.mem_singleton.mp hMem ▸ hNot

/-
  A newcomer at the end is chosen only if it is cheaper than
  the choice so far.
-/
theorem bestOf_concat
    (entries : List Neighbor)
    {m : Neighbor}
    (hRouted : m.Routed) :
    bestOf (entries ++ [m]) =
      if ∀ n ∈ bestOf entries,
          m.routeCost < n.routeCost then
        some m
      else
        bestOf entries := by
  rw [bestOf_append, bestOf_singleton hRouted]
  cases hBest : bestOf entries with
  | none => simp
  | some n =>
      rw [Option.merge_some_some,
        Neighbor.minOn_cost (routed_of_bestOf hBest) hRouted]
      by_cases hLe : n.routeCost ≤ m.routeCost
      · have hNot : ¬ m.routeCost < n.routeCost := by
          omega
        simp [hLe, hNot]
      · have hLess : m.routeCost < n.routeCost := by
          omega
        simp [hLe, hLess]

/- The same newcomer at the front is chosen also if equal. -/
theorem bestOf_cons
    {n : Neighbor}
    (hRouted : n.Routed)
    (entries : List Neighbor) :
    bestOf (n :: entries) =
      if ∀ m ∈ bestOf entries,
          n.routeCost ≤ m.routeCost then
        some n
      else
        bestOf entries := by
  rw [← List.singleton_append, bestOf_append,
    bestOf_singleton hRouted]
  cases hBest : bestOf entries with
  | none => simp
  | some m =>
      rw [Option.merge_some_some,
        Neighbor.minOn_cost hRouted (routed_of_bestOf hBest)]
      by_cases hLe : n.routeCost ≤ m.routeCost
      · simp [hLe]
      · simp [hLe]

theorem bestOf_cons_of_not
    {n : Neighbor}
    (hNot : ¬ n.Routed)
    (entries : List Neighbor) :
    bestOf (n :: entries) = bestOf entries := by
  rw [← List.singleton_append, bestOf_append,
    bestOf_singleton_of_not hNot, Option.merge_none_left]

/- No route costs less than the choice. -/
theorem routeCost_bestOf_le
    {entries : List Neighbor}
    {n m : Neighbor}
    (hBest : bestOf entries = some n)
    (hMem : m ∈ entries)
    (hRouted : m.Routed) :
    n.routeCost ≤ m.routeCost := by
  have hRoute := (Neighbor.hasRoute_iff_routed m).mpr hRouted
  have hBestRoute :=
    (Neighbor.hasRoute_iff_routed n).mpr
      (routed_of_bestOf hBest)
  have hLe :=
    toNat_cost_best_le
      (t := ⟨entries, 0, Duration.zero⟩) hBest hMem hRoute
  rw [Neighbor.toNat_cost_of_hasRoute hRoute,
    Neighbor.toNat_cost_of_hasRoute hBestRoute] at hLe
  exact hLe

------------------------------------------------------------
-- The First of the Cheapest
------------------------------------------------------------

/-
  An entry with a route that is cheaper than all routes
  before it, and no dearer than those after it.
-/
def Leads
    (before : List Neighbor)
    (n : Neighbor)
    (after : List Neighbor) : Prop :=
  n.Routed ∧
    (∀ m ∈ before, m.Routed → n.routeCost < m.routeCost) ∧
    ∀ m ∈ after, m.Routed → n.routeCost ≤ m.routeCost

theorem Leads.bestOf_eq
    {before after : List Neighbor}
    {n : Neighbor}
    (hLeads : Leads before n after) :
    bestOf (before ++ n :: after) = some n := by
  rcases hLeads with ⟨hRouted, hBefore, hAfter⟩
  have hRest : bestOf (n :: after) = some n := by
    rw [bestOf_cons hRouted]
    apply if_pos
    intro m hBest
    exact hAfter m (mem_of_bestOf hBest)
      (routed_of_bestOf hBest)
  rw [bestOf_append, hRest]
  cases hBest : bestOf before with
  | none => rw [Option.merge_none_left]
  | some m =>
      have hMore :=
        hBefore m (mem_of_bestOf hBest)
          (routed_of_bestOf hBest)
      rw [Option.merge_some_some,
        Neighbor.minOn_cost (routed_of_bestOf hBest) hRouted,
        if_neg (Nat.not_le_of_lt hMore)]

/- Whatever is chosen leads the entries. -/
theorem exists_leads_of_bestOf
    {entries : List Neighbor}
    {n : Neighbor}
    (hBest : bestOf entries = some n) :
    ∃ before after,
      entries = before ++ n :: after ∧
        Leads before n after := by
  induction entries with
  | nil => contradiction
  | cons first rest ih =>
      by_cases hRouted : first.Routed
      · rw [bestOf_cons hRouted] at hBest
        split at hBest
        next hLeast =>
          rw [← Option.some.inj hBest]
          refine
            ⟨[], rest, rfl, hRouted, by simp, ?_⟩
          intro m hMem hRoute
          cases hRest : bestOf rest with
          | none =>
              exact absurd hRoute
                ((bestOf_eq_none_iff rest).mp hRest m hMem)
          | some k =>
              exact Nat.le_trans (hLeast k hRest)
                (routeCost_bestOf_le hRest hMem hRoute)
        next hDearer =>
          rcases ih hBest with
            ⟨before, after, rfl, hLead, hBefore, hAfter⟩
          refine
            ⟨first :: before, after, rfl, hLead, ?_, hAfter⟩
          intro m hMem hRoute
          rcases List.mem_cons.mp hMem with rfl | hOld
          · apply Nat.lt_of_not_le
            intro hLe
            apply hDearer
            intro k hChosen
            rw [hBest] at hChosen
            rw [← Option.some.inj hChosen]
            exact hLe
          · exact hBefore m hOld hRoute
      · rw [bestOf_cons_of_not hRouted] at hBest
        rcases ih hBest with
          ⟨before, after, rfl, hLead, hBefore, hAfter⟩
        refine
          ⟨first :: before, after, rfl, hLead, ?_, hAfter⟩
        intro m hMem hRoute
        rcases List.mem_cons.mp hMem with rfl | hOld
        · exact absurd hRoute hRouted
        · exact hBefore m hOld hRoute

/- What was not chosen may go without a difference. -/
theorem bestOf_remove
    {before after : List Neighbor}
    {m : Neighbor}
    (hOther : bestOf (before ++ m :: after) ≠ some m) :
    bestOf (before ++ after) =
      bestOf (before ++ m :: after) := by
  by_cases hRouted : m.Routed
  · rw [bestOf_append, bestOf_append, bestOf_cons hRouted]
    rw [bestOf_append, bestOf_cons hRouted] at hOther
    split
    next hLeast =>
      -- The choice is before the entry and no dearer.
      rw [if_pos hLeast] at hOther
      cases hBefore : bestOf before with
      | none =>
          rw [hBefore, Option.merge_none_left] at hOther
          contradiction
      | some b =>
          have hChosen := routed_of_bestOf hBefore
          rw [hBefore, Option.merge_some_some,
            Neighbor.minOn_cost hChosen hRouted] at hOther
          have hLe : b.routeCost ≤ m.routeCost := by
            apply Decidable.byContradiction
            intro hDearer
            rw [if_neg hDearer] at hOther
            contradiction
          rw [Option.merge_some_some,
            Neighbor.minOn_cost hChosen hRouted, if_pos hLe]
          cases hAfter : bestOf after with
          | none => rfl
          | some a =>
              have hMore :=
                Nat.le_trans hLe (hLeast a hAfter)
              rw [Option.merge_some_some,
                Neighbor.minOn_cost hChosen
                  (routed_of_bestOf hAfter),
                if_pos hMore]
    next => rfl
  · rw [bestOf_append, bestOf_append,
      bestOf_cons_of_not hRouted]

/- Dropping the entry of another address changes nothing. -/
theorem best_remove
    {t : NeighborTable}
    {a : Address}
    (hOther : ∀ n ∈ t.best, n.address ≠ a) :
    (t.remove a).2.best = t.best := by
  rw [best_eq_bestOf, best_eq_bestOf]
  change
    bestOf (t.entries.eraseP (fun n => n.address == a)) = _
  rcases List.exists_or_eq_self_of_eraseP
      (fun n : Neighbor => n.address == a) t.entries with
    hSame | ⟨m, before, after, -, hAddress, hEntries, hErased⟩
  · rw [hSame]
  · rw [hErased, hEntries]
    apply bestOf_remove
    intro hBest
    have hMem : m ∈ t.best := by
      rw [best_eq_bestOf, hEntries]
      exact hBest
    exact hOther m hMem (by simpa using hAddress)

/-
  A table chooses the first of its cheapest routes, in exact
  numbers, and nothing if it has no route.  A newcomer with
  a route is chosen just if nothing was chosen so far or it
  is cheaper than that, and an entry that is not chosen may
  go without a difference.
-/
theorem best_is_first_of_cheapest
    (t : NeighborTable) :
    (t.best = none ↔
        ∀ n ∈ t.entries,
          ¬ (n.metric.toNat < 511 ∧
            n.metric.toNat + n.etx.toNat < 511)) ∧
      (∀ n : Neighbor,
        t.best = some n ↔
          ∃ before after,
            t.entries = before ++ n :: after ∧ n.Routed ∧
              (∀ m ∈ t.entries,
                m.Routed → n.routeCost ≤ m.routeCost) ∧
              ∀ m ∈ before,
                m.Routed → n.routeCost < m.routeCost) ∧
      (∀ (u : NeighborTable) (m : Neighbor),
        m.Routed →
          u.entries = t.entries ++ [m] →
            u.best =
              if ∀ n ∈ t.best,
                  m.routeCost < n.routeCost then
                some m
              else
                t.best) ∧
      (∀ (u : NeighborTable) (m : Neighbor)
        (before after : List Neighbor),
        t.entries = before ++ m :: after →
          u.entries = before ++ after →
            t.best ≠ some m → u.best = t.best) ∧
      ∀ a : Address,
        (∀ n ∈ t.best, n.address ≠ a) →
          (t.remove a).2.best = t.best := by
  refine
    ⟨bestOf_eq_none_iff t.entries, ?_, ?_, ?_,
      fun a hOther => best_remove hOther⟩
  · intro n
    constructor
    · intro hBest
      rcases exists_leads_of_bestOf hBest with
        ⟨before, after, hEntries, hRouted, hBefore, -⟩
      exact ⟨before, after, hEntries, hRouted,
        fun m hMem hRoute =>
          routeCost_bestOf_le hBest hMem hRoute, hBefore⟩
    · rintro
        ⟨before, after, hEntries, hRouted, hAll, hBefore⟩
      have hAfter :
          ∀ m ∈ after,
            m.Routed → n.routeCost ≤ m.routeCost := by
        intro m hMem
        apply hAll
        rw [hEntries]
        exact List.mem_append_right _
          (List.mem_cons_of_mem n hMem)
      have hLeads : Leads before n after :=
        ⟨hRouted, hBefore, hAfter⟩
      rw [best_eq_bestOf, hEntries]
      exact hLeads.bestOf_eq
  · intro u m hRouted hEntries
    rw [best_eq_bestOf, hEntries]
    exact bestOf_concat t.entries hRouted
  · intro u m before after hEntries hRest hOther
    rw [best_eq_bestOf, hEntries] at hOther
    rw [best_eq_bestOf, best_eq_bestOf, hEntries, hRest]
    exact bestOf_remove hOther

end NeighborTable

end CollectionTree
