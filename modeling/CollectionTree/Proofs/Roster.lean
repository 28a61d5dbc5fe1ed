import CollectionTree.Proofs.LinkHistory
import CollectionTree.Proofs.Tables
import Mathlib.Data.List.Nodup

/-
  A neighbor table beside a plain list of what can be seen
  of its entries.

  Key definitions include:
    * `NeighborTable.Edit`
    * `NeighborTable.edit`
    * `NeighborTable.after`
    * `Listing`
    * `Roster`
    * `Roster.edit`
    * `NeighborTable.roster`

  Key theorems include:
    * `Roster.Valid.edit`
    * `NeighborTable.roster_edit`
    * `NeighborTable.roster_after`
    * `NeighborTable.tables_are_ordered_maps`

  A roster changes all entries of an address, wherever they
  are, and keeps costs as a list.  A table stops at the first
  entry and keeps costs in a ring.  They agree as no address
  is listed twice and no ring loses its cursor.
-/

namespace CollectionTree

------------------------------------------------------------
-- Intact Tables
------------------------------------------------------------

/- All links of a table are intact. -/
def NeighborTable.Intact
    (t : NeighborTable) : Prop :=
  ∀ n ∈ t.entries, n.link.Intact

theorem NeighborTable.Intact.modify
    {t : NeighborTable}
    (hIntact : t.Intact)
    (a : Address)
    {change : Neighbor → Neighbor}
    (hChange :
      ∀ n : Neighbor, n.link.Intact →
        (change n).link.Intact) :
    (t.modify a change).2.Intact := by
  intro n hMem
  rcases mem_modifyEntry hMem with
    hOld | ⟨m, hOld, -, rfl⟩
  · exact hIntact n hOld
  · exact hChange m (hIntact m hOld)

theorem NeighborTable.Intact.upsert
    {t : NeighborTable}
    (hIntact : t.Intact)
    {newcomer : Neighbor}
    (hNewcomer : newcomer.link.Intact)
    {change : Neighbor → Neighbor}
    (hChange :
      ∀ n : Neighbor, n.link.Intact →
        (change n).link.Intact) :
    (t.upsert newcomer change).Intact := by
  intro n hMem
  rcases mem_upsert hMem with
    hOld | rfl | ⟨m, hOld, -, rfl⟩
  · exact hIntact n hOld
  · exact hNewcomer
  · exact hChange m (hIntact m hOld)

theorem NeighborTable.Intact.add
    {t : NeighborTable}
    (hIntact : t.Intact)
    (a : Address)
    (metric : Metric) :
    (t.add a metric).2.Intact := by
  unfold NeighborTable.add
  split
  · exact hIntact
  split
  · exact hIntact
  · intro n hMem
    rcases List.mem_append.mp hMem with hOld | hNew
    · exact hIntact n hOld
    · rw [List.mem_singleton.mp hNew]
      exact LinkEstimate.intact_fresh

theorem NeighborTable.Intact.tick
    {t : NeighborTable}
    (hIntact : t.Intact)
    (elapsed : Duration) :
    (t.tick elapsed).2.Intact := by
  intro n hMem
  rcases mem_tick hMem with ⟨m, hOld, rfl⟩
  exact hIntact m hOld

------------------------------------------------------------
-- Edits
------------------------------------------------------------

/- What can be seen of an entry, its costs oldest first. -/
structure Listing where
  address : Address
  metric : Metric
  costs : List Nat
  age : Duration
  deriving DecidableEq, Repr

/- What can be seen of a neighbor. -/
def Neighbor.listing
    (n : Neighbor) : Listing :=
  { address := n.address
    metric := n.metric
    costs := n.link.costs.map UInt8.toNat
    age := n.age }

/- What can be seen of an entry after some more time. -/
def Listing.aged
    (l : Listing)
    (elapsed : Duration) : Listing :=
  { l with age := l.age.plus elapsed }

/- Whether what is seen has been so for a whole lifetime. -/
def Listing.isStale
    (l : Listing)
    (lifetime : Duration) : Bool :=
  lifetime ≤ l.age

namespace NeighborTable

/-
  What may be done to a table.  Looking an entry up is no
  edit, as it gives no other table.
-/
inductive Edit
  | add (a : Address) (metric : Metric)
  | announce (a : Address) (metric : Metric)
  | succeed (a : Address) (transmissions : UInt8)
  | fail (a : Address) (transmissions : UInt8)
  | remove (a : Address)
  | tick (elapsed : Duration)
  | setLifetime (seconds : UInt64)
  | clear
  deriving DecidableEq, Repr

/- What a table answers to an edit. -/
inductive Receipt
  | adding (result : AddResult)
  | known (found : Bool)
  | removed (listing : Option Listing)
  | dropped (addresses : List Address)
  | done
  deriving DecidableEq, Repr

/- Carry out an edit. -/
def edit
    (t : NeighborTable) : Edit → Receipt × NeighborTable
  | .add a metric =>
      let (result, next) := t.add a metric
      (.adding result, next)
  | .announce a metric =>
      let (found, next) := t.updateMetric a metric
      (.known found, next)
  | .succeed a transmissions =>
      let (found, next) := t.recordSuccess a transmissions
      (.known found, next)
  | .fail a transmissions =>
      let (found, next) := t.recordFailure a transmissions
      (.known found, next)
  | .remove a =>
      let (entry, next) := t.remove a
      (.removed (entry.map Neighbor.listing), next)
  | .tick elapsed =>
      let (addresses, next) := t.tick elapsed
      (.dropped addresses, next)
  | .setLifetime seconds =>
      (.done, t.setLifetime seconds.toNat)
  | .clear => (.done, t.clear)

/- The table after some edits. -/
def after
    (t : NeighborTable)
    (edits : List Edit) : NeighborTable :=
  edits.foldl (fun t e => (t.edit e).2) t

theorem after_concat
    (t : NeighborTable)
    (edits : List Edit)
    (e : Edit) :
    t.after (edits ++ [e]) = ((t.after edits).edit e).2 :=
  List.foldl_concat ..

theorem Intact.edit
    {t : NeighborTable}
    (hIntact : t.Intact)
    (e : Edit) :
    (t.edit e).2.Intact := by
  cases e with
  | add a metric => exact hIntact.add a metric
  | announce a metric =>
      exact hIntact.modify a (fun _ hLink => hLink)
  | succeed a transmissions =>
      exact hIntact.modify a
        (fun _ hLink => hLink.record transmissions)
  | fail a transmissions =>
      exact hIntact.modify a
        (fun _ hLink => hLink.record _)
  | remove a =>
      intro n hMem
      exact hIntact n (List.mem_of_mem_eraseP hMem)
  | tick elapsed => exact hIntact.tick elapsed
  | setLifetime seconds => exact hIntact
  | clear =>
      intro n hMem
      contradiction

end NeighborTable

------------------------------------------------------------
-- Rosters
------------------------------------------------------------

/- A plain list of entries, with a bound and a lifetime. -/
structure Roster where
  listings : List Listing
  capacity : Nat
  lifetime : Duration
  deriving DecidableEq, Repr

namespace Roster

open NeighborTable (Edit Receipt)

/- A list without entries. -/
def empty
    (capacity : Nat)
    (seconds : UInt64) : Roster :=
  ⟨[], capacity, Duration.ofSeconds seconds.toNat 0⟩

def addresses
    (r : Roster) : List Address :=
  r.listings.map Listing.address

/- List a newcomer at the end, unless it is listed. -/
def add
    (r : Roster)
    (a : Address)
    (metric : Metric) : AddResult × Roster :=
  if a ∈ r.addresses then
    (.alreadyExists, r)
  else if r.listings.length < r.capacity then
    (.added,
      { r with
        listings :=
          r.listings ++
            [{ address := a
               metric := metric
               costs := List.replicate 16 4
               age := Duration.zero }] })
  else
    (.tableFull, r)

/- Change what is listed of an address, if anything is. -/
def change
    (r : Roster)
    (a : Address)
    (change : Listing → Listing) : Receipt × Roster :=
  (.known (a ∈ r.addresses),
    { r with
      listings :=
        r.listings.map (fun l =>
          if l.address = a then change l else l) })

/- Take what is listed of an address off the list. -/
def remove
    (r : Roster)
    (a : Address) : Option Listing × Roster :=
  (r.listings.find? (fun l => l.address = a),
    { r with
      listings :=
        r.listings.filter (fun l => l.address ≠ a) })

/- Take off the list what reaches the lifetime. -/
def tick
    (r : Roster)
    (elapsed : Duration) : List Address × Roster :=
  let aged := r.listings.map (fun l => l.aged elapsed)
  ((aged.filter (fun l => l.isStale r.lifetime)).map
      Listing.address,
    { r with
      listings :=
        aged.filter (fun l => !l.isStale r.lifetime) })

/-
  What edits do: a newcomer goes to the end if it is not
  listed, which is noticed first, and there is room; what is
  heard of a neighbor makes its entry young, but a failure
  does not; and entries leave without a change of order.
-/
def edit
    (r : Roster) : Edit → Receipt × Roster
  | .add a metric =>
      (.adding (r.add a metric).1, (r.add a metric).2)
  | .announce a metric =>
      r.change a (fun l =>
        { l with metric := metric, age := Duration.zero })
  | .succeed a transmissions =>
      r.change a (fun l =>
        { l with
          costs := l.costs.tail ++ [transmissions.toNat]
          age := Duration.zero })
  | .fail a transmissions =>
      r.change a (fun l =>
        { l with
          costs :=
            l.costs.tail ++
              [min (2 * transmissions.toNat) 255] })
  | .remove a => (.removed (r.remove a).1, (r.remove a).2)
  | .tick elapsed =>
      (.dropped (r.tick elapsed).1, (r.tick elapsed).2)
  | .setLifetime seconds =>
      (.done,
        { r with
          lifetime := Duration.ofSeconds seconds.toNat 0 })
  | .clear => (.done, { r with listings := [] })

/- The list after some edits. -/
def after
    (r : Roster)
    (edits : List Edit) : Roster :=
  edits.foldl (fun r e => (r.edit e).2) r

theorem after_concat
    (r : Roster)
    (edits : List Edit)
    (e : Edit) :
    r.after (edits ++ [e]) = ((r.after edits).edit e).2 :=
  List.foldl_concat ..

/- What every edit keeps holds after any of them. -/
theorem invariant_after
    {P : Roster → Prop}
    (hStep :
      ∀ (r : Roster) (e : Edit), P r → P (r.edit e).2)
    {r : Roster}
    (hStart : P r)
    (edits : List Edit) :
    P (r.after edits) := by
  induction edits generalizing r with
  | nil => exact hStart
  | cons e rest ih => exact ih (hStep r e hStart)

/- No address is listed twice, and there is room for all. -/
structure Valid
    (r : Roster) : Prop where
  nodup : r.addresses.Nodup
  bounded : r.listings.length ≤ r.capacity

theorem valid_empty
    (capacity : Nat)
    (seconds : UInt64) :
    (empty capacity seconds).Valid where
  nodup := List.nodup_nil
  bounded := Nat.zero_le _

theorem Valid.change
    {r : Roster}
    (hValid : r.Valid)
    (a : Address)
    {change : Listing → Listing}
    (hKeep : ∀ l, (change l).address = l.address) :
    (r.change a change).2.Valid := by
  have hAddresses :
      (r.change a change).2.addresses = r.addresses := by
    unfold addresses Roster.change
    rw [List.map_map]
    apply List.map_congr_left
    intro l _
    by_cases hSame : l.address = a
    · simp [hSame, hKeep]
    · simp [hSame]
  constructor
  · rw [hAddresses]
    exact hValid.nodup
  · change (r.listings.map _).length ≤ r.capacity
    rw [List.length_map]
    exact hValid.bounded

/- Some of the entries, in their order, are no more trouble. -/
theorem Valid.of_sublist
    {r s : Roster}
    (hValid : r.Valid)
    (hCapacity : s.capacity = r.capacity)
    (hSublist : s.addresses.Sublist r.addresses) :
    s.Valid where
  nodup := hValid.nodup.sublist hSublist
  bounded := by
    have hLength := hSublist.length_le
    unfold addresses at hLength
    rw [List.length_map, List.length_map] at hLength
    rw [hCapacity]
    exact Nat.le_trans hLength hValid.bounded

theorem Valid.add
    {r : Roster}
    (hValid : r.Valid)
    (a : Address)
    (metric : Metric) :
    (r.add a metric).2.Valid := by
  unfold Roster.add
  split
  · exact hValid
  next hAbsent =>
    split
    next hRoom =>
      constructor
      · unfold addresses
        rw [List.map_append, List.nodup_append]
        refine ⟨hValid.nodup, by simp, ?_⟩
        intro b hOld c hNew hEq
        rw [List.map_singleton] at hNew
        rw [hEq, List.mem_singleton.mp hNew] at hOld
        exact hAbsent hOld
      · rw [List.length_append]
        exact hRoom
    · exact hValid

theorem Valid.edit
    {r : Roster}
    (hValid : r.Valid)
    (e : Edit) :
    (r.edit e).2.Valid := by
  cases e with
  | add a metric => exact hValid.add a metric
  | announce a metric => exact hValid.change a (fun _ => rfl)
  | succeed a transmissions =>
      exact hValid.change a (fun _ => rfl)
  | fail a transmissions =>
      exact hValid.change a (fun _ => rfl)
  | remove a =>
      exact hValid.of_sublist rfl
        (List.filter_sublist.map Listing.address)
  | tick elapsed =>
      have hAged :
          (r.listings.map (fun l => l.aged elapsed)).map
            Listing.address = r.addresses := by
        rw [List.map_map]
        rfl
      have hSublist :
          (r.tick elapsed).2.addresses.Sublist
            r.addresses := by
        rw [← hAged]
        exact List.filter_sublist.map Listing.address
      exact hValid.of_sublist rfl hSublist
  | setLifetime seconds =>
      exact hValid.of_sublist rfl (List.Sublist.refl _)
  | clear =>
      exact hValid.of_sublist rfl (List.nil_sublist _)

/- A newcomer changes neither the room nor the lifetime. -/
theorem add_frame
    (r : Roster)
    (a : Address)
    (metric : Metric) :
    (r.add a metric).2.capacity = r.capacity ∧
      (r.add a metric).2.lifetime = r.lifetime := by
  unfold Roster.add
  split
  · exact ⟨rfl, rfl⟩
  · split <;> exact ⟨rfl, rfl⟩

/- Nothing makes more room. -/
theorem capacity_edit
    (r : Roster)
    (e : Edit) :
    (r.edit e).2.capacity = r.capacity := by
  cases e with
  | add a metric => exact (r.add_frame a metric).1
  | _ => rfl

theorem capacity_after
    (capacity : Nat)
    (seconds : UInt64)
    (edits : List Edit) :
    ((empty capacity seconds).after edits).capacity =
      capacity := by
  have hStep
      (r : Roster)
      (e : Edit)
      (hSame : r.capacity = capacity) :
      (r.edit e).2.capacity = capacity :=
    (r.capacity_edit e).trans hSame
  exact invariant_after hStep rfl edits

theorem valid_after
    (capacity : Nat)
    (seconds : UInt64)
    (edits : List Edit) :
    ((empty capacity seconds).after edits).Valid :=
  invariant_after (fun _ e hValid => hValid.edit e)
    (valid_empty capacity seconds) edits

end Roster

------------------------------------------------------------
-- Tables as Rosters
------------------------------------------------------------

namespace NeighborTable

/- What can be seen of a table. -/
def roster
    (t : NeighborTable) : Roster :=
  ⟨t.entries.map Neighbor.listing, t.capacity, t.lifetime⟩

@[simp] theorem addresses_roster
    (t : NeighborTable) :
    t.roster.addresses = t.addresses := by
  unfold roster Roster.addresses addresses
  rw [List.map_map]
  rfl

/- Looking an address up gives what is listed of it. -/
theorem find?_roster
    (t : NeighborTable)
    (a : Address) :
    (t.find? a).map Neighbor.listing =
      t.roster.listings.find? (fun l => l.address = a) := by
  unfold roster find?
  rw [List.find?_map]
  rfl

theorem roster_add
    (t : NeighborTable)
    (a : Address)
    (metric : Metric) :
    (t.add a metric).1 = (t.roster.add a metric).1 ∧
      (t.add a metric).2.roster =
        (t.roster.add a metric).2 := by
  unfold add Roster.add
  rw [addresses_roster]
  by_cases hKnown : t.contains a = true
  · have hListed := (contains_iff t a).mp hKnown
    rw [if_pos hKnown, if_pos hListed]
    exact ⟨rfl, rfl⟩
  · have hAbsent : a ∉ t.addresses :=
      fun hMem => hKnown ((contains_iff t a).mpr hMem)
    have hLength :
        t.roster.listings.length = t.size :=
      List.length_map _
    have hCapacity : t.roster.capacity = t.capacity := rfl
    rw [if_neg hKnown, if_neg hAbsent, hLength, hCapacity]
    by_cases hFull : t.capacity ≤ t.size
    · rw [if_pos hFull, if_neg (Nat.not_lt_of_le hFull)]
      exact ⟨rfl, rfl⟩
    · rw [if_neg hFull, if_pos (Nat.lt_of_not_le hFull)]
      refine ⟨rfl, ?_⟩
      unfold roster
      rw [List.map_append]
      rfl

/-
  A change to an entry does to what is listed of it what it
  should, in a table without duplicates.
-/
theorem roster_modify
    {t : NeighborTable}
    (hNodup : t.addresses.Nodup)
    (hIntact : t.Intact)
    (a : Address)
    {change : Neighbor → Neighbor}
    {relist : Listing → Listing}
    (hChange :
      ∀ n : Neighbor, n.link.Intact →
        (change n).listing = relist n.listing) :
    .known (t.modify a change).1 =
        (t.roster.change a relist).1 ∧
      (t.modify a change).2.roster =
        (t.roster.change a relist).2 := by
  have hKnown :
      t.contains a = decide (a ∈ t.roster.addresses) := by
    rw [addresses_roster, Bool.eq_iff_iff,
      decide_eq_true_iff]
    exact contains_iff t a
  have hEntries :
      (modifyEntry a change t.entries).map
          Neighbor.listing =
        (t.entries.map Neighbor.listing).map (fun l =>
          if l.address = a then relist l else l) := by
    rw [modifyEntry_eq_map hNodup, List.map_map,
      List.map_map]
    apply List.map_congr_left
    intro n hMem
    have hSeen := hChange n (hIntact n hMem)
    change
      (if n.address = a then change n else n).listing =
        if n.address = a then relist n.listing
        else n.listing
    by_cases hSame : n.address = a
    · rw [if_pos hSame, if_pos hSame, hSeen]
    · rw [if_neg hSame, if_neg hSame]
  unfold modify roster Roster.change
  rw [hEntries]
  exact ⟨congrArg Receipt.known hKnown, rfl⟩

/- Without duplicates, no other entry has the address. -/
theorem eraseP_eq_filter
    {entries : List Neighbor}
    (hNodup : (entries.map Neighbor.address).Nodup)
    (a : Address) :
    entries.eraseP (fun n => n.address == a) =
      entries.filter (fun n => n.address ≠ a) := by
  induction entries with
  | nil => rfl
  | cons n rest ih =>
      rw [List.map_cons, List.nodup_cons] at hNodup
      by_cases hSame : n.address = a
      · have hOthers :
            rest.filter (fun m => m.address ≠ a) = rest := by
          rw [List.filter_eq_self]
          intro m hMem
          have hOther : m.address ≠ a := by
            intro hAgain
            apply hNodup.1
            rw [hSame, ← hAgain]
            exact List.mem_map_of_mem hMem
          simpa using hOther
        rw [List.eraseP_cons_of_pos (by simpa using hSame),
          List.filter_cons_of_neg (by simpa using hSame),
          hOthers]
      · rw [List.eraseP_cons_of_neg (by simpa using hSame),
          List.filter_cons_of_pos (by simpa using hSame),
          ih hNodup.2]

theorem roster_remove
    {t : NeighborTable}
    (hNodup : t.addresses.Nodup)
    (a : Address) :
    (t.remove a).1.map Neighbor.listing =
        (t.roster.remove a).1 ∧
      (t.remove a).2.roster = (t.roster.remove a).2 := by
  have hKept :
      (t.entries.map Neighbor.listing).filter
          (fun l => l.address ≠ a) =
        (t.entries.filter (fun n => n.address ≠ a)).map
          Neighbor.listing :=
    List.filter_map
  refine ⟨find?_roster t a, ?_⟩
  unfold remove roster Roster.remove
  dsimp only
  rw [eraseP_eq_filter hNodup, hKept]

/- What is seen of an entry grows old with it. -/
theorem roster_tick
    (t : NeighborTable)
    (elapsed : Duration) :
    (t.tick elapsed).1 = (t.roster.tick elapsed).1 ∧
      (t.tick elapsed).2.roster =
        (t.roster.tick elapsed).2 := by
  let aged := t.entries.map (fun n => n.aged elapsed)
  have hAged :
      (t.entries.map Neighbor.listing).map
          (fun l => l.aged elapsed) =
        aged.map Neighbor.listing := by
    rw [List.map_map, List.map_map]
    rfl
  have hKept :
      (aged.map Neighbor.listing).filter
          (fun l => !l.isStale t.lifetime) =
        (aged.filter (fun n => !n.isStale t.lifetime)).map
          Neighbor.listing :=
    List.filter_map
  have hDropped :
      (aged.map Neighbor.listing).filter
          (fun l => l.isStale t.lifetime) =
        (aged.filter (fun n => n.isStale t.lifetime)).map
          Neighbor.listing :=
    List.filter_map
  unfold tick roster Roster.tick
  simp only [hAged]
  rw [hKept, hDropped, List.map_map]
  exact ⟨rfl, rfl⟩

/-
  An edit has the same answer and the same outcome for a
  table as for what can be seen of it.
-/
theorem roster_edit
    {t : NeighborTable}
    (hNodup : t.addresses.Nodup)
    (hIntact : t.Intact)
    (e : Edit) :
    (t.edit e).1 = (t.roster.edit e).1 ∧
      (t.edit e).2.roster = (t.roster.edit e).2 := by
  cases e with
  | add a metric =>
      have hAdd := roster_add t a metric
      exact ⟨congrArg Receipt.adding hAdd.1, hAdd.2⟩
  | announce a metric =>
      exact roster_modify hNodup hIntact a (fun _ _ => rfl)
  | succeed a transmissions =>
      apply roster_modify hNodup hIntact a
      intro n hLink
      have hCosts := hLink.toNat_costs_record transmissions
      exact congrArg
        (fun costs =>
          Listing.mk n.address n.metric costs Duration.zero)
        hCosts
  | fail a transmissions =>
      apply roster_modify hNodup hIntact a
      intro n hLink
      have hCosts :=
        hLink.toNat_costs_record
          (LinkEstimate.failureCost transmissions)
      rw [LinkEstimate.toNat_failureCost] at hCosts
      exact congrArg
        (fun costs =>
          Listing.mk n.address n.metric costs n.age)
        hCosts
  | remove a =>
      have hRemove := roster_remove hNodup a
      exact ⟨congrArg Receipt.removed hRemove.1, hRemove.2⟩
  | tick elapsed =>
      have hTick := roster_tick t elapsed
      exact ⟨congrArg Receipt.dropped hTick.1, hTick.2⟩
  | setLifetime seconds => exact ⟨rfl, rfl⟩
  | clear => exact ⟨rfl, rfl⟩

theorem Intact.after
    {t : NeighborTable}
    (hIntact : t.Intact)
    (edits : List Edit) :
    (t.after edits).Intact := by
  induction edits generalizing t with
  | nil => exact hIntact
  | cons e rest ih => exact ih (hIntact.edit e)

/- A new table has no links that could be broken. -/
theorem intact_empty
    (capacity seconds : Nat) :
    (empty capacity seconds).Intact :=
  fun _ hMem => absurd hMem List.not_mem_nil

/- A table always shows the list that edits should lead to. -/
theorem roster_after
    (capacity : Nat)
    (seconds : UInt64)
    (edits : List Edit) :
    ((empty capacity seconds.toNat).after edits).roster =
      (Roster.empty capacity seconds).after edits := by
  induction edits using List.reverseRecOn with
  | nil => rfl
  | append_singleton earlier e ih =>
      have hNodup :=
        (Roster.valid_after capacity seconds earlier).nodup
      rw [← ih, addresses_roster] at hNodup
      have hIntact :=
        (intact_empty capacity seconds.toNat).after earlier
      rw [after_concat, Roster.after_concat, ← ih]
      exact (roster_edit hNodup hIntact e).2

/- No address ever has two entries. -/
theorem nodup_after
    (capacity : Nat)
    (seconds : UInt64)
    (edits : List Edit) :
    ((empty capacity
      seconds.toNat).after edits).addresses.Nodup := by
  rw [← addresses_roster, roster_after]
  exact (Roster.valid_after capacity seconds edits).nodup

/-
  Whatever is done to a table, it shows the entries that a
  plain list would have, in the same order, and gives the
  same answer to the next edit.  No address has two entries,
  there are never more than there is room for, and entries
  are found, counted and numbered as in the list.
-/
theorem tables_are_ordered_maps
    (capacity : Nat)
    (seconds : UInt64)
    (edits : List Edit) :
    let t := (empty capacity seconds.toNat).after edits
    let r := (Roster.empty capacity seconds).after edits
    t.entries.map Neighbor.listing = r.listings ∧
      t.capacity = capacity ∧
      t.lifetime = r.lifetime ∧
      (∀ e : Edit, (t.edit e).1 = (r.edit e).1) ∧
      t.addresses.Nodup ∧
      t.size ≤ capacity ∧
      (∀ a : Address,
        (t.find? a).map Neighbor.listing =
          r.listings.find? (fun l => l.address = a)) ∧
      (∀ i : Nat,
        (t.get? i).map Neighbor.listing = r.listings[i]?) ∧
      t.size = r.listings.length := by
  intro t r
  have hRoster : t.roster = r :=
    roster_after capacity seconds edits
  have hValid : t.roster.Valid :=
    hRoster ▸ Roster.valid_after capacity seconds edits
  have hNodup : t.addresses.Nodup :=
    nodup_after capacity seconds edits
  have hIntact : t.Intact :=
    (intact_empty capacity seconds.toNat).after edits
  have hCapacity : t.roster.capacity = capacity :=
    hRoster ▸ Roster.capacity_after capacity seconds edits
  have hSize : t.roster.listings.length = t.size :=
    List.length_map _
  rw [← hRoster]
  refine
    ⟨rfl, hCapacity, rfl,
      fun e => (roster_edit hNodup hIntact e).1, hNodup, ?_,
      find?_roster t, ?_, hSize.symm⟩
  · rw [← hSize, ← hCapacity]
    exact hValid.bounded
  · intro i
    exact (List.getElem?_map ..).symm

end NeighborTable

end CollectionTree
