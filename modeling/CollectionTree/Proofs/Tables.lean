import CollectionTree.Connection

/-
  A neighbor table as a map from addresses to entries.

  Key definitions include:
    * `NeighborTable.addresses`
    * `NeighborTable.upsert`

  Key theorems include:
    * `NeighborTable.find?_modifyEntry`
    * `NeighborTable.modifyEntry_eq_map`
    * `Connection.noteAnnounced_eq_upsert`
    * `Connection.noteAcknowledged_eq_upsert`
    * `NeighborTable.mem_upsert`
    * `NeighborTable.nodup_upsert`
    * `NeighborTable.find?_upsert_of_ne`
    * `NeighborTable.find?_upsert_self`
    * `NeighborTable.tick_of_fresh`

  An announcement and an acknowledgement do the same thing
  to a table: they change the entry of an address, or add
  one if there is room.
-/

namespace CollectionTree

namespace NeighborTable

------------------------------------------------------------
-- Addresses
------------------------------------------------------------

/- The addresses of the entries, in their order. -/
def addresses
    (t : NeighborTable) : List Address :=
  t.entries.map Neighbor.address

theorem contains_iff
    (t : NeighborTable)
    (a : Address) :
    t.contains a = true ↔ a ∈ t.addresses := by
  simp [contains, addresses]

theorem length_addresses
    (t : NeighborTable) :
    t.addresses.length = t.size := by
  simp [addresses, size]

/- An address without an entry is not found. -/
theorem find?_eq_none_of_not_mem
    {t : NeighborTable}
    {a : Address}
    (hAbsent : a ∉ t.addresses) :
    t.find? a = none := by
  unfold find?
  rw [List.find?_eq_none]
  intro n hMem hSame
  have hEq : n.address = a := by
    simpa using hSame
  exact hAbsent (hEq ▸ List.mem_map_of_mem hMem)

/- Without duplicates an entry is found by its address. -/
theorem find?_of_mem
    {t : NeighborTable}
    (hNodup : t.addresses.Nodup)
    {n : Neighbor}
    (hMem : n ∈ t.entries) :
    t.find? n.address = some n := by
  obtain ⟨entries, capacity, lifetime⟩ := t
  unfold find?
  unfold addresses at hNodup
  dsimp only at hNodup hMem ⊢
  induction entries with
  | nil => contradiction
  | cons m rest ih =>
      rw [List.map_cons, List.nodup_cons] at hNodup
      rcases List.mem_cons.mp hMem with rfl | hRest
      · simp
      · have hOther : m.address ≠ n.address := by
          intro hEq
          exact hNodup.1 (hEq ▸ List.mem_map_of_mem hRest)
        rw [List.find?_cons_of_neg (by simpa using hOther)]
        exact ih hNodup.2 hRest

theorem mem_of_find?
    {t : NeighborTable}
    {a : Address}
    {n : Neighbor}
    (hFind : t.find? a = some n) :
    n ∈ t.entries ∧ n.address = a := by
  unfold find? at hFind
  exact ⟨List.mem_of_find?_eq_some hFind,
    by simpa using List.find?_some hFind⟩

------------------------------------------------------------
-- Changing an Entry
------------------------------------------------------------

theorem mem_modifyEntry
    {a : Address}
    {change : Neighbor → Neighbor}
    {entries : List Neighbor}
    {n : Neighbor}
    (hMem : n ∈ modifyEntry a change entries) :
    n ∈ entries ∨
      ∃ m ∈ entries, m.address = a ∧ n = change m := by
  induction entries with
  | nil => exact Or.inl hMem
  | cons m rest ih =>
      unfold modifyEntry at hMem
      by_cases hSame : m.address = a
      · rw [if_pos hSame] at hMem
        rcases List.mem_cons.mp hMem with rfl | hRest
        · exact Or.inr
            ⟨m, List.mem_cons_self, hSame, rfl⟩
        · exact Or.inl (List.mem_cons_of_mem m hRest)
      · rw [if_neg hSame] at hMem
        rcases List.mem_cons.mp hMem with rfl | hRest
        · exact Or.inl List.mem_cons_self
        · rcases ih hRest with hOld | ⟨k, hOld, hRests⟩
          · exact Or.inl (List.mem_cons_of_mem m hOld)
          · exact Or.inr
              ⟨k, List.mem_cons_of_mem m hOld, hRests⟩

theorem map_address_modifyEntry
    (a : Address)
    {change : Neighbor → Neighbor}
    (hKeep : ∀ n, (change n).address = n.address)
    (entries : List Neighbor) :
    (modifyEntry a change entries).map Neighbor.address =
      entries.map Neighbor.address := by
  induction entries with
  | nil => rfl
  | cons m rest ih =>
      unfold modifyEntry
      by_cases hSame : m.address = a
      · simp [hSame, hKeep]
      · simp [hSame, ih]

/- Only the entry of the address is found changed. -/
theorem find?_modifyEntry
    (a b : Address)
    {change : Neighbor → Neighbor}
    (hKeep : ∀ n, (change n).address = n.address)
    (entries : List Neighbor) :
    (modifyEntry a change entries).find?
        (fun n => n.address == b) =
      if b = a then
        (entries.find? (fun n => n.address == b)).map change
      else
        entries.find? (fun n => n.address == b) := by
  induction entries with
  | nil => simp [modifyEntry]
  | cons m rest ih =>
      unfold modifyEntry
      by_cases hSame : m.address = a
      · by_cases hSought : b = a
        · simp [hSame, hKeep, hSought]
        · have hOther : ¬ a = b := fun h => hSought h.symm
          simp [hSame, hKeep, hSought, hOther]
      · rw [if_neg hSame, List.find?_cons, List.find?_cons,
          ih]
        by_cases hFound : m.address = b
        · have hSought : ¬ b = a := hFound ▸ hSame
          simp [hFound, hSought]
        · have hNot : (m.address == b) = false := by
            simpa using hFound
          simp only [hNot]

/- Without duplicates, just the entry of an address changes. -/
theorem modifyEntry_eq_map
    {entries : List Neighbor}
    (hNodup : (entries.map Neighbor.address).Nodup)
    (a : Address)
    (change : Neighbor → Neighbor) :
    modifyEntry a change entries =
      entries.map (fun n =>
        if n.address = a then change n else n) := by
  induction entries with
  | nil => rfl
  | cons m rest ih =>
      rw [List.map_cons, List.nodup_cons] at hNodup
      unfold modifyEntry
      rw [List.map_cons]
      by_cases hSame : m.address = a
      · have hRest :
            rest.map (fun n =>
                if n.address = a then change n else n) =
              rest.map (fun n => n) := by
          apply List.map_congr_left
          intro n hMem
          apply if_neg
          intro hAgain
          apply hNodup.1
          rw [hSame, ← hAgain]
          exact List.mem_map_of_mem hMem
        rw [if_pos hSame, if_pos hSame, hRest, List.map_id']
      · rw [if_neg hSame, if_neg hSame, ih hNodup.2]

------------------------------------------------------------
-- Changing or Adding an Entry
------------------------------------------------------------

/-
  Change the entry of an address or, if there is none, add
  one while there is room.
-/
def upsert
    (t : NeighborTable)
    (newcomer : Neighbor)
    (change : Neighbor → Neighbor) : NeighborTable :=
  if t.contains newcomer.address then
    { t with
      entries :=
        modifyEntry newcomer.address change t.entries }
  else if t.capacity ≤ t.size then
    t
  else
    { t with entries := t.entries ++ [newcomer] }

theorem upsert_cases
    (t : NeighborTable)
    (newcomer : Neighbor)
    (change : Neighbor → Neighbor) :
    (newcomer.address ∈ t.addresses ∧
        t.upsert newcomer change =
          { t with
            entries :=
              modifyEntry newcomer.address change
                t.entries }) ∨
      (newcomer.address ∉ t.addresses ∧
        t.capacity ≤ t.size ∧
        t.upsert newcomer change = t) ∨
      (newcomer.address ∉ t.addresses ∧
        t.size < t.capacity ∧
        t.upsert newcomer change =
          { t with entries := t.entries ++ [newcomer] }) := by
  unfold upsert
  by_cases hKnown : t.contains newcomer.address = true
  · exact Or.inl
      ⟨(contains_iff t _).mp hKnown, if_pos hKnown⟩
  · have hAbsent : newcomer.address ∉ t.addresses :=
      fun hMem => hKnown ((contains_iff t _).mpr hMem)
    rw [if_neg hKnown]
    by_cases hFull : t.capacity ≤ t.size
    · exact Or.inr (Or.inl
        ⟨hAbsent, hFull, if_pos hFull⟩)
    · exact Or.inr (Or.inr
        ⟨hAbsent, Nat.lt_of_not_le hFull, if_neg hFull⟩)

@[simp] theorem capacity_upsert
    (t : NeighborTable)
    (newcomer : Neighbor)
    (change : Neighbor → Neighbor) :
    (t.upsert newcomer change).capacity = t.capacity := by
  unfold upsert
  split
  · rfl
  · split <;> rfl

@[simp] theorem lifetime_upsert
    (t : NeighborTable)
    (newcomer : Neighbor)
    (change : Neighbor → Neighbor) :
    (t.upsert newcomer change).lifetime = t.lifetime := by
  unfold upsert
  split
  · rfl
  · split <;> rfl

theorem mem_upsert
    {t : NeighborTable}
    {newcomer n : Neighbor}
    {change : Neighbor → Neighbor}
    (hMem : n ∈ (t.upsert newcomer change).entries) :
    n ∈ t.entries ∨ n = newcomer ∨
      ∃ m ∈ t.entries,
        m.address = newcomer.address ∧ n = change m := by
  rcases upsert_cases t newcomer change with
    ⟨-, hEq⟩ | ⟨-, -, hEq⟩ | ⟨-, -, hEq⟩
  · rw [hEq] at hMem
    rcases mem_modifyEntry hMem with hOld | hChanged
    · exact Or.inl hOld
    · exact Or.inr (Or.inr hChanged)
  · rw [hEq] at hMem
    exact Or.inl hMem
  · rw [hEq] at hMem
    rcases List.mem_append.mp hMem with hOld | hNew
    · exact Or.inl hOld
    · exact Or.inr (Or.inl (List.mem_singleton.mp hNew))

theorem addresses_upsert
    (t : NeighborTable)
    (newcomer : Neighbor)
    {change : Neighbor → Neighbor}
    (hKeep : ∀ n, (change n).address = n.address) :
    (t.upsert newcomer change).addresses = t.addresses ∨
      (newcomer.address ∉ t.addresses ∧
        (t.upsert newcomer change).addresses =
          t.addresses ++ [newcomer.address]) := by
  rcases upsert_cases t newcomer change with
    ⟨-, hEq⟩ | ⟨-, -, hEq⟩ | ⟨hAbsent, -, hEq⟩
  · rw [hEq]
    exact Or.inl (map_address_modifyEntry _ hKeep _)
  · rw [hEq]
    exact Or.inl rfl
  · rw [hEq]
    exact Or.inr ⟨hAbsent, by simp [addresses]⟩

/- No address gets a second entry. -/
theorem nodup_upsert
    {t : NeighborTable}
    (hNodup : t.addresses.Nodup)
    (newcomer : Neighbor)
    {change : Neighbor → Neighbor}
    (hKeep : ∀ n, (change n).address = n.address) :
    (t.upsert newcomer change).addresses.Nodup := by
  rcases addresses_upsert t newcomer hKeep with
    hSame | ⟨hAbsent, hMore⟩
  · exact hSame ▸ hNodup
  · rw [hMore, List.nodup_append]
    refine ⟨hNodup, by simp, ?_⟩
    intro a hOld b hNew hEq
    rw [List.mem_singleton.mp hNew] at hEq
    exact hAbsent (hEq ▸ hOld)

/- The entries of other addresses stay as they are. -/
theorem find?_upsert_of_ne
    (t : NeighborTable)
    {newcomer : Neighbor}
    {change : Neighbor → Neighbor}
    (hKeep : ∀ n, (change n).address = n.address)
    {a : Address}
    (hOther : a ≠ newcomer.address) :
    (t.upsert newcomer change).find? a = t.find? a := by
  rcases upsert_cases t newcomer change with
    ⟨-, hEq⟩ | ⟨-, -, hEq⟩ | ⟨-, -, hEq⟩
  · rw [hEq]
    unfold find?
    rw [find?_modifyEntry _ _ hKeep, if_neg hOther]
  · rw [hEq]
  · rw [hEq]
    have hNot : ¬ newcomer.address = a :=
      fun h => hOther h.symm
    simp [find?, List.find?_append, hNot]

/- With room in the table the address has an entry. -/
theorem find?_upsert_self
    (t : NeighborTable)
    (newcomer : Neighbor)
    {change : Neighbor → Neighbor}
    (hKeep : ∀ n, (change n).address = n.address)
    (hRoom :
      newcomer.address ∈ t.addresses ∨
        t.size < t.capacity) :
    (t.upsert newcomer change).find? newcomer.address =
      some
        ((t.find? newcomer.address).elim newcomer change) := by
  rcases upsert_cases t newcomer change with
    ⟨hKnown, hEq⟩ | ⟨hAbsent, hFull, -⟩ | ⟨hAbsent, -, hEq⟩
  · rw [hEq]
    have hSome :
        (t.find? newcomer.address).isSome = true := by
      unfold find?
      rw [List.find?_isSome]
      rcases List.mem_map.mp hKnown with ⟨n, hMem, hSame⟩
      exact ⟨n, hMem, by simpa using hSame⟩
    rcases Option.isSome_iff_exists.mp hSome with ⟨n, hFind⟩
    rw [hFind]
    unfold find? at hFind ⊢
    rw [find?_modifyEntry _ _ hKeep, if_pos rfl, hFind]
    rfl
  · rcases hRoom with hKnown | hLess
    · exact absurd hKnown hAbsent
    · omega
  · have hNone := find?_eq_none_of_not_mem hAbsent
    rw [hEq, hNone]
    unfold find? at hNone ⊢
    simp [List.find?_append, hNone]

------------------------------------------------------------
-- Time
------------------------------------------------------------

theorem mem_tick
    {t : NeighborTable}
    {elapsed : Duration}
    {n : Neighbor}
    (hMem : n ∈ (t.tick elapsed).2.entries) :
    ∃ m ∈ t.entries, n = m.aged elapsed := by
  rcases List.mem_filter.mp hMem with ⟨hAged, -⟩
  rcases List.mem_map.mp hAged with ⟨m, hOld, hEq⟩
  exact ⟨m, hOld, hEq.symm⟩

/- Nothing is dropped while every entry is young enough. -/
theorem tick_of_fresh
    {t : NeighborTable}
    {elapsed : Duration}
    (hFresh :
      ∀ n ∈ t.entries,
        (n.aged elapsed).isStale t.lifetime = false) :
    t.tick elapsed =
      ([],
        { t with
          entries :=
            t.entries.map (fun n => n.aged elapsed) }) := by
  have hNone :
      (t.entries.map (fun n => n.aged elapsed)).filter
          (fun n => n.isStale t.lifetime) = [] := by
    rw [List.filter_eq_nil_iff]
    intro n hMem
    rcases List.mem_map.mp hMem with ⟨m, hOld, rfl⟩
    simp [hFresh m hOld]
  have hAll :
      (t.entries.map (fun n => n.aged elapsed)).filter
          (fun n => !n.isStale t.lifetime) =
        t.entries.map (fun n => n.aged elapsed) := by
    rw [List.filter_eq_self]
    intro n hMem
    rcases List.mem_map.mp hMem with ⟨m, hOld, rfl⟩
    simp [hFresh m hOld]
  unfold tick
  simp only [hNone, hAll, List.map_nil]

end NeighborTable

------------------------------------------------------------
-- Announcements and Acknowledgements
------------------------------------------------------------

namespace Connection

open NeighborTable

theorem noteAnnounced_eq_upsert
    (t : NeighborTable)
    (sender : Address)
    (metric : Metric) :
    noteAnnounced t sender metric =
      t.upsert (Neighbor.new sender metric)
        (fun n => n.announcing metric) := by
  have hAddress :
      (Neighbor.new sender metric).address = sender := rfl
  unfold noteAnnounced upsert NeighborTable.add
  rw [hAddress]
  by_cases hKnown : t.contains sender = true
  · simp only [hKnown, if_true]
    rfl
  · have hUnknown : t.contains sender = false := by
      simpa using hKnown
    by_cases hFull : t.capacity ≤ t.size
    · simp only [hUnknown, hFull, if_true, if_false,
        Bool.false_eq_true]
    · simp only [hUnknown, hFull, if_false,
        Bool.false_eq_true]

/- At the end of a table only the last entry can change. -/
theorem modifyEntry_append_of_not_mem
    {a : Address}
    {entries : List Neighbor}
    (hAbsent : a ∉ entries.map Neighbor.address)
    (change : Neighbor → Neighbor)
    (n : Neighbor)
    (hAddress : n.address = a) :
    modifyEntry a change (entries ++ [n]) =
      entries ++ [change n] := by
  induction entries with
  | nil => simp [modifyEntry, hAddress]
  | cons m rest ih =>
      rw [List.map_cons, List.mem_cons, not_or] at hAbsent
      have hOther : ¬ m.address = a :=
        fun h => hAbsent.1 h.symm
      simp only [List.cons_append, modifyEntry, hOther,
        if_false, ih hAbsent.2]

theorem noteAcknowledged_eq_upsert
    (t : NeighborTable)
    (receiver : Address)
    (transmissions : UInt8) :
    noteAcknowledged t receiver transmissions =
      t.upsert
        ((Neighbor.new receiver
          Metric.unreachable).acknowledging transmissions)
        (fun n => n.acknowledging transmissions) := by
  have hAddress :
      ((Neighbor.new receiver
        Metric.unreachable).acknowledging
          transmissions).address = receiver := rfl
  unfold noteAcknowledged upsert recordSuccess
    NeighborTable.modify NeighborTable.add
  rw [hAddress]
  by_cases hKnown : t.contains receiver = true
  · simp only [hKnown, if_true]
  · have hAbsent :
        receiver ∉ t.entries.map Neighbor.address :=
      fun hMem => hKnown ((contains_iff t _).mpr hMem)
    have hUnknown : t.contains receiver = false := by
      simpa using hKnown
    by_cases hFull : t.capacity ≤ t.size
    · simp only [hUnknown, hFull, if_true, if_false,
        Bool.false_eq_true]
    · simp only [hUnknown, hFull, if_false,
        Bool.false_eq_true]
      rw [modifyEntry_append_of_not_mem hAbsent _ _ rfl]

end Connection

end CollectionTree
