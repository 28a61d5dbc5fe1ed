import CollectionTree.Proofs.Roster

/-
  When entries of a neighbor table expire, in exact time.

  Key definitions include:
    * `NeighborTable.log`
    * `NeighborTable.refreshes`
    * `NeighborTable.silence`
    * `NeighborTable.lifetimeInForce`
    * `Roster.Timed`

  Key theorems include:
    * `NeighborTable.silence_concat`
    * `Roster.Timed.edit`
    * `NeighborTable.entries_expire_when_silent`

  An entry holds its age only as far as words go.  How long
  a neighbor has been silent is told by the log of a run,
  in numbers without a bound; the age is that, cut off above
  all lifetimes.
-/

namespace CollectionTree

namespace NeighborTable

------------------------------------------------------------
-- Logs
------------------------------------------------------------

/- The edits of a run and the answers to them, in order. -/
def log
    (t : NeighborTable) : List Edit → List (Edit × Receipt)
  | [] => []
  | e :: rest => (e, (t.edit e).1) :: log (t.edit e).2 rest

/-
  Whether an edit, as it was answered, shows that the
  neighbor is there: it was added, or its entry was there
  when it announced a metric or acknowledged a packet.
-/
def refreshes
    (a : Address) : Edit × Receipt → Bool
  | (.add b _, .adding .added) => b = a
  | (.announce b _, .known true) => b = a
  | (.succeed b _, .known true) => b = a
  | _ => false

/- The nanoseconds that pass in an edit. -/
def Edit.nanos : Edit → Nat
  | .tick elapsed => elapsed.nanos
  | _ => 0

/-
  The nanoseconds of all ticks after the last edit that
  showed that a neighbor is there.
-/
def silence
    (a : Address)
    (log : List (Edit × Receipt)) : Nat :=
  ((log.rtakeWhile (fun entry => !refreshes a entry)).map
    (fun entry => entry.1.nanos)).sum

/- The lifetime that an edit sets, in seconds. -/
def Edit.lifetime? : Edit → Option UInt64
  | .setLifetime seconds => some seconds
  | _ => none

/- The lifetime that was set last, in seconds. -/
def lifetimeInForce
    (seconds : UInt64)
    (edits : List Edit) : UInt64 :=
  (edits.filterMap Edit.lifetime?).getLastD seconds

theorem log_concat
    (t : NeighborTable)
    (edits : List Edit)
    (e : Edit) :
    t.log (edits ++ [e]) =
      t.log edits ++ [(e, ((t.after edits).edit e).1)] := by
  induction edits generalizing t with
  | nil => rfl
  | cons first rest ih =>
      exact congrArg
        (fun later => (first, (t.edit first).1) :: later)
        (ih (t.edit first).2)

theorem silence_concat
    (a : Address)
    (log : List (Edit × Receipt))
    (entry : Edit × Receipt) :
    silence a (log ++ [entry]) =
      if refreshes a entry then 0
      else silence a log + entry.1.nanos := by
  unfold silence
  cases hRefreshes : refreshes a entry with
  | true =>
      rw [List.rtakeWhile_concat_neg _ _ _
        (by simp [hRefreshes])]
      rfl
  | false =>
      rw [List.rtakeWhile_concat_pos _ _ _
        (by simp [hRefreshes])]
      simp

theorem lifetimeInForce_concat
    (seconds : UInt64)
    (edits : List Edit)
    (e : Edit) :
    lifetimeInForce seconds (edits ++ [e]) =
      e.lifetime?.getD (lifetimeInForce seconds edits) := by
  unfold lifetimeInForce
  rw [List.filterMap_append]
  cases hLifetime : e.lifetime? with
  | none => simp [hLifetime]
  | some later => simp [hLifetime]

end NeighborTable

------------------------------------------------------------
-- Ages
------------------------------------------------------------

namespace Roster

open NeighborTable (Edit Receipt refreshes silence
  silence_concat lifetimeInForce lifetimeInForce_concat)

/-
  The age of an entry is the time that its neighbor has been
  silent, as far as durations go.
-/
def Timed
    (log : List (Edit × Receipt))
    (r : Roster) : Prop :=
  ∀ l ∈ r.listings,
    l.age.nanos =
      min (silence l.address log) Duration.greatest.nanos

/- An edit that takes no time leaves old entries alone. -/
theorem Timed.keep
    {log : List (Edit × Receipt)}
    {r : Roster}
    (hTimed : r.Timed log)
    {entry : Edit × Receipt}
    {l : Listing}
    (hMem : l ∈ r.listings)
    (hOther : refreshes l.address entry = false)
    (hTime : entry.1.nanos = 0) :
    l.age.nanos =
      min (silence l.address (log ++ [entry]))
        Duration.greatest.nanos := by
  rw [silence_concat, hOther, hTime]
  exact hTimed l hMem

theorem Timed.add
    {log : List (Edit × Receipt)}
    {r : Roster}
    (hTimed : r.Timed log)
    (a : Address)
    (metric : Metric) :
    (r.edit (.add a metric)).2.Timed
      (log ++
        [(.add a metric,
          (r.edit (.add a metric)).1)]) := by
  change
    (r.add a metric).2.Timed
      (log ++ [(.add a metric, .adding (r.add a metric).1)])
  unfold Roster.add
  split
  · exact fun l hMem => hTimed.keep hMem rfl rfl
  next hAbsent =>
    split
    · intro l hMem
      rcases List.mem_append.mp hMem with hOld | hNew
      · have hOther : ¬ a = l.address := by
          intro hSame
          apply hAbsent
          rw [hSame]
          exact List.mem_map_of_mem hOld
        exact hTimed.keep hOld (by simpa [refreshes]) rfl
      · rw [List.mem_singleton.mp hNew, silence_concat]
        simp [refreshes, Duration.zero]
    · exact fun l hMem => hTimed.keep hMem rfl rfl

/- An entry that is there becomes young. -/
theorem Timed.rejuvenate
    {log : List (Edit × Receipt)}
    {r : Roster}
    (hTimed : r.Timed log)
    {e : Edit}
    {a : Address}
    {change : Listing → Listing}
    (hTime : e.nanos = 0)
    (hShows :
      ∀ b found,
        refreshes b (e, .known found) = (found && a = b))
    (hKeep : ∀ l, (change l).address = l.address)
    (hYoung : ∀ l, (change l).age = Duration.zero) :
    (r.change a change).2.Timed
      (log ++ [(e, (r.change a change).1)]) := by
  intro l hMem
  rcases List.mem_map.mp hMem with ⟨m, hOld, rfl⟩
  by_cases hSame : m.address = a
  · have hKnown : a ∈ r.addresses :=
      hSame ▸ List.mem_map_of_mem hOld
    rw [if_pos hSame, hYoung, hKeep, silence_concat]
    simp [Roster.change, hShows, hKnown, hSame,
      Duration.zero]
  · have hOther : ¬ a = m.address :=
      fun hEq => hSame hEq.symm
    rw [if_neg hSame]
    exact hTimed.keep hOld
      (by simp [Roster.change, hShows, hOther]) hTime

/- An entry keeps its age when nothing was heard of it. -/
theorem Timed.spare
    {log : List (Edit × Receipt)}
    {r : Roster}
    (hTimed : r.Timed log)
    {e : Edit}
    {a : Address}
    {change : Listing → Listing}
    (hTime : e.nanos = 0)
    (hNot : ∀ b receipt, refreshes b (e, receipt) = false)
    (hKeep : ∀ l, (change l).address = l.address)
    (hAge : ∀ l, (change l).age = l.age) :
    (r.change a change).2.Timed
      (log ++ [(e, (r.change a change).1)]) := by
  intro l hMem
  rcases List.mem_map.mp hMem with ⟨m, hOld, rfl⟩
  by_cases hSame : m.address = a
  · rw [if_pos hSame, hAge, hKeep]
    exact hTimed.keep hOld (hNot _ _) hTime
  · rw [if_neg hSame]
    exact hTimed.keep hOld (hNot _ _) hTime

/- Time that passes is silence for every neighbor. -/
theorem Timed.tick
    {log : List (Edit × Receipt)}
    {r : Roster}
    (hTimed : r.Timed log)
    (elapsed : Duration)
    (receipt : Receipt) :
    (r.tick elapsed).2.Timed
      (log ++ [(.tick elapsed, receipt)]) := by
  intro l hMem
  rcases List.mem_map.mp (List.mem_filter.mp hMem).1 with
    ⟨m, hOld, rfl⟩
  have hAge := hTimed m hOld
  have hAged :
      (m.aged elapsed).age.nanos =
        min (m.age.nanos + elapsed.nanos)
          Duration.greatest.nanos :=
    rfl
  have hSilence :
      silence m.address (log ++ [(.tick elapsed, receipt)]) =
        silence m.address log + elapsed.nanos := by
    rw [silence_concat]
    rfl
  change
    _ =
      min (silence m.address (log ++ [_]))
        Duration.greatest.nanos
  rw [hAged, hAge, hSilence]
  omega

/- Ages tell how long neighbors have been silent. -/
theorem Timed.edit
    {log : List (Edit × Receipt)}
    {r : Roster}
    (hTimed : r.Timed log)
    (e : Edit) :
    (r.edit e).2.Timed (log ++ [(e, (r.edit e).1)]) := by
  cases e with
  | add a metric => exact hTimed.add a metric
  | announce a metric =>
      have hShows
          (b : Address)
          (found : Bool) :
          refreshes b (.announce a metric, .known found) =
            (found && a = b) := by
        cases found <;> rfl
      exact hTimed.rejuvenate rfl hShows (fun _ => rfl)
        (fun _ => rfl)
  | succeed a transmissions =>
      have hShows
          (b : Address)
          (found : Bool) :
          refreshes b (.succeed a transmissions, .known found) =
            (found && a = b) := by
        cases found <;> rfl
      exact hTimed.rejuvenate rfl hShows (fun _ => rfl)
        (fun _ => rfl)
  | fail a transmissions =>
      exact hTimed.spare rfl (fun _ _ => rfl) (fun _ => rfl)
        (fun _ => rfl)
  | remove a =>
      intro l hMem
      exact hTimed.keep (List.mem_filter.mp hMem).1 rfl rfl
  | tick elapsed => exact hTimed.tick elapsed _
  | setLifetime seconds =>
      exact fun l hMem => hTimed.keep hMem rfl rfl
  | clear =>
      exact fun l hMem => absurd hMem List.not_mem_nil

theorem lifetime_after
    (capacity : Nat)
    (seconds : UInt64)
    (edits : List Edit) :
    ((empty capacity seconds).after edits).lifetime =
      Duration.ofSeconds
        (lifetimeInForce seconds edits).toNat 0 := by
  induction edits using List.reverseRecOn with
  | nil => rfl
  | append_singleton earlier e ih =>
      rw [after_concat, lifetimeInForce_concat]
      cases e with
      | add a metric =>
          exact (add_frame _ a metric).2.trans ih
      | setLifetime seconds => rfl
      | _ => exact ih

/- Growing old is no change of address. -/
theorem map_address_filter_aged
    {listings : List Listing}
    {elapsed : Duration}
    {test : Listing → Bool}
    {due : Address → Bool}
    (hTest :
      ∀ l ∈ listings,
        test (l.aged elapsed) = due l.address) :
    ((listings.map (fun l => l.aged elapsed)).filter
        test).map Listing.address =
      (listings.map Listing.address).filter due := by
  rw [List.filter_map, List.filter_map, List.map_map]
  exact congrArg (List.map Listing.address)
    (List.filter_congr hTest)

/-
  A tick drops who has been silent for a whole lifetime, in
  exact time.  All lifetimes are durations, so an age that
  was cut off at the greatest one has reached them as well.
-/
theorem Timed.tick_eq_filter
    {log : List (Edit × Receipt)}
    {r : Roster}
    (hTimed : r.Timed log)
    (hLifetime :
      r.lifetime.nanos ≤ Duration.greatest.nanos)
    (elapsed : Duration) :
    (r.tick elapsed).1 =
        r.addresses.filter (fun a =>
          r.lifetime.nanos ≤
            silence a log + elapsed.nanos) ∧
      (r.tick elapsed).2.addresses =
        r.addresses.filter (fun a =>
          ¬ r.lifetime.nanos ≤
            silence a log + elapsed.nanos) := by
  have hStale :
      ∀ l ∈ r.listings,
        (l.aged elapsed).isStale r.lifetime =
          decide
            (r.lifetime.nanos ≤
              silence l.address log + elapsed.nanos) := by
    intro l hMem
    have hAge := hTimed l hMem
    have hReaches :
        r.lifetime ≤ (l.aged elapsed).age ↔
          r.lifetime.nanos ≤
            min (l.age.nanos + elapsed.nanos)
              Duration.greatest.nanos :=
      Iff.rfl
    unfold Listing.isStale
    rw [decide_eq_decide, hReaches, hAge]
    omega
  have hKept :
      ∀ l ∈ r.listings,
        (!(l.aged elapsed).isStale r.lifetime) =
          decide
            (¬ r.lifetime.nanos ≤
              silence l.address log + elapsed.nanos) := by
    intro l hMem
    rw [hStale l hMem, decide_not]
  exact
    ⟨map_address_filter_aged hStale,
      map_address_filter_aged hKept⟩

end Roster

namespace NeighborTable

theorem timed_after
    (capacity : Nat)
    (seconds : UInt64)
    (edits : List Edit) :
    let start := empty capacity seconds.toNat
    (start.after edits).roster.Timed (start.log edits) := by
  intro start
  induction edits using List.reverseRecOn with
  | nil => exact fun l hMem => absurd hMem List.not_mem_nil
  | append_singleton earlier e ih =>
      have hNodup := nodup_after capacity seconds earlier
      have hIntact :=
        (intact_empty capacity seconds.toNat).after earlier
      rcases roster_edit hNodup hIntact e with
        ⟨hReceipt, hNext⟩
      rw [after_concat, log_concat, hNext, hReceipt]
      exact ih.edit e

/-
  A tick drops an entry just if the ticks since its neighbor
  was added, heard or reached last take at least the
  lifetime that is in force, this tick included.  Their time
  is a number without a bound.  The answer names the entries
  that are dropped, in their order, and the others stay.
-/
theorem entries_expire_when_silent
    (capacity : Nat)
    (seconds : UInt64)
    (edits : List Edit)
    (elapsed : Duration) :
    let start := empty capacity seconds.toNat
    let t := start.after edits
    let lifetime :=
      (lifetimeInForce seconds edits).toNat *
        Duration.nanosPerSecond
    let silent := fun a =>
      silence a (start.log edits) + elapsed.nanos
    (∀ a ∈ t.addresses,
        a ∉ (t.tick elapsed).2.addresses ↔
          lifetime ≤ silent a) ∧
      (t.tick elapsed).1 =
        t.addresses.filter
          (fun a => lifetime ≤ silent a) ∧
      (t.tick elapsed).2.addresses =
        t.addresses.filter
          (fun a => ¬ lifetime ≤ silent a) := by
  intro start t lifetime silent
  have hRoster : t.roster = _ :=
    roster_after capacity seconds edits
  have hLifetime : t.roster.lifetime.nanos = lifetime := by
    rw [hRoster, Roster.lifetime_after]
    exact Nat.add_zero _
  have hBound : lifetime ≤ Duration.greatest.nanos := by
    have hWord :=
      UInt64.toNat_lt (lifetimeInForce seconds edits)
    have hSpan :
        lifetime =
          (lifetimeInForce seconds edits).toNat *
            1000000000 :=
      rfl
    have hGreatest :
        Duration.greatest.nanos =
          18446744073709551616 * 1000000000 - 1 :=
      rfl
    omega
  have hTick :=
    (timed_after capacity seconds edits).tick_eq_filter
      (hLifetime ▸ hBound) elapsed
  have hSame := roster_tick t elapsed
  rw [hLifetime, addresses_roster, ← hSame.1, ← hSame.2,
    addresses_roster] at hTick
  refine ⟨?_, hTick⟩
  intro a hMem
  have hKept :
      (t.tick elapsed).2.addresses =
        t.addresses.filter
          (fun a => ¬ lifetime ≤ silent a) :=
    hTick.2
  rw [hKept, List.mem_filter, decide_eq_true_iff, not_and,
    Decidable.not_not]
  exact ⟨fun h => h hMem, fun h _ => h⟩

/- Only the neighbor that announced a metric in between stays. -/
example :
    (((empty 4 10).after
        [.add ⟨1, 0⟩ 0, .add ⟨2, 0⟩ 0,
          .tick (Duration.ofSeconds 6 0),
          .announce ⟨2, 0⟩ 8]).tick
            (Duration.ofSeconds 5 0)).1 =
      [⟨1, 0⟩] := by
  decide

end NeighborTable

end CollectionTree
