import CollectionTree.Proofs.Connection.Steps
import CollectionTree.Proofs.Roster

/-
  Operations of a connection with a guard at every place
  where one of its steps might have no result.

  Key definitions include:
    * `Guarded.Fault`
    * `Guarded.push`
    * `Guarded.handle`
    * `Guarded.perform`
    * `Connection.Intact`

  Key theorems include:
    * `Guarded.push_eq`
    * `Guarded.concludeTransmission_eq`
    * `Guarded.receive_eq`
    * `Guarded.perform_eq`
    * `Connection.Step.intact`

  A guard lets through what is defined and fails otherwise:
  a place outside of a list, a division by zero, a byte that
  would become too great or less than zero, an operation
  that may not be refused.  Connections with intact memories
  pass all guards, and stay intact.
-/

namespace CollectionTree

------------------------------------------------------------
-- Intact Memories
------------------------------------------------------------

/- What a connection remembers is where it belongs. -/
structure Connection.Intact
    (c : Connection) : Prop where
  recent : c.recent.ring.InBounds
  links : c.neighbors.Intact

/- Empty tables are intact, whatever their sizes. -/
theorem Connection.intact_withConfig
    (address : Address)
    (config : Config) :
    (Connection.withConfig address config).Intact where
  recent := by
    change
      0 < (List.replicate
        (max config.recentPackets.toNat 1) none).length
    rw [List.length_replicate]
    exact Nat.lt_of_lt_of_le Nat.zero_lt_one
      (Nat.le_max_right _ _)
  links := fun _ hMem => absurd hMem List.not_mem_nil

namespace Guarded

------------------------------------------------------------
-- Guards
------------------------------------------------------------

/- Why a step has no result. -/
inductive Fault
  | noSuchPlace
  | zeroDivisor
  | overflow
  | underflow
  | refused
  deriving DecidableEq, Repr

/- The rest of a division. -/
def remainder
    (a b : Nat) : Except Fault Nat :=
  if b = 0 then
    .error .zeroDivisor
  else
    .ok (a % b)

theorem remainder_eq
    (a : Nat)
    {b : Nat}
    (hSome : b ≠ 0) :
    remainder a b = .ok (a % b) :=
  if_neg hSome

/- One more than a byte. -/
def increment
    (n : UInt8) : Except Fault UInt8 :=
  if n = 255 then
    .error .overflow
  else
    .ok (n + 1)

theorem increment_eq
    {n : UInt8}
    (hRoom : n.toNat < 255) :
    increment n = .ok (n + 1) := by
  refine if_neg ?_
  rintro rfl
  exact absurd hRoom (by decide)

/- One less than a byte. -/
def decrement
    (n : UInt8) : Except Fault UInt8 :=
  if n = 0 then
    .error .underflow
  else
    .ok (n - 1)

/- Overwrite the value under the cursor and move on. -/
def push
    {α : Type}
    (r : RingBuffer α)
    (x : α) : Except Fault (RingBuffer α) :=
  if r.cursor < r.slots.length then do
    let cursor ← remainder (r.cursor + 1) r.slots.length
    pure ⟨r.slots.set r.cursor x, cursor⟩
  else
    .error .noSuchPlace

theorem push_eq
    {α : Type}
    {r : RingBuffer α}
    (hBounds : r.InBounds)
    (x : α) :
    push r x = .ok (r.push x) := by
  have hPlace : r.cursor < r.slots.length := hBounds
  have hSlots : r.slots.length ≠ 0 :=
    Nat.ne_zero_of_lt hPlace
  unfold push
  rw [if_pos hPlace, remainder_eq _ hSlots]
  rfl

------------------------------------------------------------
-- Links
------------------------------------------------------------

/- Note a packet's cost. -/
def recordCost
    (n : Neighbor)
    (cost : UInt8) : Except Fault Neighbor := do
  let history ← push n.link.history cost
  pure { n with link := ⟨history⟩ }

theorem recordCost_eq
    {n : Neighbor}
    (hIntact : n.link.Intact)
    (cost : UInt8) :
    recordCost n cost =
      .ok { n with link := n.link.record cost } := by
  unfold recordCost
  rw [push_eq hIntact.inBounds]
  rfl

/- Change the first entry of an address. -/
def modifyEntry
    (a : Address)
    (change : Neighbor → Except Fault Neighbor) :
    List Neighbor → Except Fault (List Neighbor)
  | [] => pure []
  | n :: rest =>
      if n.address = a then do
        let changed ← change n
        pure (changed :: rest)
      else do
        let others ← modifyEntry a change rest
        pure (n :: others)

theorem modifyEntry_eq
    (a : Address)
    {guarded : Neighbor → Except Fault Neighbor}
    {change : Neighbor → Neighbor}
    {entries : List Neighbor}
    (hChange :
      ∀ n ∈ entries, guarded n = .ok (change n)) :
    modifyEntry a guarded entries =
      .ok (NeighborTable.modifyEntry a change entries) := by
  induction entries with
  | nil => rfl
  | cons n rest ih =>
      have hRest :=
        ih fun m hMem =>
          hChange m (List.mem_cons_of_mem n hMem)
      unfold modifyEntry NeighborTable.modifyEntry
      by_cases hSame : n.address = a
      · rw [if_pos hSame, if_pos hSame,
          hChange n List.mem_cons_self]
        rfl
      · rw [if_neg hSame, if_neg hSame, hRest]
        rfl

/- Note a packet that a known neighbor acknowledged. -/
def recordSuccess
    (t : NeighborTable)
    (a : Address)
    (transmissions : UInt8) :
    Except Fault (Bool × NeighborTable) := do
  let entries ←
    modifyEntry a
      (fun n =>
        recordCost { n with age := Duration.zero }
          transmissions)
      t.entries
  pure (t.contains a, { t with entries := entries })

theorem recordSuccess_eq
    {t : NeighborTable}
    (hIntact : t.Intact)
    (a : Address)
    (transmissions : UInt8) :
    recordSuccess t a transmissions =
      .ok (t.recordSuccess a transmissions) := by
  have hEntries :=
    modifyEntry_eq a
      (fun n hMem =>
        recordCost_eq
          (n := { n with age := Duration.zero })
          (hIntact n hMem) transmissions)
  unfold recordSuccess
  rw [hEntries]
  rfl

/- Note a packet that a known neighbor did not acknowledge. -/
def recordFailure
    (t : NeighborTable)
    (a : Address)
    (transmissions : UInt8) :
    Except Fault (Bool × NeighborTable) := do
  let entries ←
    modifyEntry a
      (fun n =>
        recordCost n
          (LinkEstimate.failureCost transmissions))
      t.entries
  pure (t.contains a, { t with entries := entries })

theorem recordFailure_eq
    {t : NeighborTable}
    (hIntact : t.Intact)
    (a : Address)
    (transmissions : UInt8) :
    recordFailure t a transmissions =
      .ok (t.recordFailure a transmissions) := by
  have hEntries :=
    modifyEntry_eq a
      (fun n hMem =>
        recordCost_eq (hIntact n hMem)
          (LinkEstimate.failureCost transmissions))
  unfold recordFailure
  rw [hEntries]
  rfl

------------------------------------------------------------
-- Conclusions of Transmissions
------------------------------------------------------------

/- Note an acknowledgement. -/
def noteAcknowledged
    (neighbors : NeighborTable)
    (receiver : Address)
    (transmissions : UInt8) :
    Except Fault NeighborTable := do
  match ← recordSuccess neighbors receiver transmissions with
  | (true, updated) => pure updated
  | (false, _) =>
      match neighbors.add receiver Metric.unreachable with
      | (.added, extended) => do
          let noted ←
            recordSuccess extended receiver transmissions
          pure noted.2
      | (_, same) => pure same

theorem noteAcknowledged_eq
    {neighbors : NeighborTable}
    (hIntact : neighbors.Intact)
    (receiver : Address)
    (transmissions : UInt8) :
    noteAcknowledged neighbors receiver transmissions =
      .ok
        (Connection.noteAcknowledged neighbors receiver
          transmissions) := by
  have hAdded := hIntact.add receiver Metric.unreachable
  unfold noteAcknowledged Connection.noteAcknowledged
  rw [recordSuccess_eq hIntact]
  rcases neighbors.recordSuccess receiver transmissions with
    ⟨known, updated⟩
  cases known with
  | true => rfl
  | false =>
      rcases hAdd :
          neighbors.add receiver Metric.unreachable with
        ⟨result, extended⟩
      rw [hAdd] at hAdded
      cases result with
      | added =>
          have hNoted :=
            recordSuccess_eq hAdded receiver transmissions
          simp only [bind, Except.bind, hNoted]
          rfl
      | alreadyExists => rfl
      | tableFull => rfl

/- Learn how the transmission of a packet ended. -/
def concludeTransmission
    (c : Connection)
    (receiver : Address)
    (outcome : TxOutcome)
    (transmissions : UInt8) : Except Fault Outcome :=
  if !c.isOpen then
    pure c.unchanged
  else
    let transmissions := max transmissions 1
    if outcome = .acked then do
      let neighbors ←
        noteAcknowledged c.neighbors receiver transmissions
      pure
        (Connection.thenUpdate
          { c with
            forwarding := false
            neighbors := neighbors
            stats :=
              { c.stats with txOk := c.stats.txOk + 1 } }
          [])
    else do
      let noted ←
        recordFailure c.neighbors receiver transmissions
      pure
        (Connection.thenUpdate
          { c with
            forwarding := false
            neighbors := noted.2
            stats :=
              { c.stats with
                txFailed := c.stats.txFailed + 1 } }
          [])

theorem concludeTransmission_eq
    {c : Connection}
    (hIntact : c.Intact)
    (receiver : Address)
    (outcome : TxOutcome)
    (transmissions : UInt8) :
    concludeTransmission c receiver outcome transmissions =
      .ok
        (c.concludeTransmission receiver outcome
          transmissions) := by
  unfold concludeTransmission
    Connection.concludeTransmission
  by_cases hClosed : (!c.isOpen) = true
  · rw [if_pos hClosed, if_pos hClosed]
    rfl
  · rw [if_neg hClosed, if_neg hClosed]
    by_cases hAcked : outcome = .acked
    · simp only [if_pos hAcked]
      rw [noteAcknowledged_eq hIntact.links]
      rfl
    · simp only [if_neg hAcked]
      rw [recordFailure_eq hIntact.links]
      rfl

------------------------------------------------------------
-- Packets
------------------------------------------------------------

/- Remember a packet unless it is remembered already. -/
def acceptId
    (r : RecentPackets)
    (id : PacketId) :
    Except Fault (Bool × RecentPackets) :=
  if r.seen id then
    pure (false, r)
  else do
    let ring ← push r.ring (some id)
    pure (true, ⟨ring⟩)

theorem acceptId_eq
    {r : RecentPackets}
    (hBounds : r.ring.InBounds)
    (id : PacketId) :
    acceptId r id = .ok (r.accept id) := by
  unfold acceptId RecentPackets.accept
  by_cases hSeen : r.seen id = true
  · rw [if_pos hSeen, if_pos hSeen]
    rfl
  · rw [if_neg hSeen, if_neg hSeen, push_eq hBounds]
    rfl

/- A packet one hop further on. -/
def advance
    (packet : Packet) : Except Fault Packet := do
  let ttl ← decrement packet.ttl
  pure
    { packet with
      hops := Connection.nextByte packet.hops
      ttl := ttl }

theorem advance_eq
    {packet : Packet}
    (hLasts : ¬ packet.ttl ≤ 1) :
    advance packet = .ok (Connection.advance packet) := by
  have hSome : packet.ttl ≠ 0 := by
    intro hZero
    rw [hZero] at hLasts
    exact hLasts (by decide)
  unfold advance decrement
  rw [if_neg hSome]
  rfl

/- Take a packet that is new to the node. -/
def accept
    (c : Connection)
    (answer : Answer)
    (sender : Address)
    (packet : Packet) : Except Fault Outcome :=
  if c.role = .sink then
    pure (c.deliver packet .done)
  else if packet.ttl ≤ 1 then
    pure
      { c.unchanged with
        connection :=
          { c with
            stats :=
              { c.stats with
                ttlDrops := c.stats.ttlDrops + 1 } } }
  else if c.metric = Metric.unreachable then
    pure c.countNoRoute.unchanged
  else do
    let advanced ← advance packet
    pure (c.relay answer sender advanced)

theorem accept_eq
    (c : Connection)
    (answer : Answer)
    (sender : Address)
    (packet : Packet) :
    accept c answer sender packet =
      .ok (c.accept answer sender packet) := by
  unfold accept Connection.accept
  by_cases hSink : c.role = .sink
  · rw [if_pos hSink, if_pos hSink]
    rfl
  rw [if_neg hSink, if_neg hSink]
  by_cases hSpent : packet.ttl ≤ 1
  · rw [if_pos hSpent, if_pos hSpent]
    rfl
  rw [if_neg hSpent, if_neg hSpent]
  by_cases hNoRoute : c.metric = Metric.unreachable
  · rw [if_pos hNoRoute, if_pos hNoRoute]
    rfl
  rw [if_neg hNoRoute, if_neg hNoRoute, advance_eq hSpent]
  rfl

/- Take a data packet that came from a neighbor. -/
def receive
    (c : Connection)
    (answer : Answer)
    (sender : Address)
    (packet : Packet) : Except Fault Outcome :=
  if !c.isOpen then
    pure c.unchanged
  else do
    match ← acceptId c.recent packet.id with
    | (false, _) =>
        pure
          { c.unchanged with
            connection :=
              { c with
                stats :=
                  { c.stats with
                    duplicatesDropped :=
                      c.stats.duplicatesDropped + 1 } } }
    | (true, recent) =>
        accept { c with recent := recent } answer sender
          packet

theorem receive_eq
    {c : Connection}
    (hIntact : c.Intact)
    (answer : Answer)
    (sender : Address)
    (packet : Packet) :
    receive c answer sender packet =
      .ok (c.receive answer sender packet) := by
  unfold receive Connection.receive
  by_cases hClosed : (!c.isOpen) = true
  · rw [if_pos hClosed, if_pos hClosed]
    rfl
  rw [if_neg hClosed, if_neg hClosed,
    acceptId_eq hIntact.recent]
  rcases c.recent.accept packet.id with ⟨fresh, recent⟩
  cases fresh with
  | false => rfl
  | true => exact accept_eq _ answer sender packet

------------------------------------------------------------
-- All Operations
------------------------------------------------------------

/- Take notice of an event. -/
def handle
    (c : Connection)
    (answer : Answer)
    (event : Event) : Except Fault Outcome :=
  match event with
  | .received sender packet => receive c answer sender packet
  | .sent receiver outcome transmissions =>
      concludeTransmission c receiver outcome transmissions
  | .announced sender metric => pure (c.hear sender metric)
  | .elapsed time => pure (c.tick time)

/- Do one operation. -/
def perform
    (c : Connection)
    (answer : Answer)
    (operation : Operation) : Except Fault Outcome :=
  match operation with
  | .openOn channel => pure (c.openOn answer channel)
  | .close => pure c.close
  | .setSink on => pure (c.setSink on)
  | .send payload maxRexmit =>
      pure (c.send answer payload maxRexmit)
  | .handle event => handle c answer event

/- All guards of an intact connection are passed. -/
theorem perform_eq
    {c : Connection}
    (hIntact : c.Intact)
    (answer : Answer)
    (operation : Operation) :
    perform c answer operation =
      .ok (c.perform answer operation) := by
  cases operation with
  | openOn channel => rfl
  | close => rfl
  | setSink on => rfl
  | send payload maxRexmit => rfl
  | handle event =>
      cases event with
      | received sender packet =>
          exact receive_eq hIntact answer sender packet
      | sent receiver outcome transmissions =>
          exact concludeTransmission_eq hIntact receiver
            outcome transmissions
      | announced sender metric => rfl
      | elapsed time => rfl

end Guarded

------------------------------------------------------------
-- Connections Stay Intact
------------------------------------------------------------

namespace Connection

theorem Intact.thenUpdate
    {c : Connection}
    (hIntact : c.Intact)
    (effects : List Effect) :
    (c.thenUpdate effects).connection.Intact where
  recent := by
    rw [eq_of_thenUpdate Connection.recent c effects rfl]
    exact hIntact.recent
  links := by
    rw [eq_of_thenUpdate Connection.neighbors c effects rfl]
    exact hIntact.links

theorem Intact.remember
    {c : Connection}
    (hIntact : c.Intact)
    (packet : Packet) :
    (c.remember packet).Intact where
  recent := hIntact.recent.push (some packet.id)
  links := hIntact.links

theorem Intact.reception
    {c : Connection}
    (hIntact : c.Intact)
    {answer : Answer}
    {sender : Address}
    {packet : Packet}
    {outcome : Outcome}
    (hReception :
      Reception c answer sender packet outcome) :
    outcome.connection.Intact := by
  have hRemembered := hIntact.remember packet
  cases hReception with
  | duplicate => exact { hIntact with }
  | _ => exact { hRemembered with }

theorem Intact.concluded
    {c : Connection}
    (hIntact : c.Intact)
    (receiver : Address)
    (outcome : TxOutcome)
    (transmissions : UInt8) :
    (c.concluded receiver outcome transmissions).Intact := by
  unfold Connection.concluded
  split
  · refine { hIntact with links := ?_ }
    rw [noteAcknowledged_eq_upsert]
    exact hIntact.links.upsert
      (LinkEstimate.intact_fresh.record _)
      (fun _ hLink => hLink.record _)
  · exact
      { hIntact with
        links :=
          hIntact.links.modify receiver
            (fun _ hLink => hLink.record _) }

theorem Intact.informed
    {c : Connection}
    (hIntact : c.Intact)
    (sender : Address)
    (metric : Metric) :
    (c.informed sender metric).Intact := by
  refine { hIntact with links := ?_ }
  unfold Connection.informed
  rw [noteAnnounced_eq_upsert]
  exact hIntact.links.upsert LinkEstimate.intact_fresh
    (fun _ hLink => hLink)

/- No operation moves a cursor out of its memory. -/
theorem Step.intact
    {c : Connection}
    {answer : Answer}
    {operation : Operation}
    {outcome : Outcome}
    (hStep : Step c answer operation outcome)
    (hIntact : c.Intact) :
    outcome.connection.Intact := by
  have hAged :
      ∀ time, (c.aged time).Intact := fun time =>
    { hIntact with links := hIntact.links.tick time }
  cases hStep with
  | opened => exact { hIntact with }
  | closed => exact { hIntact with }
  | assigned on =>
      have hAssigned : (c.assigned on).Intact :=
        { hIntact with }
      exact hAssigned.thenUpdate _
  | sent _ payload maxRexmit outcome hSending =>
      cases hSending <;> exact { hIntact with }
  | received _ sender packet outcome hReception =>
      exact hIntact.reception hReception
  | concluded _ receiver outcome transmissions =>
      exact (hIntact.concluded receiver outcome
        transmissions).thenUpdate []
  | informed _ sender _ metric =>
      exact (hIntact.informed sender metric).thenUpdate []
  | aged _ time => exact hAged time
  | thinned _ time => exact (hAged time).thenUpdate []
  | _ => exact hIntact

end Connection

end CollectionTree
