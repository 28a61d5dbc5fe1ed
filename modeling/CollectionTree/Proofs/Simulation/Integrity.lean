import CollectionTree.Proofs.Simulation.Passages
import Mathlib.Data.List.Perm.Subperm

/-
  What the sink receives is what was sent, and it receives
  nothing twice.

  Key definitions include:
    * `Stamp`
    * `Reading.Sources`
    * `Simulation.stamps`
    * `Simulation.Accounted`

  Key theorems include:
    * `Simulation.Passage.accounted`
    * `Simulation.accounted_journal`
    * `Simulation.payloads_stampsIn`
    * `Simulation.deliveries_stem_from_readings`

  Passing a packet on changes its hops and its sender, but
  not who originated it, its number and its payload.  These
  are given once to every reading that is sent, and then
  they are only moved or lost.
-/

namespace CollectionTree

------------------------------------------------------------
-- Stamps
------------------------------------------------------------

/- What a packet keeps on its way. -/
structure Stamp where
  originator : Address
  seqno : UInt8
  payload : List UInt8
  deriving DecidableEq, Repr

def Packet.stamp
    (p : Packet) : Stamp :=
  ⟨p.originator, p.seqno, p.payload⟩

def Delivery.stamp
    (d : Delivery) : Stamp :=
  ⟨d.originator, d.seqno, d.payload⟩

def Reading.stamp
    (r : Reading) : Stamp :=
  ⟨Simulation.addressOf r.index, r.seqno, r.payload⟩

/- Whether a reading was handed over for its first hop. -/
def Reading.isForwarded
    (r : Reading) : Bool :=
  match r.reply with
  | .sent (.forwarded _) => true
  | _ => false

theorem Reading.isForwarded_iff
    {r : Reading} :
    r.isForwarded = true ↔
      ∃ nextHop, r.reply = .sent (.forwarded nextHop) := by
  unfold isForwarded
  split
  next nextHop hReply => simp [hReply]
  next hOther =>
    constructor
    · intro hTrue
      contradiction
    · intro hForwarded
      rcases hForwarded with ⟨nextHop, hReply⟩
      exact absurd hReply (hOther nextHop)

/- The stamps of the readings that were handed over. -/
def stampsIn
    (entries : List Entry) : List Stamp :=
  ((readingsIn entries).filter Reading.isForwarded).map
    Reading.stamp

theorem stampsIn_append
    (entries more : List Entry) :
    stampsIn (entries ++ more) =
      stampsIn entries ++ stampsIn more := by
  unfold stampsIn
  rw [readingsIn_append, List.filter_append,
    List.map_append]

/- A reading that was handed over is given its stamp. -/
theorem stampsIn_originated
    {r : Reading}
    {nextHop : Address}
    (hReply : r.reply = .sent (.forwarded nextHop))
    (handover : Handover) :
    stampsIn [.sent r, .handed r.index handover] =
      [r.stamp] := by
  have hForwarded : r.isForwarded = true :=
    Reading.isForwarded_iff.mpr ⟨_, hReply⟩
  simp [stampsIn, readingsIn, Entry.reading?, hForwarded]

/-
  A delivery stems from a reading: a node other than the
  sink sent it, with the number and the payload received.
-/
structure Reading.Sources
    (size : Nat)
    (r : Reading)
    (d : Delivery) : Prop where
  other : r.index ≠ 0
  exists_node : r.index < size
  forwarded : ∃ nextHop, r.reply = .sent (.forwarded nextHop)
  originator :
    d.originator = Simulation.addressOf r.index
  seqno : d.seqno = r.seqno
  payload : d.payload = r.payload
  text :
    r.payload =
      Simulation.reading r.step
        (Simulation.addressOf r.index)

namespace Simulation

variable {γ : Type}

------------------------------------------------------------
-- Stamps Are Moved or Lost
------------------------------------------------------------

/- The stamps on their way, and those that were received. -/
def stamps
    (s : Simulation γ) : List Stamp :=
  s.underWay.map Packet.stamp ++
    s.deliveries.map Delivery.stamp

/- Every stamp was given to a reading that was sent. -/
def Accounted
    (entries : List Entry)
    (s : Simulation γ) : Prop :=
  s.stamps.Subperm (stampsIn entries)

/- A packet that is on its way no more was received. -/
theorem stamps_of_left
    {s t : Simulation γ}
    {packet : Packet}
    (received : List Delivery)
    (hLeft : s.underWay.Perm (packet :: t.underWay))
    (hDeliveries : t.deliveries = s.deliveries ++ received) :
    (packet.stamp :: t.stamps).Perm
      (s.stamps ++ received.map Delivery.stamp) := by
  unfold stamps
  rw [hDeliveries, List.map_append, ← List.append_assoc,
    ← List.cons_append, ← List.cons_append]
  apply List.Perm.append_right
  apply List.Perm.append_right
  exact (hLeft.map Packet.stamp).symm

/- A packet that was put on its way. -/
theorem stamps_of_added
    {s t : Simulation γ}
    {packet : Packet}
    (hAdded : t.underWay.Perm (packet :: s.underWay))
    (hDeliveries : t.deliveries = s.deliveries) :
    t.stamps.Perm (packet.stamp :: s.stamps) := by
  unfold stamps
  rw [hDeliveries, ← List.cons_append]
  apply List.Perm.append_right
  exact hAdded.map Packet.stamp

/- A passage adds the stamp of a new reading at most. -/
theorem Passage.stamps_subperm
    {s t : Simulation γ}
    {entries : List Entry}
    (hPassage : Passage s t entries) :
    t.stamps.Subperm (s.stamps ++ stampsIn entries) := by
  cases hPassage with
  | kept hSame hDeliveries =>
      have hPerm : t.stamps.Perm s.stamps := by
        unfold stamps
        rw [hDeliveries]
        exact (hSame.map Packet.stamp).append_right _
      exact hPerm.subperm.trans
        (List.sublist_append_left _ _).subperm
  | ended packet hLeft hDeliveries =>
      have hPerm :=
        stamps_of_left [] hLeft
          (by rw [hDeliveries, List.append_nil])
      exact (List.sublist_cons_self _ _).subperm.trans
        hPerm.subperm
  | delivered packet hLeft hDelivered =>
      have hPerm := stamps_of_left _ hLeft hDelivered
      have hSame :
          (packet.stamp :: t.stamps).Perm
            (packet.stamp :: s.stamps) :=
        hPerm.trans List.perm_append_comm
      exact hSame.cons_inv.subperm.trans
        (List.sublist_append_left _ _).subperm
  | relayed index packet handover rest hFound hTtl hPacket
      hPassedOn hDeliveries =>
      have hStamp : handover.packet.stamp = packet.stamp := by
        rw [hPacket]
        rfl
      have hPerm : t.stamps.Perm s.stamps := by
        unfold stamps
        rw [hDeliveries]
        apply List.Perm.append_right
        apply (hPassedOn.map Packet.stamp).trans
        rw [List.map_cons, hStamp]
        exact (hFound.map Packet.stamp).symm
      exact hPerm.subperm.trans
        (List.sublist_append_left _ _).subperm
  | unrouted r hReply hSame hDeliveries =>
      unfold stamps
      rw [hSame, hDeliveries]
      exact (List.sublist_append_left _ _).subperm
  | originated r handover hReply hPacket hAdded
      hDeliveries =>
      have hStamp : handover.packet.stamp = r.stamp := by
        rw [hPacket]
        rfl
      have hPerm := stamps_of_added hAdded hDeliveries
      rw [stampsIn_originated hReply, ← hStamp]
      exact (hPerm.trans
        (List.perm_append_singleton _ _).symm).subperm

theorem Passage.accounted
    {s t : Simulation γ}
    {entries more : List Entry}
    (hPassage : Passage s t more)
    (hAccounted : s.Accounted entries) :
    t.Accounted (entries ++ more) := by
  unfold Accounted
  rw [stampsIn_append]
  exact hPassage.stamps_subperm.trans
    ((List.subperm_append_right _).mpr hAccounted)

------------------------------------------------------------
-- Stamps Are Given Once
------------------------------------------------------------

/- Nothing is on its way at the start of a run. -/
theorem underWay_start
    (setup : Setup)
    (losses : γ) :
    (start setup losses).underWay = [] := by
  have hNone :
      (firstRequests setup).filterMap Request.handover? =
        [] := by
    rw [List.filterMap_eq_nil_iff]
    intro request hMem
    have hOther := (mem_firstRequests hMem).2
    cases request with
    | unicast sender handover => contradiction
    | _ => rfl
  unfold underWay
  rw [outbox_start, events_start, packetsAsked_eq_nil hNone]
  rfl

theorem deliveries_start
    (setup : Setup)
    (losses : γ) :
    (start setup losses).deliveries = [] := by
  unfold deliveries
  rw [nodes_start]
  by_cases hSome : 0 < setup.nodeCount.toNat
  · rw [if_pos hSome]
    rfl
  · rw [if_neg hSome]

section Runs

variable [LossSource γ]

theorem accounted_journal
    (setup : Setup)
    (losses : γ)
    (steps turns : Nat) :
    ((run steps (start setup losses)).begun.pump
        turns).Accounted
      (journal steps turns (start setup losses)) := by
  have hStart :
      (start setup losses).Configured ∧
        (start setup losses).Accounted [] := by
    refine ⟨configured_start setup losses, ?_⟩
    unfold Accounted stamps
    rw [underWay_start, deliveries_start]
    exact (List.Perm.refl _).subperm
  have hRun :=
    (records_journal steps turns
        (start setup losses)).invariant
      (P := fun entries s =>
        s.Configured ∧ s.Accounted entries)
      ?_ (sound_start setup losses) hStart
  · exact hRun.2
  · intro entries more s t hSound hHeld hNoted
    have hPassage := hNoted.passage hSound hHeld.1
    exact
      ⟨(hNoted.next.move hSound).configured hHeld.1,
        hPassage.accounted hHeld.2⟩

/- No stamp is given to two readings. -/
theorem payloads_stampsIn
    {setup : Setup}
    (losses : γ)
    (hCheck : setup.check = .ok ())
    (steps turns : Nat) :
    ((stampsIn (journal steps turns
      (start setup losses))).map Stamp.payload).Nodup := by
  have hFew :
      (start setup losses).nodes.size ≤ 255 := by
    rw [size_nodes_start]
    exact (bounds_of_check hCheck).2.1
  have hAll :=
    payloads_journal (sound_start setup losses) hFew steps
      turns
  unfold stampsIn
  rw [List.map_map]
  exact (List.filter_sublist.map Reading.payload).nodup hAll

/-
  Every delivery stems from a reading of its own that was
  sent before, and no payload is received twice.
-/
theorem deliveries_stem_from_readings
    (setup : Setup)
    (losses : γ)
    (hCheck : setup.check = .ok ())
    (steps turns : Nat) :
    let s :=
      (run steps (start setup losses)).begun.pump turns
    let sent :=
      readingsIn (journal steps turns (start setup losses))
    (∃ source :
        Fin s.deliveries.length → Fin sent.length,
      Function.Injective source ∧
        ∀ i,
          (sent[source i]).Sources setup.nodeCount.toNat
            (s.deliveries[i])) ∧
      (s.deliveries.map Delivery.payload).Nodup := by
  intro s sent
  have hSound := sound_start setup losses
  have hSize := size_nodes_start setup losses
  have hProper :=
    proper_of_records hSound
      (records_journal steps turns (start setup losses))
  rw [hSize] at hProper
  have hReceived :
      (s.deliveries.map Delivery.stamp).Subperm
        ((sent.filter Reading.isForwarded).map
          Reading.stamp) :=
    (List.sublist_append_right _ _).subperm.trans
      (accounted_journal setup losses steps turns)
  have hNodup : (s.deliveries.map Delivery.payload).Nodup := by
    rcases hReceived with ⟨stamps, hPerm, hSublist⟩
    have hPayloads :=
      (hSublist.map Stamp.payload).nodup
        (payloads_stampsIn losses hCheck steps turns)
    have hSame := hPerm.map Stamp.payload
    rw [List.map_map] at hSame
    exact hSame.nodup_iff.mp hPayloads
  have hSource :
      ∀ i : Fin s.deliveries.length,
        ∃ j : Fin sent.length,
          sent[j].Sources setup.nodeCount.toNat
            s.deliveries[i] := by
    intro i
    have hMem :
        s.deliveries[i].stamp ∈
          (sent.filter Reading.isForwarded).map
            Reading.stamp :=
      hReceived.subset
        (List.mem_map_of_mem (List.getElem_mem _))
    rcases List.mem_map.mp hMem with ⟨r, hR, hStamp⟩
    rcases List.mem_filter.mp hR with ⟨hSent, hForwarded⟩
    rcases List.mem_iff_getElem.mp hSent with
      ⟨j, hBound, hFound⟩
    refine ⟨⟨j, hBound⟩, ?_⟩
    change (sent[j]).Sources _ _
    rw [hFound]
    have hOwn := hProper r hSent
    exact
      { other := hOwn.other
        exists_node := hOwn.exists_node
        forwarded := Reading.isForwarded_iff.mp hForwarded
        originator := (congrArg Stamp.originator hStamp).symm
        seqno := (congrArg Stamp.seqno hStamp).symm
        payload := (congrArg Stamp.payload hStamp).symm
        text := hOwn.payload }
  choose source hStems using hSource
  refine ⟨⟨source, ?_, hStems⟩, hNodup⟩
  intro i i' hSame
  have hPayload :
      s.deliveries[i].payload = s.deliveries[i'].payload := by
    rw [(hStems i).payload, (hStems i').payload, hSame]
  have hBound :
      ∀ k : Fin s.deliveries.length,
        k.val < (s.deliveries.map Delivery.payload).length := by
    intro k
    rw [List.length_map]
    exact k.isLt
  have hGet :
      (s.deliveries.map Delivery.payload).get
          ⟨i, hBound i⟩ =
        (s.deliveries.map Delivery.payload).get
          ⟨i', hBound i'⟩ := by
    simpa using hPayload
  have hIndex := hNodup.get_inj_iff.mp hGet
  exact Fin.ext (Fin.mk.inj hIndex)

end Runs

/- Three readings are received, from two nodes. -/
theorem deliveries_stem_from_readings_of_three :
    let setup : Setup :=
      { Setup.standard with
        nodeCount := 3
        beaconInterval := 1
        messageInterval := 1 }
    let losses := SeededLosses.ofSeed setup.linkLoss 42
    let s := (run 2 (start setup losses)).begun.pump 20
    let sent :=
      readingsIn (journal 2 20 (start setup losses))
    s.deliveries.length = 3 ∧
      sent.length = 6 ∧
      (∃ source :
          Fin s.deliveries.length → Fin sent.length,
        Function.Injective source ∧
          ∀ i,
            (sent[source i]).Sources setup.nodeCount.toNat
              (s.deliveries[i])) ∧
      (s.deliveries.map Delivery.payload).Nodup := by
  intro setup losses s sent
  have hCounts :
      s.deliveries.length = 3 ∧ sent.length = 6 := by
    decide +kernel
  have hCheck : setup.check = .ok () :=
    check_eq_ok_of_isOk (by decide +kernel)
  exact
    ⟨hCounts.1, hCounts.2,
      deliveries_stem_from_readings setup losses hCheck 2 20⟩

end Simulation

end CollectionTree
