import CollectionTree.Proofs.Simulation.Moves

/-
  Readings come down a line in waves.

  Key definitions include:
    * `Simulation.Round`
    * `Simulation.Stage`
    * `Simulation.Round.agenda`
    * `Simulation.Round.awaited`

  Key theorems include:
    * `Simulation.Round.agenda_report`
    * `Simulation.Round.agenda_arrival`
    * `Simulation.Round.agenda_next`
    * `Simulation.Round.sent_mem_agenda`
    * `Simulation.Round.awaited_of_end`

  All nodes send in the same step.  In each wave, from the
  sink to the end of the line, every node gets a packet from
  the node after it.  That node is told that its packet has
  arrived, and only then gets the next one.
-/

namespace CollectionTree

namespace Simulation

------------------------------------------------------------
-- Rounds
------------------------------------------------------------

/- The readings of all nodes in one step. -/
structure Round where
  setup : Setup
  seqno : UInt8
  step : Nat

namespace Round

/- How many nodes there are. -/
def count
    (r : Round) : Nat :=
  r.setup.nodeCount.toNat

/-
  The packet that a node gets in a wave: that of the node as
  many hops after it as there were waves.
-/
def packet
    (r : Round)
    (wave place : Nat) : Packet :=
  { originator := addressOf (place + wave)
    sender := addressOf (place + 1)
    receiver := addressOf place
    seqno := r.seqno
    hops := wave.toUInt8
    ttl := r.setup.collect.maxHopLimit + 1 - wave.toUInt8
    maxRexmit := r.setup.maxRexmit
    payload := reading r.step (addressOf (place + wave)) }

/-
  A node gets a packet in a wave, and then the node after it
  is told.  Readings are sent in wave 0, when nothing
  arrives yet.
-/
def hop
    (r : Round) :
    Nat → Nat → List (Nat × Event)
  | 0, _ => []
  | wave + 1, place =>
      [ (place,
          .received (addressOf (place + 1))
            (r.packet (wave + 1) place)),
        (place + 1, .sent (addressOf place) .acked 1) ]

/- What happens in a wave at some nodes in a row. -/
def hops
    (r : Round)
    (wave first last : Nat) : List (Nat × Event) :=
  (List.range' first (last - first)).flatMap (r.hop wave)

theorem hops_append
    (r : Round)
    (wave : Nat)
    {first middle last : Nat}
    (hFirst : first ≤ middle)
    (hLast : middle ≤ last) :
    r.hops wave first middle ++ r.hops wave middle last =
      r.hops wave first last := by
  have hMiddle : middle = first + (middle - first) := by
    omega
  have hLength :
      last - first = middle - first + (last - middle) := by
    omega
  unfold hops
  rw [← List.flatMap_append, hLength,
    ← List.range'_append_1]
  congr 3

@[simp] theorem hops_self
    (r : Round)
    (wave place : Nat) :
    r.hops wave place place = [] := by
  unfold hops
  rw [Nat.sub_self]
  rfl

@[simp] theorem hops_one
    (r : Round)
    (wave place : Nat) :
    r.hops wave place (place + 1) = r.hop wave place := by
  unfold hops
  rw [Nat.add_sub_cancel_left]
  simp

theorem hops_zero
    (r : Round)
    (first last : Nat) :
    r.hops 0 first last = [] :=
  List.flatMap_eq_nil_iff.mpr (fun _ _ => rfl)

theorem hops_eq_nil_iff
    (r : Round)
    (wave first last : Nat) :
    r.hops (wave + 1) first last = [] ↔ last ≤ first := by
  unfold hops
  rw [List.flatMap_eq_nil_iff]
  constructor
  · intro hNone
    apply Nat.le_of_not_lt
    intro hLess
    have hMem : first ∈ List.range' first (last - first) := by
      rw [List.mem_range'_1]
      omega
    exact absurd (hNone first hMem) (List.cons_ne_nil _ _)
  · intro hLess place hMem
    rw [Nat.sub_eq_zero_of_le hLess] at hMem
    contradiction

/- Nodes in a row are told that their packets arrived. -/
theorem sent_mem_hops
    {r : Round}
    {wave first last index : Nat}
    {receiver : Address}
    {outcome : TxOutcome}
    {transmissions : UInt8}
    (hMem :
      (index, .sent receiver outcome transmissions) ∈
        r.hops wave first last) :
    ∃ place, first ≤ place ∧ place < last ∧
      index = place + 1 ∧ receiver = addressOf place ∧
      outcome = .acked ∧ transmissions = 1 := by
  rcases List.mem_flatMap.mp hMem with ⟨place, hPlace, hHop⟩
  rw [List.mem_range'_1] at hPlace
  cases wave with
  | zero => contradiction
  | succ wave =>
      simp only [hop, List.mem_cons, Prod.mk.injEq,
        reduceCtorEq, and_false, false_or, Event.sent.injEq,
        List.not_mem_nil, or_false] at hHop
      obtain ⟨rfl, rfl, rfl, rfl⟩ := hHop
      exact
        ⟨place, hPlace.1, by omega, rfl, rfl, rfl, rfl⟩

/- The hop budget of a packet goes down by one a wave. -/
theorem toNat_ttl
    (r : Round)
    {wave : Nat}
    (hSome : 1 ≤ wave)
    (hBound : wave ≤ r.setup.collect.maxHopLimit.toNat)
    (place : Nat) :
    (r.packet wave place).ttl.toNat =
      r.setup.collect.maxHopLimit.toNat + 1 - wave := by
  have hOne : UInt8.toNat 1 = 1 := rfl
  have hByte := UInt8.toNat_lt r.setup.collect.maxHopLimit
  unfold packet
  simp only [UInt8.toNat_sub, UInt8.toNat_add, hOne,
    Nat.toUInt8_eq, UInt8.toNat_ofNat']
  omega

/- What a node hands over is what the node before it gets. -/
theorem packet_relayed
    (r : Round)
    {wave : Nat}
    (hFew : wave < 255)
    (place : Nat) :
    { Connection.advance (r.packet wave (place + 1)) with
        sender := addressOf (place + 1)
        receiver := addressOf place } =
      r.packet (wave + 1) place := by
  have hNext : (wave + 1).toUInt8 = wave.toUInt8 + 1 := by
    simp
  have hHops :
      Connection.nextByte wave.toUInt8 =
        (wave + 1).toUInt8 := by
    rw [← UInt8.toNat_inj, Connection.toNat_nextByte]
    simp only [Nat.toUInt8_eq, UInt8.toNat_ofNat']
    omega
  have hTtl :
      r.setup.collect.maxHopLimit + 1 - wave.toUInt8 - 1 =
        r.setup.collect.maxHopLimit + 1 -
          (wave + 1).toUInt8 := by
    have hOne : UInt8.toNat 1 = 1 := rfl
    have hByte := UInt8.toNat_lt wave.toUInt8
    rw [hNext, ← UInt8.toNat_inj]
    simp only [UInt8.toNat_sub, UInt8.toNat_add, hOne]
    omega
  have hOrigin : place + 1 + wave = place + (wave + 1) := by
    omega
  unfold Connection.advance Round.packet
  simp only [hHops, hTtl, hOrigin]

end Round

------------------------------------------------------------
-- Stages
------------------------------------------------------------

/-
  How far a wave is: the nodes before a place have got their
  packets.  Halfway, the node at the place is yet to be told
  that its own packet arrived.
-/
structure Stage where
  wave : Nat
  place : Nat
  halfway : Bool

/- Before anything is sent. -/
def Stage.rest : Stage :=
  ⟨0, 0, false⟩

/-
  A wave goes as far as there are packets from further
  behind, and the sink is told of nothing.
-/
structure Stage.Within
    (r : Round)
    (g : Stage) : Prop where
  sent : 1 ≤ g.wave
  bound : g.wave + g.place ≤ r.count
  told : g.halfway = true → 1 ≤ g.place

/- Whether a node has handled the packet of an originator. -/
def Stage.Passed
    (g : Stage)
    (index origin : Nat) : Prop :=
  origin < index + g.wave ∨
    origin = index + g.wave ∧ index < g.place

instance
    (g : Stage)
    (index origin : Nat) :
    Decidable (g.Passed index origin) :=
  inferInstanceAs
    (Decidable
      (origin < index + g.wave ∨
        origin = index + g.wave ∧ index < g.place))

namespace Round

/- The events about packets that are yet to be handled. -/
def agenda
    (r : Round)
    (g : Stage) : List (Nat × Event) :=
  (if g.halfway then
    [(g.place, .sent (addressOf (g.place - 1)) .acked 1)]
  else
    []) ++
    r.hops g.wave g.place (r.count - g.wave) ++
    r.hops (g.wave + 1) 0 (g.place - 1)

/- The sequence number that a node expects of another. -/
def awaited
    (r : Round)
    (g : Stage)
    (index origin : Nat) : UInt8 :=
  if g.Passed index origin then r.seqno + 1 else r.seqno

@[simp] theorem agenda_rest
    (r : Round) :
    r.agenda Stage.rest = [] := by
  unfold agenda Stage.rest
  rw [hops_zero]
  rfl

/- A node that got its packet passes it on. -/
theorem agenda_arrival
    (r : Round)
    {wave place : Nat}
    (hPlace : wave + 1 + place < r.count) :
    ∃ rest,
      r.agenda ⟨wave + 1, place, false⟩ =
          (place,
              .received (addressOf (place + 1))
                (r.packet (wave + 1) place)) ::
            rest ∧
        r.agenda ⟨wave + 1, place + 1, true⟩ =
          rest ++ r.hops (wave + 2) (place - 1) place := by
  have hWave :=
    r.hops_append (wave + 1) (Nat.le_succ place)
      (show place + 1 ≤ r.count - (wave + 1) by omega)
  have hNext :=
    r.hops_append (wave + 2) (Nat.zero_le (place - 1))
      (Nat.sub_le place 1)
  rw [hops_one] at hWave
  refine
    ⟨(place + 1, .sent (addressOf place) .acked 1) ::
      (r.hops (wave + 1) (place + 1)
          (r.count - (wave + 1)) ++
        r.hops (wave + 2) 0 (place - 1)), ?_, ?_⟩
  · unfold agenda
    simp only [← hWave]
    rfl
  · unfold agenda
    simp only [Nat.add_sub_cancel, ← hNext,
      List.append_assoc, List.cons_append]
    rfl

/- A node that sends its reading adds to the first wave. -/
theorem agenda_report
    (r : Round)
    (place : Nat) :
    r.agenda ⟨0, place + 1, false⟩ =
      r.agenda ⟨0, place, false⟩ ++
        r.hops 1 (place - 1) place := by
  have hNext :=
    r.hops_append 1 (Nat.zero_le (place - 1))
      (Nat.sub_le place 1)
  unfold agenda
  simp only [hops_zero, Nat.add_sub_cancel, ← hNext]
  rfl

/- The end of a wave is the beginning of the next one. -/
theorem agenda_next
    (r : Round)
    {wave place : Nat}
    (hEnd : wave + place = r.count) :
    r.agenda ⟨wave + 1, 0, false⟩ =
      r.agenda ⟨wave, place, false⟩ := by
  have hPlace : r.count - wave = place := by
    omega
  have hLast : r.count - (wave + 1) = place - 1 := by
    omega
  unfold agenda
  simp only [hPlace, hLast, hops_self]
  simp

/-
  Nodes are told of the nodes before them.  Unless the stage
  is halfway, the node at the place is not told of anything.
-/
theorem sent_mem_agenda
    {r : Round}
    {g : Stage}
    (hTold : g.halfway = true → 1 ≤ g.place)
    {index : Nat}
    {receiver : Address}
    {outcome : TxOutcome}
    {transmissions : UInt8}
    (hMem :
      (index, .sent receiver outcome transmissions) ∈
        r.agenda g) :
    (∃ before, index = before + 1 ∧
      receiver = addressOf before) ∧
      outcome = .acked ∧ transmissions = 1 ∧
      (g.halfway = false → index ≠ g.place) := by
  unfold agenda at hMem
  rw [List.mem_append, List.mem_append] at hMem
  rcases hMem with (hFirst | hWave) | hNext
  · by_cases hHalf : g.halfway = true
    · rw [if_pos hHalf, List.mem_singleton] at hFirst
      simp only [Prod.mk.injEq, Event.sent.injEq] at hFirst
      obtain ⟨rfl, rfl, rfl, rfl⟩ := hFirst
      have hSome := hTold hHalf
      refine ⟨⟨g.place - 1, by omega, rfl⟩, rfl, rfl, ?_⟩
      intro hWhole
      rw [hHalf] at hWhole
      contradiction
    · rw [if_neg hHalf] at hFirst
      contradiction
  · rcases sent_mem_hops hWave with
      ⟨place, hAfter, -, hIndex, hReceiver, hAcked, hOne⟩
    exact
      ⟨⟨place, hIndex, hReceiver⟩, hAcked, hOne,
        fun _ => by omega⟩
  · rcases sent_mem_hops hNext with
      ⟨place, -, hBefore, hIndex, hReceiver, hAcked, hOne⟩
    exact
      ⟨⟨place, hIndex, hReceiver⟩, hAcked, hOne,
        fun _ => by omega⟩

------------------------------------------------------------
-- Sequence Numbers
------------------------------------------------------------

/- Only the node at the place handles a packet. -/
theorem awaited_succ
    (r : Round)
    {wave place index origin : Nat}
    (hOther : ¬ (index = place ∧ origin = place + wave))
    (halfway further : Bool) :
    r.awaited ⟨wave, place + 1, further⟩ index origin =
      r.awaited ⟨wave, place, halfway⟩ index origin := by
  have hSame :
      Stage.Passed ⟨wave, place + 1, further⟩ index origin ↔
        Stage.Passed ⟨wave, place, halfway⟩ index
          origin := by
    unfold Stage.Passed
    simp only
    omega
  unfold awaited
  simp only [hSame]

/- The packet that arrives is the one that is awaited. -/
theorem awaited_place
    (r : Round)
    (wave place : Nat)
    (halfway : Bool) :
    r.awaited ⟨wave, place, halfway⟩ place (place + wave) =
      r.seqno := by
  apply if_neg
  unfold Stage.Passed
  simp only
  omega

theorem awaited_passed
    (r : Round)
    (wave place : Nat)
    (halfway : Bool) :
    r.awaited ⟨wave, place + 1, halfway⟩ place
        (place + wave) =
      r.seqno + 1 :=
  if_pos (Or.inr ⟨rfl, Nat.lt_succ_self place⟩)

theorem awaited_next
    (r : Round)
    {wave place index origin : Nat}
    (hEnd : wave + place = r.count)
    (hOrigin : origin < r.count) :
    r.awaited ⟨wave + 1, 0, false⟩ index origin =
      r.awaited ⟨wave, place, false⟩ index origin := by
  have hSame :
      Stage.Passed ⟨wave + 1, 0, false⟩ index origin ↔
        Stage.Passed ⟨wave, place, false⟩ index origin := by
    unfold Stage.Passed
    simp only
    omega
  unfold awaited
  simp only [hSame]

theorem awaited_rest
    (r : Round)
    {index origin : Nat}
    (hOrigin : index ≤ origin) :
    r.awaited Stage.rest index origin = r.seqno := by
  apply if_neg
  unfold Stage.Passed Stage.rest
  simp only
  omega

/- When nothing is left to be done, all packets came. -/
theorem awaited_of_end
    {r : Round}
    {g : Stage}
    (hWithin : g.Within r)
    (hEnd : r.agenda g = [])
    {index origin : Nat}
    (hOrigin : origin < r.count) :
    r.awaited g index origin = r.seqno + 1 := by
  have hSent := hWithin.sent
  unfold agenda at hEnd
  rw [List.append_eq_nil_iff, List.append_eq_nil_iff] at hEnd
  obtain ⟨⟨-, hWave⟩, hNext⟩ := hEnd
  obtain ⟨wave, hSome⟩ := Nat.exists_eq_add_one.mpr hSent
  rw [hSome, hops_eq_nil_iff] at hWave
  rw [hops_eq_nil_iff] at hNext
  have hBound := hWithin.bound
  apply if_pos
  unfold Stage.Passed
  omega

end Round

end Simulation

end CollectionTree
