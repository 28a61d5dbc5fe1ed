import CollectionTree.Proofs.Ratio
import CollectionTree.Proofs.Simulation.Accounts
import Mathlib.Algebra.Order.BigOperators.Group.List
import Mathlib.Algebra.Order.Group.Nat

/-
  No reading disappears without being counted, and none is
  counted twice.

  Key definitions include:
    * `Simulation.OnlySinkReceives`

  Key theorems include:
    * `Simulation.total_arrived`
    * `Simulation.readings_are_conserved`

  What the accounts of all nodes add up to becomes a fact
  about the sink, since no other node receives a packet.
-/

namespace CollectionTree

namespace Simulation

variable {γ : Type}

------------------------------------------------------------
-- Deliveries
------------------------------------------------------------

/- The application of no node but the sink got a packet. -/
def OnlySinkReceives
    (s : Simulation γ) : Prop :=
  ∀ (index : Nat) (node : Node),
    s.nodes[index]? = some node →
      index ≠ 0 → node.arrived = 0

/- Packets are for the sink. -/
theorem arrived_of_handling
    {index : Nat}
    {node next : Node}
    {event : Event}
    {requests : List Request}
    (hHandling :
      node.Handling index event next requests)
    (hReady : node.Ready index)
    (hOther : index ≠ 0) :
    next.arrived = node.arrived := by
  cases hHandling with
  | echoed => rfl
  | heard _ _ _ _ _ hRerouted =>
      cases hRerouted <;> rfl
  | aged _ _ _ hRerouted => cases hRerouted <;> rfl
  | concluded _ _ _ _ _ hRerouted =>
      cases hRerouted <;> rfl
  | received sender packet outcome hReception =>
      cases hReception with
      | delivered hNew hRole =>
          exact absurd (hReady.role_iff.mp hRole) hOther
      | _ => rfl

theorem arrived_of_reporting
    {index : Nat}
    {node next : Node}
    {packet : Packet}
    {requests : List Request}
    {reply : Reply}
    (hReporting :
      node.Reporting index packet next requests reply) :
    next.arrived = node.arrived := by
  cases hReporting <;> rfl

/- What holds of one node stays true of all of them. -/
theorem OnlySinkReceives.of_set
    {s t : Simulation γ}
    (hOnly : s.OnlySinkReceives)
    {index : Nat}
    {node next : Node}
    (hNode : s.nodes[index]? = some node)
    (hNodes : t.nodes = s.nodes.setIfInBounds index next)
    (hSame : index ≠ 0 → next.arrived = node.arrived) :
    t.OnlySinkReceives := by
  intro other changed hChanged hOther
  rcases node_cases hNodes hChanged with
    ⟨rfl, rfl⟩ | ⟨-, hOld⟩
  · rw [hSame hOther]
    exact hOnly other node hNode hOther
  · exact hOnly other changed hOld hOther

theorem Move.onlySinkReceives
    {s t : Simulation γ}
    (hMove : Move s t)
    (hSound : s.Sound)
    (hOnly : s.OnlySinkReceives) :
    t.OnlySinkReceives := by
  cases hMove with
  | aired hAirs _ =>
      unfold OnlySinkReceives
      rw [hAirs.nodes]
      exact hOnly
  | served request hRouting hOutbox hAirs =>
      unfold OnlySinkReceives
      rw [hAirs.nodes]
      exact hOnly
  | delivered _ _ _ _ _ _ _ _ hNodes =>
      unfold OnlySinkReceives
      rw [hNodes]
      exact hOnly
  | lost _ _ _ _ _ _ hNodes =>
      unfold OnlySinkReceives
      rw [hNodes]
      exact hOnly
  | handled index event node next hDispatched =>
      have hReady :=
        hSound.ready index node hDispatched.found
      exact hOnly.of_set hDispatched.found hDispatched.nodes
        (arrived_of_handling hDispatched.handling hReady)
  | reported index node next requests reply hReported =>
      exact hOnly.of_set hReported.found hReported.nodes
        (fun _ => arrived_of_reporting hReported.reporting)

theorem onlySinkReceives_of_reaches
    [LossSource γ]
    {setup : Setup}
    {losses : γ}
    {s : Simulation γ}
    (hReaches : Reaches (start setup losses) s) :
    s.OnlySinkReceives := by
  have hStart : (start setup losses).OnlySinkReceives := by
    intro index node hNode hOther
    rw [nodes_start] at hNode
    split at hNode
    · rw [← Option.some.inj hNode]
      exact (counts_firstNode setup index).2.1
    · contradiction
  exact
    (hReaches.invariant
      (fun _ _ hSound hOnly hMove =>
        hMove.onlySinkReceives hSound hOnly)
      (sound_start setup losses) hStart).2

/- All packets that arrived are those that node 0 received. -/
theorem total_arrived
    {s : Simulation γ}
    (hOnly : s.OnlySinkReceives) :
    s.total Node.arrived = s.deliveries.length := by
  unfold total deliveries
  cases hNodes : s.nodes.toList with
  | nil =>
      rw [← Array.getElem?_toList, hNodes]
      rfl
  | cons first rest =>
      have hFirst : s.nodes[0]? = some first := by
        rw [← Array.getElem?_toList, hNodes]
        rfl
      have hRest : (rest.map Node.arrived).sum = 0 := by
        rw [List.sum_eq_zero_iff_forall_eq_nat]
        intro n hMem
        rcases List.mem_map.mp hMem with ⟨node, hNode, rfl⟩
        rcases List.getElem?_of_mem hNode with ⟨index, hIndex⟩
        refine hOnly (index + 1) node ?_ (Nat.succ_ne_zero _)
        rw [← Array.getElem?_toList, hNodes]
        exact hIndex
      rw [List.map_cons, List.sum_cons, hRest, hFirst]
      rfl

theorem total_le_total
    {count other : Node → Nat}
    (s : Simulation γ)
    (hLe : ∀ node, count node ≤ other node) :
    s.total count ≤ s.total other :=
  List.sum_le_sum (fun node _ => hLe node)

/- Packets without a next hop are some of the dropped ones. -/
theorem noRouteDrops_le_drops
    (node : Node) :
    node.noRouteDrops ≤ node.drops := by
  unfold Node.noRouteDrops Node.drops
  omega

------------------------------------------------------------
-- Conservation
------------------------------------------------------------

/-
  At every point of a run, a reading that was sent has been
  delivered, dropped at some node or lost on the air, or it
  still waits to be transmitted or to be taken by a node.
-/
theorem readings_are_conserved
    [LossSource γ]
    {setup : Setup}
    {losses : γ}
    {s : Simulation γ}
    (hReaches : Reaches (start setup losses) s) :
    s.traffic.messagesSent =
        s.reportOf.messagesDelivered + s.total Node.drops +
          s.traffic.timeouts + s.unicasts + s.arrivals ∧
      s.reportOf.messagesDelivered +
          s.traffic.messagesNoRoute ≤
        s.traffic.messagesSent ∧
      ¬ 1.0 < s.reportOf.deliveryRate := by
  have hBalanced := balanced_of_reaches hReaches
  have hPackets := hBalanced.packets
  have hUnrouted := hBalanced.unrouted
  have hDrops := s.total_le_total noRouteDrops_le_drops
  have hDelivered :
      s.total Node.arrived = s.reportOf.messagesDelivered :=
    total_arrived (onlySinkReceives_of_reaches hReaches)
  rw [hDelivered] at hPackets
  refine ⟨hPackets, by omega, ?_⟩
  apply not_one_lt_ratio
  change _ ≤ s.traffic.messagesSent
  omega

/- Two readings found no route, one of the others is late. -/
theorem readings_are_conserved_on_their_way :
    let setup : Setup :=
      { Setup.standard with
        nodeCount := 3
        beaconInterval := 1
        messageInterval := 1 }
    let s :=
      (run 1 (start setup
        (SeededLosses.ofSeed setup.linkLoss 42))).begun.pump
          12
    s.traffic.messagesSent = 4 ∧
      s.reportOf.messagesDelivered = 1 ∧
      s.total Node.drops = 2 ∧
      s.unicasts = 1 ∧
      s.traffic.messagesSent =
        s.reportOf.messagesDelivered + s.total Node.drops +
          s.traffic.timeouts + s.unicasts + s.arrivals ∧
      s.reportOf.messagesDelivered +
          s.traffic.messagesNoRoute ≤
        s.traffic.messagesSent ∧
      ¬ 1.0 < s.reportOf.deliveryRate := by
  intro setup s
  have hReaches :
      Reaches
        (start setup
          (SeededLosses.ofSeed setup.linkLoss 42)) s :=
    reaches_turns 1 12 _
  have hCounts :
      s.traffic.messagesSent = 4 ∧
        s.reportOf.messagesDelivered = 1 ∧
        s.total Node.drops = 2 ∧
        s.unicasts = 1 := by
    decide +kernel
  rcases hCounts with
    ⟨hSent, hDelivered, hDrops, hUnicasts⟩
  exact
    ⟨hSent, hDelivered, hDrops, hUnicasts,
      readings_are_conserved hReaches⟩

end Simulation

end CollectionTree
