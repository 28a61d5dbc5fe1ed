import CollectionTree.Proofs.Simulation.Moves
import Mathlib.Algebra.Ring.Nat

/-
  A radio that loses nothing.

  Key definitions include:
    * `Losses.drawn`
    * `Losses.Lossless`

  Key theorems include:
    * `Losses.Lossless.survivors`
    * `Losses.Lossless.attempts`
    * `Losses.Lossless.serveUnicast`
    * `Losses.Lossless.serve`
    * `Losses.lossless_ofSeed`

  When the probability of a loss is zero, no random word is
  below the limit, whatever the seed.
-/

namespace CollectionTree

namespace Losses

section Draws

variable {γ : Type} [LossSource γ]

/- The source of losses after a number of answers. -/
def drawn :
    Nat → γ → γ
  | 0, losses => losses
  | count + 1, losses =>
      drawn count (LossSource.lost losses).2

/- No transmission is ever lost. -/
def Lossless
    (losses : γ) : Prop :=
  ∀ count, (LossSource.lost (drawn count losses)).1 = false

theorem Lossless.first
    {losses : γ}
    (hLossless : Lossless losses) :
    (LossSource.lost losses).1 = false :=
  hLossless 0

theorem Lossless.rest
    {losses : γ}
    (hLossless : Lossless losses) :
    Lossless (LossSource.lost losses).2 :=
  fun count => hLossless (count + 1)

/- Without losses, everything arrives. -/
theorem Lossless.survivors
    {losses : γ}
    (hLossless : Lossless losses)
    {α : Type}
    (xs : List α) :
    (Simulation.survivors xs losses).1 = xs ∧
      Lossless (Simulation.survivors xs losses).2 := by
  induction xs generalizing losses with
  | nil => exact ⟨rfl, hLossless⟩
  | cons x xs ih =>
      obtain ⟨hArrive, hRest⟩ := ih hLossless.rest
      unfold Simulation.survivors
      simp only [hLossless.first, Bool.false_eq_true,
        if_false]
      exact ⟨congrArg (x :: ·) hArrive, hRest⟩

/- However often a packet is transmitted, nothing is lost. -/
theorem Lossless.attempts
    {losses : γ}
    (hLossless : Lossless losses)
    (hasReceiver : Bool)
    (budget done : Nat) :
    Lossless
      (Simulation.attempts hasReceiver budget done
        losses).losses := by
  have hTrip :
      ∀ losses : γ, Lossless losses →
        Lossless (Simulation.roundTrip losses).2 := by
    intro losses hLossless
    unfold Simulation.roundTrip
    simp only [hLossless.first]
    exact hLossless.rest.rest
  induction budget generalizing done losses with
  | zero => exact hLossless
  | succ budget ih =>
      unfold Simulation.attempts
      split
      · have hNext := hTrip losses hLossless
        split
        next next hEq =>
          rw [hEq] at hNext
          exact hNext
        next next hEq =>
          rw [hEq] at hNext
          exact ih hNext (done + 1)
      · exact ih hLossless (done + 1)

/- Without losses, the first transmission arrives. -/
theorem Lossless.attempts_eq
    {losses : γ}
    (hLossless : Lossless losses)
    (budget done : Nat) :
    ∃ rest,
      Simulation.attempts true (budget + 1) done losses =
        ⟨true, done + 1, rest⟩ := by
  unfold Simulation.attempts Simulation.roundTrip
  simp only [hLossless.first, hLossless.rest.first]
  exact ⟨_, rfl⟩

/- A packet for a node in range arrives at once. -/
theorem Lossless.serveUnicast
    {s : Simulation γ}
    (hLossless : Lossless s.losses)
    {sender index : Nat}
    {handover : Handover}
    (hReceiver :
      s.receiver? sender handover.nextHop = some index) :
    (s.serveUnicast sender handover).events.toList =
      s.events.toList ++
        [ (index,
            .received (Simulation.addressOf sender)
              handover.packet),
          (sender, .sent handover.nextHop .acked 1) ] := by
  have hBudget :
      ∃ budget,
        Simulation.transmissionBudget handover.maxRexmit =
          budget + 1 := by
    unfold Simulation.transmissionBudget
    exact Nat.exists_eq_add_one.mpr (by omega)
  rcases hBudget with ⟨budget, hBudget⟩
  rcases hLossless.attempts_eq budget 0 with ⟨rest, hFirst⟩
  unfold Simulation.serveUnicast
  simp only [hReceiver, Option.isSome_some, hBudget, hFirst,
    Queue.toList_push, List.append_assoc]
  rfl

/- No request makes a radio that loses nothing lose. -/
theorem Lossless.serve
    {s : Simulation γ}
    (hLossless : Lossless s.losses)
    (request : Request) :
    Lossless (s.serve request).losses := by
  cases request with
  | announce sender metric =>
      exact (hLossless.survivors _).2
  | listen listener bursts =>
      exact (hLossless.survivors _).2
  | unicast sender handover =>
      have hAttempts :=
        hLossless.attempts
          (s.receiver? sender handover.nextHop).isSome
          (Simulation.transmissionBudget handover.maxRexmit)
          0
      generalize hServed :
        s.serve (.unicast sender handover) = t
      unfold Simulation.serve
        Simulation.serveUnicast at hServed
      simp only at hServed
      split at hServed
      · subst hServed
        exact hAttempts
      · subst hServed
        exact hAttempts

theorem Lossless.beacon
    {s : Simulation γ}
    (hLossless : Lossless s.losses)
    (index : Nat) :
    Lossless (s.beacon index).losses := by
  unfold Simulation.beacon
  cases s.announced? index with
  | none => exact hLossless
  | some metric => exact (hLossless.survivors _).2

end Draws

------------------------------------------------------------
-- Probability Zero
------------------------------------------------------------

open Float.Model in
/- Only zeros are equal to zero. -/
theorem unpack_of_beq_zero
    {p : Float}
    (hZero : (p == 0.0) = true) :
    ∃ sign, p.toModel.unpack = .zero sign := by
  have hUnpack :
      (0.0 : Float).toModel.unpack = .zero .positive := rfl
  have hCompare :
      p.toModel.unpack.compare (.zero .positive) =
        some .eq := by
    rw [← hUnpack]
    exact eq_of_beq hZero
  cases hValue : p.toModel.unpack with
  | zero sign => exact ⟨sign, rfl⟩
  | notANumber =>
      rw [hValue] at hCompare
      contradiction
  | infinity sign =>
      rw [hValue] at hCompare
      cases sign <;> contradiction
  | finite sign mantissa exponent hPos =>
      rw [hValue] at hCompare
      cases sign with
      | negative =>
          change some Ordering.lt = some .eq at hCompare
          contradiction
      | positive =>
          change some Ordering.gt = some .eq at hCompare
          contradiction

theorem beq_one_of_zero
    {p : Float}
    {sign : Float.Model.UnpackedFloat.Sign}
    (hUnpack : p.toModel.unpack = .zero sign) :
    (p == 1.0) = false := by
  have hOne :
      (1.0 : Float).toModel.unpack =
        .finite .positive (2 ^ 52) (-52) (by decide) := rfl
  change
    (p.toModel.unpack.compare (1.0 : Float).toModel.unpack ==
      some .eq) = false
  rw [hUnpack, hOne]
  rfl

theorem scaled_of_zero
    {p : Float}
    {sign : Float.Model.UnpackedFloat.Sign}
    (hUnpack : p.toModel.unpack = .zero sign) :
    (p * 18446744073709551616.0).toUInt64 = 0 := by
  have hScale :
      (18446744073709551616.0 : Float).toModel.unpack =
        .finite .positive (2 ^ 52) 12 (by decide) := rfl
  change
    (Float.Model.pack
        (Float.Model.UnpackedFloat.mul _ p.toModel.unpack
          (18446744073709551616.0 :
            Float).toModel.unpack)).toUInt64 = 0
  rw [hUnpack, hScale]
  cases sign <;> rfl

/- A zero stands for no words at all. -/
theorem ofProbability_zero
    {p : Float}
    (hZero : (p == 0.0) = true) :
    Chance.ofProbability p = .below 0 := by
  obtain ⟨sign, hUnpack⟩ := unpack_of_beq_zero hZero
  unfold Chance.ofProbability
  rw [beq_one_of_zero hUnpack, scaled_of_zero hUnpack]
  rfl

/- A zero is a probability, whatever its sign. -/
theorem isProbability_of_zero
    {p : Float}
    (hZero : (p == 0.0) = true) :
    Setup.isProbability p = true := by
  obtain ⟨sign, hUnpack⟩ := unpack_of_beq_zero hZero
  have hLeast :
      (0.0 : Float).toModel.unpack = .zero .positive := rfl
  have hMost :
      (1.0 : Float).toModel.unpack =
        .finite .positive (2 ^ 52) (-52) (by decide) := rfl
  have hLower : 0.0 ≤ p := by
    apply decide_eq_true
    change
      (0.0 : Float).toModel.unpack.le p.toModel.unpack =
        true
    rw [hUnpack, hLeast]
    rfl
  have hUpper : p ≤ 1.0 := by
    apply decide_eq_true
    change
      p.toModel.unpack.le (1.0 : Float).toModel.unpack =
        true
    rw [hUnpack, hMost]
    rfl
  unfold Setup.isProbability
  rw [Bool.and_eq_true]
  exact ⟨decide_eq_true hLower, decide_eq_true hUpper⟩

theorem lossless_ofSeed
    {p : Float}
    (hZero : (p == 0.0) = true)
    (seed : UInt64) :
    Lossless (SeededLosses.ofSeed p seed) := by
  have hBelow :
      ∀ (count : Nat) (losses : SeededLosses),
        losses.chance = .below 0 →
          (LossSource.lost (drawn count losses)).1 = false := by
    intro count
    induction count with
    | zero =>
        intro losses hChance
        change losses.next.1 = false
        unfold SeededLosses.next
        rw [hChance]
        exact decide_eq_false
          (UInt64.not_lt_zero (a := losses.stream.next.1))
    | succ count ih =>
        intro losses hChance
        apply ih _
        change losses.next.2.chance = .below 0
        unfold SeededLosses.next
        rw [hChance]
  intro count
  exact hBelow count _ (ofProbability_zero hZero)

end Losses

end CollectionTree
