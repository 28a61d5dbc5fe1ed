import CollectionTree.Random.ChaCha

/-
  Where losses on the air come from.

  Key definitions include:
    * `LossSource`
    * `Chance`
    * `SeededLosses`

  Anything that answers, again and again, whether the next
  transmission is lost, can drive a simulation.
-/

namespace CollectionTree

/- A state that says whether the next transmission is lost. -/
class LossSource (γ : Type) where
  lost : γ → Bool × γ

/-
  A probability.  Unless it is certain, an event takes place
  when a random word is below a limit.
-/
inductive Chance
  | certain
  | below (limit : UInt64)
  deriving DecidableEq, Repr

/- The share of all words that a probability stands for. -/
def Chance.ofProbability
    (p : Float) : Chance :=
  if p == 1.0 then
    .certain
  else
    .below (p * 18446744073709551616.0).toUInt64

/- Losses of equal chance, given by a seed. -/
structure SeededLosses where
  chance : Chance
  stream : ChaCha.Stream
  deriving DecidableEq, Repr

namespace SeededLosses

/- The losses for a probability and a seed. -/
def ofSeed
    (probability : Float)
    (seed : UInt64) : SeededLosses :=
  ⟨Chance.ofProbability probability,
    ChaCha.Stream.ofSeed seed⟩

/- Whether the next transmission is lost. -/
def next
    (losses : SeededLosses) : Bool × SeededLosses :=
  match losses.chance with
  | .certain => (true, losses)
  | .below limit =>
      let (word, stream) := losses.stream.next
      (word < limit, { losses with stream := stream })

instance : LossSource SeededLosses :=
  ⟨next⟩

end SeededLosses

end CollectionTree
