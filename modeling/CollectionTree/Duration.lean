import CollectionTree.Decimal.Whole

/-
  Spans of time in nanoseconds.

  Key definitions include:
    * `Duration`
    * `Duration.greatest`
    * `Duration.ofSeconds`
    * `Duration.plus`
    * `Duration.text`
-/

namespace CollectionTree

/- A span of time. -/
structure Duration where
  nanos : Nat
  deriving DecidableEq, Repr

namespace Duration

/- Nanoseconds in a second. -/
def nanosPerSecond : Nat :=
  1000000000

/- The greatest span: 64 bits of seconds, all of them. -/
def greatest : Duration :=
  ⟨Nat.pow 2 64 * nanosPerSecond - 1⟩

/- No time. -/
def zero : Duration :=
  ⟨0⟩

/- A number of seconds and nanoseconds. -/
def ofSeconds
    (seconds : Nat)
    (nanos : Nat) : Duration :=
  ⟨seconds * nanosPerSecond + nanos⟩

/- A number of milliseconds. -/
def ofMillis
    (millis : Nat) : Duration :=
  ⟨millis * 1000000⟩

/- Addition that stops at the greatest span. -/
def plus
    (a b : Duration) : Duration :=
  ⟨min (a.nanos + b.nanos) greatest.nanos⟩

instance : LE Duration :=
  ⟨fun a b => a.nanos ≤ b.nanos⟩

instance
    (a b : Duration) :
    Decidable (a ≤ b) :=
  inferInstanceAs (Decidable (a.nanos ≤ b.nanos))

/- Seconds with nine places. -/
def text
    (d : Duration) : String :=
  Whole.text (d.nanos / nanosPerSecond) ++ "." ++
    Whole.paddedText 9 (d.nanos % nanosPerSecond)

end Duration

end CollectionTree
