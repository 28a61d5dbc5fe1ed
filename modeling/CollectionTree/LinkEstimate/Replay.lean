import CollectionTree.LinkEstimate
import CollectionTree.Text.Blank
import CollectionTree.Text.Columns

/-
  Replaying transmissions through a link estimate.

  Key definitions include:
    * `Trial`
    * `Trial.parse`
    * `Replay.parse`
    * `Replay.estimates`
    * `Replay.text`

  Trials are written with commas between them: `3` stands
  for a packet that was acknowledged after three
  transmissions, `x3` for one that never was.
-/

namespace CollectionTree

------------------------------------------------------------
-- Trials
------------------------------------------------------------

/- How one packet fared on a link. -/
structure Trial where
  acked : Bool
  transmissions : UInt8
  deriving DecidableEq, Repr

namespace Trial

/- Why a text does not describe a trial. -/
inductive Fault
  | unreadable (token : String) (fault : Whole.Fault)
  | noTransmissions (token : String)
  deriving DecidableEq, Repr

/- The mark of a failure, if it is there, and the rest. -/
def splitMark
    (token : List Char) : Bool × List Char :=
  match token with
  | 'x' :: rest => (false, rest)
  | _ => (true, token)

/- Read a trial, with white space around it. -/
def parse
    (piece : List Char) : Except Fault Trial :=
  let token := Text.trim piece
  let (acked, digits) := splitMark token
  match Whole.parse 255 digits with
  | .error fault =>
      .error (.unreadable (String.ofList token) fault)
  | .ok transmissions =>
      if transmissions = 0 then
        .error (.noTransmissions (String.ofList token))
      else
        .ok ⟨acked, transmissions.toUInt8⟩

/- How a trial is called in a table. -/
def label
    (trial : Trial) : String :=
  (if trial.acked then "ok x" else "fail x") ++
    Whole.text trial.transmissions.toNat

end Trial

/- Note a trial in an estimate. -/
def LinkEstimate.recordTrial
    (e : LinkEstimate)
    (trial : Trial) : LinkEstimate :=
  if trial.acked then
    e.recordSuccess trial.transmissions
  else
    e.recordFailure trial.transmissions

namespace Replay

------------------------------------------------------------
-- Reading
------------------------------------------------------------

/- The pieces between commas, without the blank ones. -/
def tokens
    (text : List Char) : List (List Char) :=
  (Text.pieces ',' text).filter
    (fun piece => !(Text.trim piece).isEmpty)

/- Read trials; the first one that is bad decides. -/
def parse
    (text : List Char) : Except Trial.Fault (List Trial) :=
  (tokens text).mapM Trial.parse

------------------------------------------------------------
-- Replaying
------------------------------------------------------------

/- The estimate before and after each of the trials. -/
def estimatesFrom
    (e : LinkEstimate) : List Trial → List LinkEstimate
  | [] => [e]
  | trial :: trials =>
      e :: estimatesFrom (e.recordTrial trial) trials

/- The estimates of a link that has not been used before. -/
def estimates
    (trials : List Trial) : List LinkEstimate :=
  estimatesFrom LinkEstimate.fresh trials

------------------------------------------------------------
-- The Table
------------------------------------------------------------

/- The widths of the columns. -/
def widths : List Nat :=
  [6, 10, 8, 8]

/- The row of a step. -/
def row
    (step : Nat)
    (label : String)
    (e : LinkEstimate) : String :=
  Text.columns widths
    [Whole.text step, label, Whole.text e.etx.toNat,
      e.transmissionsText 2]

/- Rows with ascending steps. -/
def rowsFrom :
    Nat → List (String × LinkEstimate) → List String
  | _, [] => []
  | step, (label, e) :: rest =>
      row step label e :: rowsFrom (step + 1) rest

/- The rows of a replay. -/
def rows
    (trials : List Trial) : List String :=
  rowsFrom 0
    (("initial" :: trials.map Trial.label).zip
      (estimates trials))

/- The table of a replay. -/
def text
    (trials : List Trial) : String :=
  Text.lines
    (["=== ETX Replay ===",
      "",
      Text.columns widths ["Step", "Outcome", "ETX", "Tx"],
      Text.rule 34] ++ rows trials)

end Replay

end CollectionTree
