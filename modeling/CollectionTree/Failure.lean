import CollectionTree.Address
import CollectionTree.Config
import CollectionTree.Json.Fault
import CollectionTree.Packet

/-
  Everything that an operation can fail with.

  Key definitions include:
    * `ConfigFault`
    * `FrameFault`
    * `FileFault`
    * `Failure`
    * `Failure.message`

  Lost transmissions, duplicates and packets that find no
  next hop are not failures: a connection counts them.
-/

namespace CollectionTree

------------------------------------------------------------
-- Causes
------------------------------------------------------------

/- What is wrong with a setting. -/
inductive ConfigFault
  | zeroSetting (setting : Config.Setting)
  | nodeCount (count : Nat)
  | linkLoss (loss : Float)
  | zeroBeaconInterval
  | badAddress (text : String) (fault : Address.Fault)
  | unreadable (fault : Json.Fault)
  | described (text : String)

/- What is wrong with a frame. -/
inductive FrameFault
  | tooShort (length : Nat)
  | described (text : String)

/- Why the content of a file is not available. -/
inductive FileFault
  | missing
  | notText
  deriving DecidableEq, Repr

/- What an operation failed with. -/
inductive Failure
  | notOpen
  | transportBusy
  | transport (text : String)
  | invalidConfig (fault : ConfigFault)
  | malformedFrame (fault : FrameFault)
  | file (fault : FileFault)

------------------------------------------------------------
-- Wording
------------------------------------------------------------

/- The wording of a lower bound of one. -/
def atLeastOne
    (name : String) : String :=
  name ++ " must be at least 1"

/- The wording of what is wrong with a setting. -/
def ConfigFault.message : ConfigFault → String
  | .zeroSetting setting => atLeastOne setting.name
  | .nodeCount count =>
      "node_count must be 1..=255, got " ++ Whole.text count
  | .linkLoss loss =>
      "link_loss must be within 0.0..=1.0, got " ++
        RealText.plain loss
  | .zeroBeaconInterval => atLeastOne "beacon_interval"
  | .badAddress text .noDot =>
      "bad node address '" ++ text ++ "'"
  | .badAddress text (.badHalf fault) =>
      "bad node address '" ++ text ++ "': " ++ fault.message
  | .unreadable fault => fault.message
  | .described text => text

/- The wording of what is wrong with a frame. -/
def FrameFault.message : FrameFault → String
  | .tooShort length =>
      Whole.text length ++ " bytes, need at least " ++
        Whole.text Packet.headerLength
  | .described text => text

/- The wording of why a file is not available. -/
def FileFault.message : FileFault → String
  | .missing => "No such file or directory (os error 2)"
  | .notText => "stream did not contain valid UTF-8"

/- The wording of a failure. -/
def Failure.message : Failure → String
  | .notOpen => "collect connection is not open"
  | .transportBusy => "reliable unicast transport is busy"
  | .transport text => "transport error: " ++ text
  | .invalidConfig fault =>
      "configuration error: " ++ fault.message
  | .malformedFrame fault =>
      "malformed frame: " ++ fault.message
  | .file fault => "IO error: " ++ fault.message

end CollectionTree
