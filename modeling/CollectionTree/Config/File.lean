import CollectionTree.Failure
import CollectionTree.Json.Reader
import CollectionTree.Json.Writer

/-
  Settings in files.

  Key definitions include:
    * `Config.shape`
    * `Config.value`
    * `Config.validate`
    * `Config.ofJson`
    * `Config.toJson`
    * `Config.ofFile`

  A file may leave settings out; they keep their standard
  values.  Only settings that pass the check are returned.
-/

namespace CollectionTree

namespace Config

------------------------------------------------------------
-- Reading
------------------------------------------------------------

/- How settings are laid out. -/
def shape : Json.Shape Config where
  title := "struct CollectConfig"
  required := false
  fields :=
    [ ⟨"neighbor_capacity", fun c input => do
        let (n, rest) ← Json.readSize input
        pure ({ c with neighborCapacity := n }, rest)⟩,
      ⟨"neighbor_lifetime_secs", fun c input => do
        let (n, rest) ← Json.readUInt64 input
        pure ({ c with neighborLifetime := n }, rest)⟩,
      ⟨"max_hop_limit", fun c input => do
        let (n, rest) ← Json.readUInt8 input
        pure ({ c with maxHopLimit := n }, rest)⟩,
      ⟨"recent_packets", fun c input => do
        let (n, rest) ← Json.readSize input
        pure ({ c with recentPackets := n }, rest)⟩,
      ⟨"open_listen_bursts", fun c input => do
        let (n, rest) ← Json.readUInt8 input
        pure ({ c with openListenBursts := n }, rest)⟩,
      ⟨"no_route_listen_bursts", fun c input => do
        let (n, rest) ← Json.readUInt8 input
        pure ({ c with noRouteListenBursts := n }, rest)⟩ ]

/- Read settings, without checking them. -/
def read : Json.Reader Config :=
  shape.read standard

/- Fail if a setting is zero that must not be. -/
def validate
    (c : Config) : Except Failure Unit :=
  match c.check with
  | .ok () => .ok ()
  | .error setting =>
      .error (.invalidConfig (.zeroSetting setting))

/- Read settings and check them. -/
def ofJson
    (text : String) : Except Failure Config :=
  match Json.parse read text with
  | .error fault =>
      .error (.invalidConfig (.unreadable fault))
  | .ok c =>
      match c.validate with
      | .error failure => .error failure
      | .ok () => .ok c

/- Read settings from what a file holds, if it is there. -/
def ofFile
    (content : Option ByteArray) : Except Failure Config :=
  match content with
  | none => .error (.file .missing)
  | some bytes =>
      match String.fromUTF8? bytes with
      | none => .error (.file .notText)
      | some text => ofJson text

------------------------------------------------------------
-- Writing
------------------------------------------------------------

/- The settings as a value, in their order. -/
def value
    (c : Config) : Json.Value :=
  .object
    [ ("neighbor_capacity", .whole c.neighborCapacity.toNat),
      ("neighbor_lifetime_secs",
        .whole c.neighborLifetime.toNat),
      ("max_hop_limit", .whole c.maxHopLimit.toNat),
      ("recent_packets", .whole c.recentPackets.toNat),
      ("open_listen_bursts",
        .whole c.openListenBursts.toNat),
      ("no_route_listen_bursts",
        .whole c.noRouteListenBursts.toNat) ]

/- The settings as the text of a file. -/
def toJson
    (c : Config) : String :=
  c.value.pretty

end Config

end CollectionTree
