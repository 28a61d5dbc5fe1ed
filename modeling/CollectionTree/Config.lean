/-
  Settings of a connection to a collection tree.

  Key definitions include:
    * `Config`
    * `Config.standard`
    * `Config.Setting`
    * `Config.check`
-/

namespace CollectionTree

/- What can be tuned for one tree. -/
structure Config where
  neighborCapacity : UInt64
  neighborLifetime : UInt64
  maxHopLimit : UInt8
  recentPackets : UInt64
  openListenBursts : UInt8
  noRouteListenBursts : UInt8
  deriving DecidableEq, Repr

namespace Config

/- The settings that hold unless one says otherwise. -/
def standard : Config :=
  { neighborCapacity := 8
    neighborLifetime := 180
    maxHopLimit := 10
    recentPackets := 2
    openListenBursts := 2
    noRouteListenBursts := 1 }

/- The settings that must not be zero. -/
inductive Setting
  | neighborCapacity
  | neighborLifetime
  | recentPackets
  | maxHopLimit
  deriving DecidableEq, Repr

/- The name of a setting in a file. -/
def Setting.name : Setting → String
  | .neighborCapacity => "neighbor_capacity"
  | .neighborLifetime => "neighbor_lifetime_secs"
  | .recentPackets => "recent_packets"
  | .maxHopLimit => "max_hop_limit"

/- The first setting that must not be zero and is. -/
def check
    (c : Config) : Except Setting Unit :=
  if c.neighborCapacity = 0 then
    .error .neighborCapacity
  else if c.neighborLifetime = 0 then
    .error .neighborLifetime
  else if c.recentPackets = 0 then
    .error .recentPackets
  else if c.maxHopLimit = 0 then
    .error .maxHopLimit
  else
    .ok ()

end Config

end CollectionTree
