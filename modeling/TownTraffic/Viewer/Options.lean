import TownTraffic.Duration
import TownTraffic.Screen.Scale
import TownTraffic.Screen.Selection
import TownTraffic.Traffic.Settings

/-!
# Options of the viewer

Where a viewer finds its simulator and its maps, what it asks for, and how it shows it.
-/

namespace TownTraffic

/-- What a viewer needs to know before it starts. -/
structure ViewerOptions (α : Type) where
  /-- The host of the simulator. -/
  host : String
  port : UInt16
  /-- How long an answer may take. -/
  timeout : Duration
  /-- The directory of the maps. -/
  maps : String
  settings : Settings
  /-- The start spot of the player. -/
  spot : UInt64
  /-- Which start spots are marked. -/
  marked : Selection
  /-- Whether marked spots are labelled. -/
  labelled : Bool
  window : WindowSize α
deriving Repr, DecidableEq

namespace ViewerOptions

/-- The options unless told otherwise. -/
def standard {α : Type} [Scalar α] : ViewerOptions α where
  host := "localhost"
  port := 2000
  timeout := .of 10 0
  maps := "maps"
  settings := .standard
  spot := 0
  marked := .all
  labelled := true
  window := .standard

/-- How long a viewer waits after a fault that may pass. -/
def reconnectPause : Duration := .of 1 0

end ViewerOptions

end TownTraffic
