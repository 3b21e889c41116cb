import TownTraffic.Json.Variant

/-!
# How far a session has come

A viewer first asks for an episode, then for a start spot, and then for frames. A `Progress` says
how far it has come, and which frame it has.

* **`Stage`** — the stage of a session; **`Stage.spot?`** the start spot of a running episode.
* **`Progress`** — the stage and what has been sent.
-/

namespace TownTraffic

open Json

/-- The stage of a session. -/
inductive Stage where
  | connected
  /-- The viewer has asked for an episode. -/
  | configured
  /-- The viewer's player stands on a start spot. -/
  | running (spot : UInt64)
deriving Repr, DecidableEq, Inhabited

/-- The start spot of the player. -/
def Stage.spot? : Stage → Option UInt64
  | running spot => some spot
  | _ => none

/-- How far a session has come. -/
structure Progress where
  stage : Stage
  framesSent : UInt64
  /-- The number of the frame that the viewer has. -/
  lastFrame : Option UInt64
deriving Repr, DecidableEq, Inhabited

/-- A session at its beginning. -/
def Progress.start : Progress := ⟨.connected, 0, none⟩

namespace Stage

/-- The field of a running episode. -/
def runningFields : Fields (UInt64 × Unit) (Option UInt64 × Unit) :=
  .cons ⟨"player_start_index", .word64 "usize", none, none⟩ .nil

/-- The three stages, by name. -/
def variants : Variants Stage where
  typeName := "ClientSessionState"
  variants := [
    .bare "JustConnected" connected,
    .bare "Configured" configured,
    .record "EpisodeRunning" runningFields fun (spot, _) => running spot]
  spell
    | connected => ⟨"JustConnected", none⟩
    | configured => ⟨"Configured", none⟩
    | running spot => ⟨"EpisodeRunning", some (runningFields.encodeMembers (spot, ()))⟩

/-- A stage is written as its name, with the spot of one that runs. -/
instance : Wire Stage := ⟨.choice variants⟩

end Stage

/-- The fields of a progress. -/
def Progress.fields :
    Fields (Stage × UInt64 × Option UInt64 × Unit)
      (Option Stage × Option UInt64 × Option (Option UInt64) × Unit) :=
  .cons (.required "state") <| .cons (.required "snapshots_sent") <|
    .cons (.optional "last_frame_sent") .nil

/-- The progress of a session is its stage, the number of frames sent, and that of the last one. -/
instance : Wire Progress where
  codec := .record "struct ClientSessionData" Progress.fields
    (fun p => (p.stage, p.framesSent, p.lastFrame, ()))
    fun (stage, framesSent, lastFrame, _) => ⟨stage, framesSent, lastFrame⟩

end TownTraffic
