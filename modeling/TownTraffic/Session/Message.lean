import TownTraffic.Traffic.Detail

/-!
# Requests and responses

A viewer sends one `Request` a line and gets one `Response` a line. Both travel as a JSON object
whose member `type` names the message.

* **`Request`**, **`Response`** — the messages; their forms are instances of `Json.Wire`.
-/

namespace TownTraffic

open Json
open Text (Detail Detailed)

/-- What a viewer asks of the simulator. -/
inductive Request where
  /-- To answer with the same payload. -/
  | ping (payload : Option String)
  /-- To start an episode. -/
  | configure (settings : Settings)
  /-- To put the player on a start spot. -/
  | startEpisode (spot : UInt64)
  /-- To report about the present moment. -/
  | readFrame
deriving Repr, DecidableEq

/-- What the simulator answers. -/
inductive Response (α : Type) where
  | ping (payload : Option String)
  /-- The town in which the episode is played. -/
  | town (description : TownDescription α)
  /-- Whether the player stands on the spot. -/
  | episodeReady (ready : Bool)
  | frame (frame : Frame α)
  /-- The request could not be read or not be served. -/
  | badRequest (reason : String)
  /-- The request came at the wrong time. -/
  | badState
deriving Repr, DecidableEq

/-! ## Requests -/

namespace Request

/-- The field of a ping. -/
def pingFields : Fields (Option String × Unit) (Option (Option String) × Unit) :=
  .cons (.optional "payload") .nil

/-- The field of a request for an episode. -/
def configureFields : Fields (Settings × Unit) (Option Settings × Unit) :=
  .cons (.required "settings") .nil

/-- The index of a start spot. -/
def spotField : Json.Field UInt64 := ⟨"player_start_index", .word64 "usize", none, none⟩

/-- The field of a request for a start spot. -/
def startFields : Fields (UInt64 × Unit) (Option UInt64 × Unit) := .cons spotField .nil

/-- The four requests, by name. -/
def variants : Variants Request where
  typeName := "SessionRequest"
  variants := [
    .record "Ping" pingFields fun (payload, _) => ping payload,
    .record "Configure" configureFields fun (settings, _) => configure settings,
    .record "StartEpisode" startFields fun (spot, _) => startEpisode spot,
    .bare "ReadSnapshot" readFrame]
  spell
    | ping payload => ⟨"Ping", some (pingFields.encodeMembers (payload, ()))⟩
    | configure settings => ⟨"Configure", some (configureFields.encodeMembers (settings, ()))⟩
    | startEpisode spot => ⟨"StartEpisode", some (startFields.encodeMembers (spot, ()))⟩
    | readFrame => ⟨"ReadSnapshot", none⟩

/-- A request is written under its name. -/
instance : Wire Request := ⟨.tagged variants⟩

/-- A request is shown with what it asks for. -/
instance : Detailed Request where
  detail
    | ping payload => .record "Ping" [("payload", .ofOption (payload.map .ofString))]
    | configure settings => .record "Configure" [("settings", Detailed.detail settings)]
    | startEpisode spot => .record "StartEpisode" [("player_start_index", .ofInt spot.toNat)]
    | readFrame => .word "ReadSnapshot"

/-- The request as a line of text, without its end. -/
def line (r : Request) : String := Wire.codec.toText r

end Request

/-! ## Responses -/

namespace Response

variable {α : Type}

/-- The field of a description of a town. -/
def townFields [Wire α] :
    Fields (TownDescription α × Unit) (Option (TownDescription α) × Unit) :=
  .cons (.required "scene") .nil

/-- The field of an answer to a request for a start spot. -/
def readyFields : Fields (Bool × Unit) (Option Bool × Unit) := .cons (.required "ready") .nil

/-- The field of a frame. -/
def frameFields [Wire α] : Fields (Frame α × Unit) (Option (Frame α) × Unit) :=
  .cons (.required "snapshot") .nil

/-- The field of a refusal. -/
def reasonFields : Fields (String × Unit) (Option String × Unit) := .cons (.required "err") .nil

/-- The six responses, by name. -/
def variants [Wire α] : Variants (Response α) where
  typeName := "SessionResponse"
  variants := [
    .record "Ping" Request.pingFields fun (payload, _) => ping payload,
    .record "SceneDescription" townFields fun (description, _) => town description,
    .record "EpisodeReady" readyFields fun (ready, _) => episodeReady ready,
    .record "Snapshot" frameFields fun (f, _) => frame f,
    .record "BadRequest" reasonFields fun (reason, _) => badRequest reason,
    .bare "BadState" badState]
  spell
    | ping payload => ⟨"Ping", some (Request.pingFields.encodeMembers (payload, ()))⟩
    | town description => ⟨"SceneDescription", some (townFields.encodeMembers (description, ()))⟩
    | episodeReady ready => ⟨"EpisodeReady", some (readyFields.encodeMembers (ready, ()))⟩
    | frame f => ⟨"Snapshot", some (frameFields.encodeMembers (f, ()))⟩
    | badRequest reason => ⟨"BadRequest", some (reasonFields.encodeMembers (reason, ()))⟩
    | badState => ⟨"BadState", none⟩

/-- A response is written under its name. -/
instance [Wire α] : Wire (Response α) := ⟨.tagged variants⟩

/-- A response is shown with what it answers. -/
instance [Detailed α] : Detailed (Response α) where
  detail
    | ping payload => .record "Ping" [("payload", .ofOption (payload.map .ofString))]
    | town description => .record "SceneDescription" [("scene", Detailed.detail description)]
    | episodeReady ready => .record "EpisodeReady" [("ready", .ofBool ready)]
    | frame f => .record "Snapshot" [("snapshot", Detailed.detail f)]
    | badRequest reason => .record "BadRequest" [("err", .ofString reason)]
    | badState => .word "BadState"

/-- The response as a line of text, without its end. -/
def line [Wire α] (r : Response α) : String := Wire.codec.toText r

end Response

end TownTraffic
