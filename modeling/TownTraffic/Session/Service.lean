import TownTraffic.Session.Message
import TownTraffic.Session.Progress
import TownTraffic.Traffic.Simulator

/-!
# Serving a request

A request is served with the progress of its viewer and the simulator that all viewers share. An
episode that cannot begin breaks off the service half-way: nothing has been changed then, but nobody
can know that, so both the viewer's progress and the simulator count as spoiled from there on, and
whatever needs them is refused.

* **`serve`** — serves a request.
* **`Guarded`** — a value that may be spoiled.
* **`route`** — serves a line of text.
-/

namespace TownTraffic

variable {α : Type}

/-- What a service takes from the outer world: the time, and seeds for settings without any. -/
structure Surroundings where
  /-- In milliseconds since 1970. -/
  now : Int64
  drawn : Seeds
deriving Repr, DecidableEq

/-- What comes of a request. -/
inductive Outcome (α : Type) where
  | answer (response : Response α)
  /-- There is no answer until a frame is published. -/
  | wait
  /-- The service broke off. -/
  | brokenOff
deriving Repr, DecidableEq

/-! ## Requests -/

section

variable [Scalar α]

/-- Serves a request that can be read. -/
def serve (around : Surroundings) (request : Request) (p : Progress) (s : Simulator α) :
    Outcome α × Progress × Simulator α :=
  match request with
  | .ping payload => (.answer (.ping payload), p, s)
  | .configure settings =>
    match s.configure settings around.drawn with
    | (none, s) => (.brokenOff, p, s)
    | (some description, s) =>
      (.answer (.town description), { p with stage := .configured, lastFrame := none }, s)
  | .startEpisode spot =>
    match p.stage with
    | .connected => (.answer .badState, p, s)
    | .configured | .running _ =>
      if spot.toNat < s.town.spotCount then
        (.answer (.episodeReady true), { p with stage := .running spot, lastFrame := none }, s)
      else (.answer (.episodeReady false), p, s)
  | .readFrame =>
    match p.stage with
    | .connected | .configured => (.answer .badState, p, s)
    | .running _ =>
      match s.look p.lastFrame around.now with
      | (.fresh frame, s) =>
        (.answer (.frame frame),
          { p with framesSent := p.framesSent + 1, lastFrame := some frame.number }, s)
      | (.unchanged, s) => (.wait, p, s)
      | (.unconfigured, s) => (.answer .badState, p, s)

end

/-! ## Lines -/

/-- A value that may be spoiled. -/
structure Guarded (β : Type) where
  value : β
  spoiled : Bool
deriving Repr, DecidableEq

/-- A value that is not spoiled. -/
def Guarded.sound {β : Type} (value : β) : Guarded β := ⟨value, false⟩

/-- Why a request is refused that needs a spoiled value. -/
def spoiledReason : String := "poisoned lock: another task failed inside"

/-- The refusal of a line that is no request. -/
def unreadable (line : String) (report : Json.Report) : Response α :=
  .badRequest ("request=" ++ line ++ ", reason=" ++ report.message)

/-- The request on a line. -/
def Request.ofLine (line : String) : Except Json.Report Request := Json.Wire.codec.ofText line

/-- Serves a line of text. -/
def route [Scalar α] (around : Surroundings) (line : String) (p : Guarded Progress)
    (s : Guarded (Simulator α)) : Outcome α × Guarded Progress × Guarded (Simulator α) :=
  match Request.ofLine line with
  | .error report => (.answer (unreadable line report), p, s)
  | .ok request =>
    if p.spoiled || s.spoiled then (.answer (.badRequest spoiledReason), p, s)
    else
      match serve around request p.value s.value with
      -- Whatever the service had done by then is kept, but it cannot be relied on.
      | (.brokenOff, p', s') => (.brokenOff, ⟨p', true⟩, ⟨s', true⟩)
      | (outcome, p', s') => (outcome, .sound p', .sound s')

end TownTraffic
