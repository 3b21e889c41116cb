import TownTraffic.Traffic.Episode

/-!
# The simulator

A `Simulator` plays one episode of its town at a time. Asynchronous episodes advance with the
simulator's own ticks, synchronous ones with every look at them. After every advance, and at the
start of an episode, the frame number is published, so that whoever waits for a new frame can look
again.

* **`Simulator.configure`** — starts a new episode in place of the old one.
* **`Simulator.tick`** — one step of the simulator's own clock.
* **`Simulator.look`** — a frame that a viewer does not have yet, if there is one.
-/

namespace TownTraffic

/-- One step of the clock. -/
def Simulator.step : Duration := .ofMillis 32

/-- A town and the episode that is played in it. -/
structure Simulator (α : Type) where
  town : Town α
  episode : Option (Episode α)
  /-- Whether looks advance the clock. -/
  synchronous : Bool
  /-- The frame number published last. -/
  published : UInt64
  /-- How often a frame number has been published. -/
  publications : Nat
deriving Repr, DecidableEq

/-- What a look gives. -/
inductive Look (α : Type) where
  | fresh (frame : Frame α)
  /-- The viewer has the present frame already. -/
  | unchanged
  /-- There is no episode. -/
  | unconfigured
deriving Repr, DecidableEq

namespace Simulator

variable {α : Type} [Scalar α]

/-- A simulator before its first episode. -/
def idle (town : Town α) : Simulator α := ⟨town, none, false, 0, 0⟩

/-- Stores an episode and publishes its frame number. -/
def publish (s : Simulator α) (e : Episode α) : Simulator α :=
  { s with
    episode := some e
    published := e.frameNumber
    publications := s.publications + 1 }

/-- Starts a new episode, with seeds drawn from outside if the settings leave one open. An episode
that cannot begin breaks this off before anything has been changed: there is no description then. -/
def configure (s : Simulator α) (settings : Settings) (drawn : Seeds) :
    Option (TownDescription α) × Simulator α :=
  let settings := settings.settled drawn
  match Episode.begin s.town settings drawn with
  | none => (none, s)
  | some e => (some e.description, { s.publish e with synchronous := settings.synchronous })

/-- One step of the simulator's own clock, which only asynchronous episodes follow. -/
def tick (s : Simulator α) : Simulator α :=
  if s.synchronous then s
  else match s.episode with
    | some e => s.publish (e.tick step)
    | none => s

/-- Looks for a frame other than the one a viewer had last. In a synchronous episode the clock
advances first, so that there always is one. -/
def look (s : Simulator α) (had : Option UInt64) (now : Int64) : Look α × Simulator α :=
  match s.episode with
  | none => (.unconfigured, s)
  | some e =>
    if s.synchronous then (.fresh ((e.tick step).frame now), s.publish (e.tick step))
    else if had = some e.frameNumber then (.unchanged, s)
    else (.fresh (e.frame now), s)

end Simulator

end TownTraffic
