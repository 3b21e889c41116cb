import TownTraffic.Screen.Marker
import TownTraffic.Screen.Overlay

/-!
# Playing frames

A `Playback` draws one frame after the other until it is stopped. Each step first asks whether to
stop, then draws the map and what lies over it, then reads a frame and draws its agents. The outer
world, with its window and its source of frames, is a state of any type; the `Surface` says how it
answers and what a stroke does to it.

* **`Stroke`** — one act of drawing; **`Playback.strokes`** those of a frame's agents.
* **`Playback.step`** — one step; **`Playback.run`** steps until the playback stops.
-/

namespace TownTraffic

/-- Why a playback stops. -/
inductive Exit where
  | windowClosed
  | interrupted
deriving Repr, DecidableEq

/-- Whether a playback goes on. -/
inductive PlaybackState where
  | running
  | stopped (reason : Exit)
deriving Repr, DecidableEq

/-- One act of drawing. -/
inductive Stroke (α : Type) where
  /-- The map. -/
  | background
  | tile (t : Tile α)
  | shape (s : Shape α)
  /-- Shows what has been drawn. -/
  | present
deriving Repr, DecidableEq

/-- How the outer world of a playback answers. -/
structure Surface (σ α ε : Type) where
  /-- Whether the viewer is to be interrupted. -/
  isInterrupted : σ → Bool
  /-- Asks the window whether to stop. -/
  pollExit : σ → Option Exit × σ
  /-- Draws. -/
  draw : Stroke α → σ → σ
  /-- Reads the next frame. -/
  read : σ → Except ε (Frame α) × σ

/-- A playback of a session. -/
structure Playback (α : Type) where
  camera : Camera α
  overlay : List (Tile α)
  state : PlaybackState
  /-- How many frames have been shown. -/
  shown : UInt64
deriving Repr, DecidableEq

namespace Playback

variable {σ α ε : Type}

/-- A playback before its first frame. -/
def start (camera : Camera α) (overlay : List (Tile α)) : Playback α :=
  ⟨camera, overlay, .running, 0⟩

/-- Draws one stroke after the other. -/
def drawAll (surface : Surface σ α ε) (strokes : List (Stroke α)) (world : σ) : σ :=
  strokes.foldl (fun world stroke => surface.draw stroke world) world

/-- No strokes change nothing. -/
@[simp] theorem drawAll_nil (surface : Surface σ α ε) (world : σ) :
    drawAll surface [] world = world := rfl

/-- Strokes are drawn one after the other. -/
@[simp] theorem drawAll_cons (surface : Surface σ α ε) (stroke : Stroke α)
    (strokes : List (Stroke α)) (world : σ) :
    drawAll surface (stroke :: strokes) world
      = drawAll surface strokes (surface.draw stroke world) := rfl

/-- Whether to stop; an interruption goes before anything the window has to say. -/
def signal (surface : Surface σ α ε) (world : σ) : Option Exit × σ :=
  if surface.isInterrupted world then (some .interrupted, world) else surface.pollExit world

/-- The map and what lies over it. -/
def ground (p : Playback α) : List (Stroke α) := .background :: p.overlay.map .tile

variable [Scalar α]

/-- The agents of a frame, pedestrians first. -/
def agents (p : Playback α) (f : Frame α) : List (Stroke α) :=
  f.partition.pedestrians.map (fun place => .shape (.pedestrian (p.camera.pedestrian place)))
    ++ f.partition.vehicles.map fun bearing => .shape (.vehicle (p.camera.vehicle bearing))

/-- One step: the new state, or the fault of the source. -/
def step (surface : Surface σ α ε) (p : Playback α) (world : σ) :
    Except ε PlaybackState × Playback α × σ :=
  match signal surface world with
  | (some reason, world) => (.ok (.stopped reason), { p with state := .stopped reason }, world)
  | (none, world) =>
    match surface.read (drawAll surface p.ground world) with
    | (.error fault, world) => (.error fault, p, world)
    | (.ok frame, world) =>
      (.ok p.state, { p with shown := p.shown + 1 },
        drawAll surface (p.agents frame ++ [.present]) world)

/-- Steps until the playback is stopped or the source fails; none if that takes more than `bound`
steps. -/
def run (surface : Surface σ α ε) : (bound : Nat) → Playback α → σ →
    Option (Except ε Exit) × Playback α × σ
  | bound, p, world =>
    match p.state, bound with
    | .stopped reason, _ => (some (.ok reason), p, world)
    | .running, 0 => (none, p, world)
    | .running, bound + 1 =>
      match step surface p world with
      | (.error fault, p, world) => (some (.error fault), p, world)
      | (.ok _, p, world) => run surface bound p world

end Playback

end TownTraffic
