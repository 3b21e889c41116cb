import TownTraffic.Screen.Overlay
import TownTraffic.Viewer.Fault
import TownTraffic.Viewer.Options

/-!
# Before the first frame

A viewer asks its simulator for an episode, finds the map of the town, scales it to the window, and
only then takes its start spot. The first thing that goes wrong ends the preparation.

* **`Simulation`** — how the outer world with its simulator answers.
* **`prepare`** — the preparation.
-/

namespace TownTraffic

variable {α : Type}

/-- How an outer world, a state of any type, answers for its simulator. -/
structure Simulation (σ α : Type) where
  configure : Settings → σ → Except SessionFault (TownDescription α) × σ
  startEpisode : UInt64 → σ → Except SessionFault Unit × σ

/-- What there is to be shown. -/
structure Prepared (α : Type) where
  sheet : Sheet α
  camera : Camera α
  overlay : List (Tile α)
deriving Repr, DecidableEq

variable [Scalar α] [Json.Wire α]

/-- Finds the map of a town and scales it to the window. -/
def findMap (maps : Folder) (options : ViewerOptions α) (town : TownDescription α) :
    Except (ConfigurationFault α) (Sheet α × Camera α) := do
  let sheet : Sheet α ← (Sheet.load maps options.maps town.mapName).mapError .sheet
  let scale ← (ImageScale.between sheet.size options.window).mapError .scale
  return (sheet, ⟨sheet.calibration, scale⟩)

/-- Prepares a session. Both seeds are replaced by drawn ones, given or not. -/
def prepare {σ : Type} (simulation : Simulation σ α) (maps : Folder) (options : ViewerOptions α)
    (drawn : Seeds) (world : σ) : Except (ViewerFault α) (Prepared α) × σ :=
  match simulation.configure (options.settings.seeded drawn) world with
  | (.error fault, world) => (.error (.session fault), world)
  | (.ok town, world) =>
    match findMap maps options town with
    | .error fault => (.error (.configuration fault), world)
    | .ok (sheet, camera) =>
      match simulation.startEpisode options.spot world with
      | (.error fault, world) => (.error (.session fault), world)
      | (.ok (), world) =>
        (.ok ⟨sheet, camera, Overlay.build camera options.marked options.labelled town.startSpots⟩,
          world)

end TownTraffic
