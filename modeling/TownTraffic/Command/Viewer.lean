import TownTraffic.Command.Arguments
import TownTraffic.Viewer.Options

/-!
# The command of the viewer

* **`ViewerCommand.read`** — the options of a viewer, from the arguments of its command.
-/

namespace TownTraffic

open Command

/-- What the viewer's command is told. -/
structure ViewerCommand (α : Type) where
  /-- Whether to report every step. -/
  verbose : Bool
  options : ViewerOptions α
deriving Repr, DecidableEq

namespace ViewerCommand

variable {α : Type}

/-- Changes the options of the viewer. -/
def change (f : ViewerOptions α → ViewerOptions α) (c : ViewerCommand α) : ViewerCommand α :=
  { c with options := f c.options }

/-- Changes the settings of the episode. -/
def changeSettings (f : Settings → Settings) : ViewerCommand α → ViewerCommand α :=
  change fun o => { o with settings := f o.settings }

/-- The quality in a text. -/
def quality (text : String) : Except String Quality :=
  match Quality.ofText? text with
  | some q => .ok q
  | none => .error (Quality.unknown text)

/-- The options of the command. -/
def choices : List (Choice (ViewerCommand α)) := common ++ [
  ⟨["verbose"], some 'v', .flag fun c => { c with verbose := true }⟩,
  ⟨["host"], none, textual fun host => change fun o => { o with host := host }⟩,
  ⟨["port"], some 'p',
    signed UInt16.size fun port => change fun o => { o with port := port.toUInt16 }⟩,
  ⟨["positions", "pos"], none,
    parsed Selection.ofText fun marked => change fun o => { o with marked := marked }⟩,
  ⟨["no-labels"], none, .flag (change fun o => { o with labelled := false })⟩,
  ⟨["start"], none,
    counted UInt64.size fun spot => change fun o => { o with spot := spot.toUInt64 }⟩,
  ⟨["maps-dir"], none, located fun maps => change fun o => { o with maps := maps }⟩,
  ⟨["vehicles"], none,
    signed UInt32.size fun n => changeSettings fun s => { s with vehicles := n.toUInt32 }⟩,
  ⟨["pedestrians"], none,
    signed UInt32.size fun n => changeSettings fun s => { s with pedestrians := n.toUInt32 }⟩,
  ⟨["weather"], none,
    signed UInt32.size fun n => changeSettings fun s => { s with weather := n.toUInt32 }⟩,
  ⟨["quality"], none, parsed quality fun q => changeSettings fun s => { s with quality := q }⟩,
  ⟨["synchronous"], none, .flag (changeSettings fun s => { s with synchronous := true })⟩,
  ⟨["timeout-ms"], none,
    counted UInt64.size fun n => change fun o => { o with timeout := .ofMillis n }⟩]

/-- What the command is told by its arguments. -/
def read [Scalar α] (arguments : List String) : Except Complaint (ViewerCommand α) :=
  readAll choices ⟨false, .standard⟩ arguments

end ViewerCommand

end TownTraffic
