import TownTraffic.Command.Arguments
import TownTraffic.Traffic.Town

/-!
# The command of the simulator

* **`SimulatorCommand.read`** — where a simulator listens and which town it plays, from the
  arguments of its command.
-/

namespace TownTraffic

open Command

/-- What the simulator's command is told. -/
structure SimulatorCommand where
  /-- Where to listen. -/
  address : String
  /-- The name of the map. -/
  map : String
  /-- How many spots a player may start from. -/
  spotCount : Nat
deriving Repr, DecidableEq

namespace SimulatorCommand

/-- What the command does unless told otherwise. -/
def standard : SimulatorCommand := ⟨"127.0.0.1:2000", "Town01", 16⟩

/-- The options of the command. -/
def choices : List (Choice SimulatorCommand) := common ++ [
  ⟨["address"], some 'a', textual fun address c => { c with address := address }⟩,
  ⟨["map"], none, textual fun map c => { c with map := map }⟩,
  ⟨["start-spots"], none, counted UInt64.size fun n c => { c with spotCount := n }⟩]

/-- What the command is told by its arguments. -/
def read (arguments : List String) : Except Complaint SimulatorCommand :=
  readAll choices standard arguments

/-- The town that the simulator plays. -/
def town {α : Type} [Scalar α] (c : SimulatorCommand) : Town α :=
  { Town.standard with name := c.map, spotCount := c.spotCount }

end SimulatorCommand

end TownTraffic
