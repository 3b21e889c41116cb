import TownTraffic.Command.Simulator
import TownTraffic.Command.Viewer
import TownTraffic.Session.Connection

/-!
# The program

`simulate` with the options of the simulator's command serves one viewer, whose lines come on
standard input and whose answers go to standard output. Other arguments are the options of the
viewer's command; the program tells where such a viewer would turn to, and what it would ask for.
-/

namespace TownTraffic.Program

/-- The status with which the program ends over a complaint: asking for help is no failure. -/
def status : Command.Complaint → UInt32
  | .help | .version => 0
  | _ => 2

/-- A complaint in words. -/
def report : Command.Complaint → String
  | .help =>
    "usage: simulate [--address A] [--map NAME] [--start-spots N], or the options of the viewer"
  | .version => "0.1.0"
  | .unknown => "error: unexpected argument"
  | .valueMissing => "error: a value is required"
  | .valueUnfit => "error: invalid value"
  | .repeated => "error: an option cannot be used twice"
  | .valueNeedless => "error: a flag takes no value"

/-- The bytes of a word, lowest first. -/
def word (bytes : List UInt8) : UInt64 := bytes.foldr (fun b w => w * 256 + b.toUInt64) 0

/-- The time, counted from the start of the machine, and seeds drawn from the system. -/
def surroundings : IO Surroundings := do
  let now ← IO.monoMsNow
  let bytes := (← IO.getRandomBytes 16).toList
  return ⟨Int64.ofNat now, ⟨word (bytes.take 8), word (bytes.drop 8)⟩⟩

/-- Ticks the clock until it has caught up with the time. -/
def catchUp (h : Host Float32) (ticks now : Nat) : Host Float32 × Nat :=
  let due := now / Simulator.step.millis
  ((List.range (due - ticks)).foldl (fun h _ => h.tick) h, max ticks due)

/-- Serves what comes on standard input until the connection closes; `ticks` tells how often the
clock has ticked. -/
partial def serveAll (start ticks : Nat) (c : Connection) (h : Host Float32) : IO Unit := do
  let output ← IO.getStdout
  let (h, ticks) := catchUp h ticks ((← IO.monoMsNow) - start)
  let (c, h) := c.settle (← surroundings) h
  output.write ⟨c.written.toArray⟩
  output.flush
  let c := { c with written := [] }
  match c.phase with
  | .closed => return
  | .waiting _ | .asking _ =>
    IO.sleep 1
    serveAll start ticks c h
  | .reading =>
    let line ← (← IO.getStdin).getLine
    let inbox :=
      if line.isEmpty then c.inbox.finish else c.inbox.receive (Text.Utf8.encode line)
    serveAll start ticks { c with inbox } h

/-- Runs the simulator's command. -/
def simulate (arguments : List String) : IO UInt32 := do
  match SimulatorCommand.read arguments with
  | .error complaint =>
    IO.eprintln (report complaint)
    return status complaint
  | .ok command =>
    serveAll (← IO.monoMsNow) 0 (.fresh 0) (.fresh command.town)
    return 0

/-- Runs the viewer's command. -/
def view (arguments : List String) : IO UInt32 := do
  match (ViewerCommand.read arguments : Except Command.Complaint (ViewerCommand Float32)) with
  | .error complaint =>
    IO.eprintln (report complaint)
    return status complaint
  | .ok command =>
    let options := command.options
    IO.println (options.host ++ ":" ++ toString options.port)
    IO.println (Request.configure options.settings).line
    IO.println (Request.startEpisode options.spot).line
    return 0

end TownTraffic.Program

/-- Runs the command that the arguments name. -/
def main : List String → IO UInt32
  | "simulate" :: arguments => TownTraffic.Program.simulate arguments
  | arguments => TownTraffic.Program.view arguments
