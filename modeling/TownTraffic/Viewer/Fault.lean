import TownTraffic.Chart.Sheet
import TownTraffic.Screen.Scale
import TownTraffic.Session.Fault

/-!
# Faults of the viewer

Why a viewer stops: its map or its window is not fit for use, the session with the simulator fails,
or the window cannot be opened. Only some faults of the session may pass by themselves.

* **`ViewerFault`** — the faults; **`ViewerFault.message?`** their words.
* **`ViewerFault.isTransient`** — whether another try may succeed.
-/

namespace TownTraffic

/-- What is not fit for use. -/
inductive ConfigurationFault (α : Type) where
  | sheet (fault : SheetFault α)
  | scale (fault : ScaleFault α)
deriving Repr, DecidableEq

/-- Why a window cannot be opened. -/
inductive WindowFault where
  /-- No device can draw. -/
  | noAdapter
  /-- The device cannot draw into the window. -/
  | noSurfaceFormat
  /-- The window was closed before it was open. -/
  | closedEarly
  /-- The window took too long. -/
  | timeout (limit : Duration)
deriving Repr, DecidableEq

/-- Why a viewer stops. -/
inductive ViewerFault (α : Type) where
  | configuration (fault : ConfigurationFault α)
  | session (fault : SessionFault)
  | window (fault : WindowFault)
deriving Repr, DecidableEq

/-- Why a simulator does not end well. -/
inductive ShutdownFault where
  /-- The simulator was gone already. -/
  | gone
deriving Repr, DecidableEq

/-- The fault in words. -/
def ShutdownFault.message : ShutdownFault → String
  | gone => "Failed to shutdown server"

/-- The fault in words, if it has any. -/
def ConfigurationFault.message? {α : Type} (write : α → String) :
    ConfigurationFault α → Option String
  | sheet fault => fault.message? write
  | scale fault => some (fault.message write)

/-- The fault in words. -/
def WindowFault.message : WindowFault → String
  | noAdapter => "Could not create renderer, reason='No suitable graphics adapter found'"
  | noSurfaceFormat => "Could not create renderer, reason='Surface reports no supported formats'"
  | closedEarly => "Event loop exited before the window opened"
  | timeout limit => "Window did not open within " ++ limit.text

namespace ViewerFault

variable {α : Type}

/-- The fault in words, if it has any; `write` spells a number. -/
def message? (write : α → String) : ViewerFault α → Option String
  | configuration fault =>
    (fault.message? write).map fun reason => "Configuration error, reason='" ++ reason ++ "'"
  | session fault => some ("Session error, reason='" ++ fault.message ++ "'")
  | window fault => some ("Window error, reason='" ++ fault.message ++ "'")

/-- Whether another try may succeed. -/
def isTransient : ViewerFault α → Bool
  | session fault => fault.isTransient
  | configuration _ | window _ => false

end ViewerFault

end TownTraffic
