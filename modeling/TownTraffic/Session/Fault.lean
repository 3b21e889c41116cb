import TownTraffic.Duration

/-!
# Faults of a session

What a viewer may meet with when it talks to a simulator. A fault of the connection may pass; an
answer that does not fit will not.
-/

namespace TownTraffic

/-- Why a viewer got no answer. -/
inductive SessionFault where
  /-- The connection could not be made or broke. -/
  | connectivity (reason : String)
  /-- The simulator took too long. -/
  | timeout (limit : Duration)
  /-- The simulator closed the connection. -/
  | disconnected
  /-- The answer does not fit the request, or the request was refused. -/
  | protocol (reason : String)
deriving Repr, DecidableEq

namespace SessionFault

/-- The fault in words. -/
def message : SessionFault → String
  | connectivity reason => "Connectivity error, reason='" ++ reason ++ "'"
  | timeout limit => "Simulator did not answer within " ++ limit.text
  | disconnected => "Simulator closed the connection"
  | protocol reason => "Protocol error, reason='" ++ reason ++ "'"

/-- Whether another try may succeed. -/
def isTransient : SessionFault → Bool
  | connectivity _ | timeout _ | disconnected => true
  | protocol _ => false

end SessionFault

end TownTraffic
