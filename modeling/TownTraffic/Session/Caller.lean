import TownTraffic.Session.Fault
import TownTraffic.Session.Inbox
import TownTraffic.Session.Message

/-!
# A viewer's calls

A viewer calls the simulator: it sends a request and takes the next line that comes back for the
answer. Whatever is wrong with that line, it is gone afterwards, so that the next call takes the
next line.

* **`Call`**, **`Reply`** — what a viewer asks, and what it learns.
* **`Call.judge`** — what a response means to a call; **`Call.read`** what a line means to it.
* **`Call.take`** — takes the answer to a call; **`isUsable`** — whether there can be another call.
-/

namespace TownTraffic

open Text (Detailed)

variable {α : Type}

/-- What a viewer asks. -/
inductive Call where
  | ping
  | configure (settings : Settings)
  | startEpisode (spot : UInt64)
  | readFrame
deriving Repr, DecidableEq

/-- What a viewer learns. -/
inductive Reply (α : Type) where
  /-- It is done. -/
  | done
  | town (description : TownDescription α)
  | frame (frame : Frame α)
deriving Repr, DecidableEq

namespace Call

/-- The request that is sent. -/
def request : Call → Request
  | ping => .ping none
  | configure settings => .configure settings
  | startEpisode spot => .startEpisode spot
  | readFrame => .readFrame

/-- The bytes that are sent. -/
def bytes (c : Call) : List UInt8 := Text.Utf8.encode c.request.line ++ [Text.Line.feed]

variable [Detailed α]

/-- What a response means to a call. -/
def judge (c : Call) (response : Response α) : Except SessionFault (Reply α) :=
  match c, response with
  | _, .badRequest reason => .error (.protocol reason)
  | c, .badState =>
    .error (.protocol
      ("request " ++ (Detailed.detail c.request).text ++ " rejected in current session state"))
  | .ping, .ping _ => .ok .done
  | .configure _, .town description => .ok (.town description)
  | .startEpisode _, .episodeReady true => .ok .done
  | .startEpisode spot, .episodeReady false =>
    .error (.protocol
      ("simulator could not start episode at position " ++ toString spot.toNat))
  | .readFrame, .frame frame => .ok (.frame frame)
  | _, response =>
    .error (.protocol ("unexpected response " ++ (Detailed.detail response).text))

variable [Json.Wire α]

/-- What the text of a line means to a call. -/
def read (c : Call) (text : String) : Except SessionFault (Reply α) :=
  match (Json.Wire.codec : Json.Codec (Response α)).ofText text with
  | .ok response => c.judge response
  | .error report =>
    .error (.protocol ("response='" ++ text ++ "', reason=" ++ report.message))

/-- What a call makes of what has come in; `limit` is how long it has waited. -/
def hear (c : Call) (limit : Duration) : Incoming → Except SessionFault (Reply α)
  | .line text => c.read text
  | .garbled fault => .error (.connectivity fault.message)
  | .unfinished => .error (.timeout limit)
  | .ended => .error .disconnected

/-- Takes the answer to a call. -/
def take (c : Call) (limit : Duration) (i : Inbox) : Except SessionFault (Reply α) × Inbox :=
  (c.hear limit i.take.1, i.take.2)

end Call

/-- Whether a connection can be used on: the answer was good, or at least it was one. -/
def isUsable : Except SessionFault (Reply α) → Bool
  | .ok _ | .error (.protocol _) => true
  | .error _ => false

end TownTraffic
