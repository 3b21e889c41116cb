import TownTraffic.Session.Host
import TownTraffic.Session.Inbox

/-!
# The connection of a viewer

A `Connection` reads a viewer's lines and writes the answers, strictly in turn: the next line is not
even taken before the last one has been answered. All lines are read into one buffer, which is
cleared when a line has been answered. A line that has to wait for a frame is served anew whenever a
frame has been published since. The connection closes when the viewer stops sending, when a line is
no text, or when the service breaks off.

* **`Connection.advance`** — the next thing a connection does, if there is anything to do.
* **`Connection.settle`** — all it can do at present.
* **`Hosted`** — a connection and the host, with what can happen to them; **`Hosted.run`** — a
  history.
-/

namespace TownTraffic

open Text

variable {α : Type}

/-- What a connection does next. -/
inductive Connection.Phase where
  /-- It takes a line. -/
  | reading
  /-- It has a line served. -/
  | asking (line : String)
  /-- It waits for a frame to be published, to have a line served anew. -/
  | waiting (line : String)
  /-- It does nothing any more. -/
  | closed
deriving Repr, DecidableEq

/-- The connection of a viewer. -/
structure Connection where
  /-- The number of the viewer. -/
  viewer : Nat
  inbox : Inbox
  /-- The bytes of the line it has taken, behind whatever was there before. -/
  buffer : List UInt8
  phase : Connection.Phase
  /-- How many publications it has taken notice of. -/
  seen : Nat
  /-- What has been written to the viewer. -/
  written : List UInt8
deriving Repr, DecidableEq

/-- A service of a line, with what came of it. -/
structure Service (α : Type) where
  line : String
  outcome : Outcome α
deriving Repr, DecidableEq

/-- The bytes of a response on a line of its own. -/
def Response.bytes [Json.Wire α] (r : Response α) : List UInt8 :=
  Utf8.encode r.line ++ [Line.feed]

namespace Connection

/-- A connection before anything has arrived. -/
def fresh (viewer : Nat) : Connection := ⟨viewer, .empty, [], .reading, 0, []⟩

variable [Scalar α] [Json.Wire α]

/-- What a service leaves to do. -/
def conclude (c : Connection) (line : String) : Outcome α → Connection
  | .answer r => { c with buffer := [], phase := .reading, written := c.written ++ r.bytes }
  | .wait => { c with phase := .waiting line }
  | .brokenOff => { c with phase := .closed }

/-- The next thing a connection does; a line that it has served is told with what came of it. -/
def advance (around : Surroundings) (c : Connection) (h : Host α) :
    Option (Service α) × Connection × Host α :=
  match c.phase with
  | .reading =>
    match c.inbox.takeOnto c.buffer with
    | (.line text, buffer, inbox) => (none, { c with inbox, buffer, phase := .asking text }, h)
    | (.garbled _, buffer, inbox) | (.ended, buffer, inbox) =>
      (none, { c with inbox, buffer, phase := .closed }, h)
    | (.unfinished, _, _) => (none, c, h)
  | .asking line =>
    match h.receive c.viewer line around with
    | (outcome, h) => (some ⟨line, outcome⟩, c.conclude line outcome, h)
  | .waiting line =>
    -- As long as nothing is published, the line would have to wait again.
    let publications := h.simulator.value.publications
    if publications = c.seen then (none, c, h)
    else (none, { c with phase := .asking line, seen := publications }, h)
  | .closed => (none, c, h)

/-- Advances a given number of times. -/
def advances (around : Surroundings) : Nat → Connection → Host α → Connection × Host α
  | 0, c, h => (c, h)
  | n + 1, c, h => advances around n (c.advance around h).2.1 (c.advance around h).2.2

/-- Does all that can be done at present: a line takes four steps at most, one to take it, one to
have it served, and two more if it has to wait and an older publication has not been noticed. -/
def settle (around : Surroundings) (c : Connection) (h : Host α) : Connection × Host α :=
  advances around (4 * (c.inbox.bytes.length + 2)) c h

/-- A closed connection does nothing. -/
theorem advance_of_closed {c : Connection} (closed : c.phase = .closed) (around : Surroundings)
    (h : Host α) : c.advance around h = (none, c, h) := by
  simp [advance, closed]

end Connection

/-! ## Histories -/

/-- A connection and the host it belongs to. -/
structure Hosted (α : Type) where
  connection : Connection
  host : Host α

/-- What can happen to a connection and its host. -/
inductive Hosted.Event where
  /-- Bytes arrive from the viewer. -/
  | arrive (bytes : List UInt8)
  /-- The viewer stops sending. -/
  | finish
  /-- The connection advances. -/
  | advance (around : Surroundings)
  /-- Something happens to the host. -/
  | host (event : TownTraffic.Event)
deriving Repr, DecidableEq

namespace Hosted

variable [Scalar α] [Json.Wire α]

/-- One event, with the service of a line if it was one. -/
def step (s : Hosted α) : Hosted.Event → Option (Service α) × Hosted α
  | .arrive bytes =>
    (none, { s with connection.inbox := s.connection.inbox.receive bytes })
  | .finish => (none, { s with connection.inbox := s.connection.inbox.finish })
  | .advance around =>
    match s.connection.advance around s.host with
    | (service, c, h) => (service, ⟨c, h⟩)
  | .host event => (none, { s with host := (s.host.step event).2 })

/-- A history: the services of the connection's lines, in order, and what there is in the end. -/
def run (s : Hosted α) : List Hosted.Event → List (Service α) × Hosted α
  | [] => ([], s)
  | e :: es =>
    ((s.step e).1.toList ++ ((s.step e).2.run es).1, ((s.step e).2.run es).2)

/-- Nothing comes of no events. -/
@[simp] theorem run_nil (s : Hosted α) : s.run [] = ([], s) := rfl

/-- What an event leads to comes before what the others lead to. -/
theorem run_cons (s : Hosted α) (e : Hosted.Event) (es : List Hosted.Event) :
    s.run (e :: es)
      = ((s.step e).1.toList ++ ((s.step e).2.run es).1, ((s.step e).2.run es).2) := rfl

end Hosted

end TownTraffic
