/-!
# Who is connected

A simulator keeps a `Registry` of the sessions that it has accepted. A session that ends says
farewell; farewells are dealt with one at a time, in the order in which they were said, and the
session is struck off then. Whoever asks to be told when nobody is connected waits until a session
is struck off and none is left. If nobody waits at such a moment, one permit is kept, with which the
next who asks need not wait.

One clerk accepts sessions, strikes them off and tells those who wait. Between striking off the last
session and telling it, the clerk does nothing else; but sessions may end then, and others may ask.

* **`Registry`** — the sessions, the farewells and those who wait.
* **`Registry.step`** — one event, with the **`Notice`**s it gives.
* **`Registry.run`** — a history.
-/

namespace TownTraffic

/-- The sessions of a simulator. Connections are numbered in the order in which they come, those who
ask in the order of their asking. -/
structure Registry where
  /-- The number of the next connection. -/
  next : Nat
  /-- The sessions that are registered. -/
  sessions : List Nat
  /-- The sessions that have ended and are not struck off, oldest first. -/
  farewells : List Nat
  /-- Whether the last session has been struck off and this is still to be told. -/
  due : Bool
  /-- The number of the next who asks. -/
  asked : Nat
  /-- Those who wait, first come first. -/
  waiting : List Nat
  /-- Whether the next who asks need not wait. -/
  permit : Bool
deriving Repr, DecidableEq

namespace Registry

/-- What can happen to a registry. -/
inductive Event where
  /-- A connection comes, and its session is accepted. -/
  | accept
  /-- A connection comes, but its session cannot begin. -/
  | fail
  /-- A registered session ends. -/
  | leave (session : Nat)
  /-- The oldest farewell is dealt with. -/
  | strike
  /-- It is told that nobody is left. -/
  | tell
  /-- Somebody asks to be told when nobody is connected. -/
  | ask
deriving Repr, DecidableEq

/-- What a registry gives notice of. -/
inductive Notice where
  | accepted (session : Nat)
  | struck (session : Nat)
  /-- One who asked is told that nobody is connected. -/
  | released (asker : Nat)
deriving Repr, DecidableEq

/-- A registry before any event. -/
def empty : Registry := ⟨0, [], [], false, 0, [], false⟩

/-- How many sessions are registered. -/
def count (r : Registry) : Nat := r.sessions.length

/-- Whether a session may end: it is registered and has not ended yet. -/
def isLive (r : Registry) (session : Nat) : Bool :=
  r.sessions.contains session && !r.farewells.contains session

/-- Tells the first who waits, or keeps a permit. -/
def release (r : Registry) : List Notice × Registry :=
  match r.waiting with
  | [] => ([], { r with permit := true })
  | asker :: waiting => ([.released asker], { r with waiting })

/-- One event, with the notices it gives. -/
def step (r : Registry) : Event → List Notice × Registry
  | .accept =>
    if r.due then ([], r)
    else ([.accepted r.next], { r with next := r.next + 1, sessions := r.sessions ++ [r.next] })
  | .fail => ([], if r.due then r else { r with next := r.next + 1 })
  | .leave session =>
    ([], if r.isLive session then { r with farewells := r.farewells ++ [session] } else r)
  | .strike =>
    match r.due, r.farewells with
    | false, session :: farewells =>
      let sessions := r.sessions.erase session
      ([.struck session], { r with sessions, farewells, due := sessions.isEmpty })
    | _, _ => ([], r)
  | .tell => if r.due then { r with due := false }.release else ([], r)
  | .ask =>
    let asker := r.asked
    let r := { r with asked := r.asked + 1 }
    if r.permit then ([.released asker], { r with permit := false })
    else ([], { r with waiting := r.waiting ++ [asker] })

/-- A history: the notices of each event, and the registry in the end. -/
def run (r : Registry) : List Event → List (List Notice) × Registry
  | [] => ([], r)
  | e :: es => ((r.step e).1 :: ((r.step e).2.run es).1, ((r.step e).2.run es).2)

/-- Nobody is told of no events. -/
@[simp] theorem run_nil (r : Registry) : r.run [] = ([], r) := rfl

/-- Who is told of an event is told before those who are told of the others. -/
@[simp] theorem run_cons (r : Registry) (e : Event) (es : List Event) :
    r.run (e :: es) = ((r.step e).1 :: ((r.step e).2.run es).1, ((r.step e).2.run es).2) := rfl

end Registry

end TownTraffic
