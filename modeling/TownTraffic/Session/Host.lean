import TownTraffic.Session.Service

/-!
# Many viewers at one simulator

A `Host` is a simulator with the progress of every viewer. It takes one step an event: a tick of the
simulator's clock, or a line of one of the viewers.

* **`Host.fresh`** — before any event; **`Host.step`** — one event; **`Host.run`** — a history.
-/

namespace TownTraffic

variable {α : Type}

/-- A simulator with the progress of every viewer. -/
structure Host (α : Type) where
  simulator : Guarded (Simulator α)
  /-- The progress of the viewer with a given number. -/
  progress : Nat → Guarded Progress

/-- What can happen to a host. -/
inductive Event where
  /-- A tick of the clock. -/
  | tick
  /-- A line of a viewer, served in given surroundings. -/
  | line (viewer : Nat) (text : String) (around : Surroundings)
deriving Repr, DecidableEq

namespace Host

variable [Scalar α]

/-- A host before any event. -/
def fresh (town : Town α) : Host α := ⟨.sound (.idle town), fun _ => .sound .start⟩

/-- A tick of the clock; a spoiled simulator stands still. -/
def tick (h : Host α) : Host α :=
  if h.simulator.spoiled then h
  else { h with simulator := .sound h.simulator.value.tick }

/-- A line of a viewer. -/
def receive (h : Host α) (viewer : Nat) (text : String) (around : Surroundings) :
    Outcome α × Host α :=
  match route around text (h.progress viewer) h.simulator with
  | (outcome, p, s) =>
    (outcome, ⟨s, fun other => if other = viewer then p else h.progress other⟩)

/-- One event, with what comes of it if it is a line. -/
def step (h : Host α) : Event → Option (Outcome α) × Host α
  | .tick => (none, h.tick)
  | .line viewer text around =>
    match h.receive viewer text around with
    | (outcome, h) => (some outcome, h)

/-- A history: what came of each event, and the host in the end. -/
def run (h : Host α) : List Event → List (Option (Outcome α)) × Host α
  | [] => ([], h)
  | e :: es =>
    match h.step e with
    | (outcome, h) =>
      match h.run es with
      | (outcomes, h) => (outcome :: outcomes, h)

/-- Nothing comes of no events. -/
@[simp] theorem run_nil (h : Host α) : h.run [] = ([], h) := rfl

/-- What an event leads to comes before what the others lead to. -/
@[simp] theorem run_cons (h : Host α) (e : Event) (es : List Event) :
    h.run (e :: es) = ((h.step e).1 :: ((h.step e).2.run es).1, ((h.step e).2.run es).2) := rfl

/-- A line leaves the other viewers where they are. -/
theorem progress_receive_of_ne (h : Host α) {viewer other : Nat} (ne : other ≠ viewer)
    (text : String) (around : Surroundings) :
    (h.receive viewer text around).2.progress other = h.progress other := by
  simp [receive, ne]

end Host

end TownTraffic
