import TownTraffic.Text.Line

/-!
# Reading a connection line by line

Bytes arrive in pieces that have nothing to do with lines. An `Inbox` keeps what has arrived and not
been taken yet, and gives it out line by line. It knows whether the other side has stopped sending:
until then an unfinished line is kept back, afterwards it counts as the last one.

* **`Inbox.receive`**, **`Inbox.finish`** — more bytes arrive, and no more will.
* **`Inbox.takeOnto`** — takes the next line into a buffer, behind what the buffer holds.
* **`Inbox.take`** — takes the next line by itself.
-/

namespace TownTraffic

open Text

/-- What has arrived on a connection and not been taken yet. -/
structure Inbox where
  bytes : List UInt8
  /-- Whether no more will arrive. -/
  ended : Bool
deriving Repr, DecidableEq, Inhabited

/-- What an inbox gives out. -/
inductive Incoming where
  /-- A line without the blanks at its ends. -/
  | line (text : String)
  /-- A line that is no text. -/
  | garbled (fault : Utf8Fault)
  /-- The next line is not there yet. -/
  | unfinished
  /-- There are no more lines. -/
  | ended
deriving Repr, DecidableEq

/-- What the bytes of a line hold. -/
def Incoming.ofLine (bytes : List UInt8) : Incoming :=
  match Line.text bytes with
  | .ok text => .line text
  | .error fault => .garbled fault

namespace Inbox

/-- An inbox into which nothing has arrived. -/
def empty : Inbox := ⟨[], false⟩

/-- The inbox of a stream that has arrived as a whole. -/
def whole (bytes : List UInt8) : Inbox := ⟨bytes, true⟩

/-- More bytes arrive. -/
def receive (i : Inbox) (bytes : List UInt8) : Inbox := { i with bytes := i.bytes ++ bytes }

/-- No more bytes will arrive. -/
def finish (i : Inbox) : Inbox := { i with ended := true }

/-- Takes the next line into a buffer, behind what the buffer holds already: what is given out is
all that the buffer holds then. Bytes that make it no text are left out of the buffer. -/
def takeOnto (buffer : List UInt8) (i : Inbox) : Incoming × List UInt8 × Inbox :=
  if i.ended ∨ Line.feed ∈ i.bytes then
    if i.bytes = [] then (.ended, buffer, i)
    else
      let (line, rest) := Line.cut i.bytes
      match Line.text (buffer ++ line) with
      | .ok text => (.line text, buffer ++ line, { i with bytes := rest })
      | .error fault => (.garbled fault, buffer, { i with bytes := rest })
  else (.unfinished, buffer, i)

/-- Takes the next line by itself. -/
def take (i : Inbox) : Incoming × Inbox :=
  let (incoming, _, i) := i.takeOnto []
  (incoming, i)

/-- What taking the next line comes to. -/
theorem take_eq (i : Inbox) :
    i.take = if i.ended ∨ Line.feed ∈ i.bytes then
        if i.bytes = [] then (.ended, i)
        else (.ofLine (Line.cut i.bytes).1, { i with bytes := (Line.cut i.bytes).2 })
      else (.unfinished, i) := by
  simp only [take, takeOnto, List.nil_append, Incoming.ofLine]
  split
  · split
    · rfl
    · split <;> simp [*]
  · rfl

/-- An empty buffer has no part in what is given out. -/
theorem exists_takeOnto_nil (i : Inbox) :
    ∃ buffer, i.takeOnto [] = (i.take.1, buffer, i.take.2) :=
  ⟨(i.takeOnto []).2.1, rfl⟩

/-- Only where more may arrive a line is kept back. -/
theorem ended_eq_false_of_takeOnto {buffer : List UInt8} {i : Inbox}
    (h : (i.takeOnto buffer).1 = .unfinished) : i.ended = false := by
  refine Bool.eq_false_iff.mpr fun ended => ?_
  simp only [takeOnto, ended, true_or, if_true] at h
  split at h
  next => cases h
  next => split at h <;> cases h

/-- Nothing is left of a stream that has arrived as a whole. -/
@[simp] theorem take_whole_nil : (whole []).take = (.ended, whole []) := rfl

/-- A finished line is given out even if more may follow. -/
theorem take_of_not_mem {line : List UInt8} (h : Line.feed ∉ line) (rest : List UInt8)
    (ended : Bool) :
    take ⟨line ++ Line.feed :: rest, ended⟩ = (.ofLine (line ++ [Line.feed]), ⟨rest, ended⟩) := by
  simp [take_eq, Line.cut_of_not_mem h]

end Inbox

end TownTraffic
