import TownTraffic.Session.Inbox

/-!
# Streams that arrive in pieces

Both ends of a connection take lines off a stream that arrives piece by piece. How it is cut into
pieces does not matter: the lines that an inbox gives out are those of the whole stream, one after
the other, and what it keeps back is the rest.

* **`Arrival`** — a piece, or the end; **`Arrival.stream`** the stream that has arrived.
* **`Inbox.Gives`** — what taking a line comes to; **`Inbox.gives_take`** it always comes to that.
* **`Inbox.Follows`** — which lines of the stream have been taken, whatever may still arrive.
-/

namespace TownTraffic

open Text

/-- What arrives on a connection. -/
inductive Arrival where
  | piece (bytes : List UInt8)
  /-- No more will arrive. -/
  | finish
deriving Repr, DecidableEq

namespace Arrival

/-- The bytes that arrive. -/
def bytes : Arrival → List UInt8
  | piece bytes => bytes
  | finish => []

/-- The stream that has arrived. -/
def stream (arrivals : List Arrival) : List UInt8 := arrivals.flatMap bytes

/-- Whether nothing arrives after the end. -/
def Orderly (arrivals : List Arrival) : Prop :=
  arrivals.Pairwise fun earlier later => earlier = finish → later = finish

/-- What arrives next stands at the end of the stream. -/
theorem stream_concat (arrivals : List Arrival) (a : Arrival) :
    stream (arrivals ++ [a]) = stream arrivals ++ a.bytes := by
  simp [stream]

/-- A piece arrives before the end. -/
theorem Orderly.finish_not_mem {arrivals : List Arrival} {bytes : List UInt8}
    (orderly : Orderly (arrivals ++ [piece bytes])) : finish ∉ arrivals := by
  intro hfinish
  have hlast := (List.pairwise_append.mp orderly).2.2 finish hfinish (piece bytes) (by simp) rfl
  cases hlast

/-- After the end no bytes arrive. -/
theorem Orderly.stream_eq_nil {later : List Arrival} (orderly : Orderly (finish :: later)) :
    stream later = [] := by
  rw [stream, List.flatMap_eq_nil_iff]
  intro a ha
  rw [(List.pairwise_cons.mp orderly).1 a ha rfl]
  rfl

end Arrival

namespace Inbox

/-- Something arrives. -/
def arrive (i : Inbox) : Arrival → Inbox
  | .piece bytes => i.receive bytes
  | .finish => i.finish

/-- What arrives next may as well be in the inbox already. -/
theorem bytes_append_stream_cons (i : Inbox) (a : Arrival) (later : List Arrival) :
    i.bytes ++ Arrival.stream (a :: later) = (i.arrive a).bytes ++ Arrival.stream later := by
  cases a <;> simp [Arrival.stream, Arrival.bytes, arrive, receive, finish]

/-- Behind the end nothing is to come, be it the end that arrives next or one before it. -/
theorem stream_eq_nil_of_arrive {i : Inbox} {a : Arrival} {later : List Arrival}
    (orderly : Arrival.Orderly (a :: later))
    (nothing : i.ended = true → Arrival.stream (a :: later) = [])
    (hended : (i.arrive a).ended = true) : Arrival.stream later = [] := by
  cases a with
  | finish => exact orderly.stream_eq_nil
  | piece bytes => exact (List.append_eq_nil_iff.mp (nothing hended)).2

/-! ## Taking a line -/

/-- **What taking a line comes to.** From an inbox: what it gives out, and the inbox afterwards. -/
inductive Gives (i : Inbox) : Incoming → Inbox → Prop
  /-- The next line is not there yet. -/
  | unfinished (unfinished : i.ended = false) : Gives i .unfinished i
  /-- There are no more lines. -/
  | ended (ended : i.ended = true) (empty : i.bytes = []) : Gives i .ended i
  /-- The first line is given out, and is the first line whatever arrives behind it. -/
  | line {line rest : List UInt8}
    (split : ∀ more, (i.ended = true → more = []) →
      Line.split (i.bytes ++ more) = line :: Line.split (rest ++ more)) :
    Gives i (.ofLine line) { i with bytes := rest }

/-- A finished line stays the first line whatever arrives behind it. -/
theorem split_append_of_mem {s : List UInt8} (h : Line.feed ∈ s) (more : List UInt8) :
    Line.split (s ++ more) = (Line.cut s).1 :: Line.split ((Line.cut s).2 ++ more) := by
  obtain ⟨line, rest, rfl, hline⟩ := List.eq_append_cons_of_mem h
  rw [Line.cut_of_not_mem hline, List.append_assoc, List.cons_append,
    Line.split_of_not_mem hline]

/-- **Taking a line always comes to one of these.** -/
theorem gives_take (i : Inbox) : i.Gives i.take.1 i.take.2 := by
  rw [take_eq]
  split
  next there =>
    split
    next empty =>
      refine .ended (there.resolve_right ?_) empty
      simp [empty]
    next some =>
      refine .line fun more ended => ?_
      obtain closed | finished := there
      · -- Nothing arrives behind a line that may be unfinished.
        rw [ended closed, List.append_nil, List.append_nil, Line.split_eq_cons some]
      · exact split_append_of_mem finished more
  next missing =>
    exact .unfinished (Bool.eq_false_iff.mpr (not_or.mp missing).1)

/-! ## Following a stream -/

/-- **Whether an inbox follows a stream**, of which some lines have been taken: they are its first
lines, and those still to come are its other lines, whatever may arrive. -/
structure Follows (i : Inbox) (arrivals : List Arrival) (taken : List (List UInt8)) : Prop where
  ended_iff : i.ended = true ↔ .finish ∈ arrivals
  split_append : ∀ more, (i.ended = true → more = []) →
    Line.split (Arrival.stream arrivals ++ more) = taken ++ Line.split (i.bytes ++ more)

/-- Nothing has arrived at an empty inbox. -/
theorem follows_empty : Follows .empty [] [] where
  ended_iff := by simp [empty]
  split_append := fun _ _ => rfl

namespace Follows

variable {i i' : Inbox} {arrivals : List Arrival} {taken : List (List UInt8)} {line : List UInt8}

/-- The lines of the stream so far. -/
theorem split_eq (follows : i.Follows arrivals taken) :
    Line.split (Arrival.stream arrivals) = taken ++ Line.split i.bytes := by
  simpa using follows.split_append [] fun _ => rfl

/-- What arrives is left for later. -/
theorem arrive (follows : i.Follows arrivals taken) {a : Arrival}
    (orderly : Arrival.Orderly (arrivals ++ [a])) :
    (i.arrive a).Follows (arrivals ++ [a]) taken := by
  cases a with
  | finish =>
    refine ⟨by simp [Inbox.arrive, finish], fun more nothing => ?_⟩
    rw [nothing rfl, List.append_nil, Arrival.stream_concat]
    simpa [Inbox.arrive, finish, Arrival.bytes] using follows.split_eq
  | piece bytes =>
    have hgoing : i.ended = false :=
      Bool.eq_false_iff.mpr fun h => orderly.finish_not_mem (follows.ended_iff.mp h)
    refine ⟨by simp [Inbox.arrive, receive, follows.ended_iff], fun more _ => ?_⟩
    have hsplit := follows.split_append (bytes ++ more) (by simp [hgoing])
    simpa [Arrival.stream_concat, Inbox.arrive, receive, Arrival.bytes] using hsplit

/-- A line that is given out has been taken. -/
theorem take_line (follows : i.Follows arrivals taken) {rest : List UInt8}
    (split : ∀ more, (i.ended = true → more = []) →
      Line.split (i.bytes ++ more) = line :: Line.split (rest ++ more)) :
    Follows { i with bytes := rest } arrivals (taken ++ [line]) where
  ended_iff := follows.ended_iff
  split_append := by
    intro more nothing
    rw [follows.split_append more nothing, split more nothing, List.append_assoc,
      List.singleton_append]

end Follows

end Inbox

end TownTraffic
