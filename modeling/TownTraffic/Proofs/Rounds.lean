import TownTraffic.Proofs.Arrivals
import TownTraffic.Proofs.Publications
import TownTraffic.Proofs.Streams

/-!
# Lines are answered in turn

A viewer may send many lines at once. Its connection takes them one by one, has each served until
there is an answer, and writes the answer before it takes the next. So what has been written is the
answers to the first lines, in order, whatever arrives meanwhile and whatever the other viewers do.

* **`Round`** — a line with its answer and the services it took.
* **`Connection.Stands`** — what is made of the line after those answered.
* **`Account`** — the rounds of a connection; **`Account.exists_advance`** a connection that can be
  accounted for goes on so.
* **`Hosted.events`** — what a connection and its host are to the host alone.
* **`Hosted.answered_in_turn`** — every connection can be accounted for.
-/

namespace TownTraffic

open Text History

variable {α : Type}

/-! ## Accounts -/

/-- A line that has been answered. -/
structure Round (α : Type) where
  bytes : List UInt8
  line : String
  text_eq : Line.text bytes = .ok line
  /-- How often it had to wait. -/
  waits : Nat
  answer : Response α

/-- The services of the line: it was served anew until there was an answer. -/
def Round.services (r : Round α) : List (Service α) :=
  List.replicate r.waits ⟨r.line, .wait⟩ ++ [⟨r.line, .answer r.answer⟩]

/-- **Where a connection stands** after the lines that have been answered: the line it has taken
since, if any, and the services of this line. -/
inductive Connection.Stands (c : Connection) : List (List UInt8) → List (Service α) → Prop
  /-- It has not taken a line, and nothing of the lines before is left in its buffer. -/
  | reading (phase : c.phase = .reading) (clear : c.buffer = []) : Stands c [] []
  /-- It has a line served, or waits to have it served anew. -/
  | serving {bytes : List UInt8} {line : String} (text_eq : Line.text bytes = .ok line)
    (phase : c.phase = .asking line ∨ c.phase = .waiting line) (waits : Nat) :
    Stands c [bytes] (List.replicate waits ⟨line, .wait⟩)
  /-- There are no more lines. -/
  | ended (phase : c.phase = .closed) (ended : c.inbox.ended = true) (empty : c.inbox.bytes = []) :
    Stands c [] []
  /-- The line is no text. -/
  | garbled {bytes : List UInt8} {fault : Utf8Fault} (text_eq : Line.text bytes = .error fault)
    (phase : c.phase = .closed) : Stands c [bytes] []
  /-- The service of the line broke off. -/
  | brokenOff {bytes : List UInt8} {line : String} (text_eq : Line.text bytes = .ok line)
    (phase : c.phase = .closed) (waits : Nat) :
    Stands c [bytes] (List.replicate waits ⟨line, .wait⟩ ++ [⟨line, .brokenOff⟩])

/-- An account of what a connection has done. -/
structure Account (α : Type) where
  /-- The lines that have been answered. -/
  rounds : List (Round α)
  /-- The line that has been taken since, if any. -/
  current : List (List UInt8)
  /-- The services of this line. -/
  pending : List (Service α)

namespace Account

/-- The lines that have been taken. -/
def taken (a : Account α) : List (List UInt8) := a.rounds.map Round.bytes ++ a.current

/-- The services, in order. -/
def services (a : Account α) : List (Service α) := a.rounds.flatMap Round.services ++ a.pending

variable [Json.Wire α]

/-- The bytes of the answers, in order. -/
def answers (a : Account α) : List UInt8 := a.rounds.flatMap fun r => r.answer.bytes

/-- **Whether an account is that of a connection** to which a stream has arrived. -/
structure Of (a : Account α) (c : Connection) (arrivals : List Arrival) : Prop where
  follows : c.inbox.Follows arrivals a.taken
  written_eq : c.written = a.answers
  stands : c.Stands a.current a.pending

/-- The account of a connection before anything has arrived. -/
theorem of_fresh (viewer : Nat) : Of (⟨[], [], []⟩ : Account α) (.fresh viewer) [] where
  follows := Inbox.follows_empty
  written_eq := rfl
  stands := .reading rfl rfl

variable {a : Account α} {c : Connection} {arrivals : List Arrival}

/-- What arrives changes no account. -/
theorem Of.arrive (account : a.Of c arrivals) {arrival : Arrival}
    (orderly : Arrival.Orderly (arrivals ++ [arrival])) :
    a.Of { c with inbox := c.inbox.arrive arrival } (arrivals ++ [arrival]) where
  follows := account.follows.arrive orderly
  written_eq := account.written_eq
  stands := by
    obtain ⟨follows, -, stands⟩ := account
    obtain ⟨rounds, current, pending⟩ := a
    cases stands with
    | reading phase clear => exact .reading phase clear
    | serving text_eq phase waits =>
      refine .serving text_eq ?_ waits
      exact phase
    | garbled text_eq phase => exact .garbled text_eq phase
    | brokenOff text_eq phase waits =>
      refine .brokenOff text_eq ?_ waits
      exact phase
    | ended phase ended empty =>
      -- After the end nothing arrives but the end again.
      cases arrival with
      | finish => exact .ended phase rfl empty
      | piece bytes => exact absurd (follows.ended_iff.mp ended) orderly.finish_not_mem

/-! ### The next thing that a connection does -/

/-- A service of the line is the next one of its round, or ends it. -/
theorem Of.exists_conclude {rounds : List (Round α)} {bytes : List UInt8} {line : String}
    {waits : Nat}
    (account : Of ⟨rounds, [bytes], List.replicate waits ⟨line, .wait⟩⟩ c arrivals)
    (text_eq : Line.text bytes = .ok line) (outcome : Outcome α) :
    ∃ a' : Account α, a'.Of (c.conclude line outcome) arrivals
      ∧ a'.services
        = services ⟨rounds, [bytes], List.replicate waits ⟨line, .wait⟩⟩ ++ [⟨line, outcome⟩] := by
  obtain ⟨follows, written_eq, -⟩ := account
  -- An answer makes a round of the line, a wait leaves it current, a breakdown ends the
  -- connection.
  cases outcome with
  | answer r =>
    refine ⟨⟨rounds ++ [⟨bytes, line, text_eq, waits, r⟩], [], []⟩, ⟨?_, ?_, .reading rfl rfl⟩, ?_⟩
    · simpa [taken, Connection.conclude] using follows
    · simp [answers, Connection.conclude, written_eq]
    · simp [services, Round.services]
  | wait =>
    refine ⟨⟨rounds, [bytes], List.replicate (waits + 1) ⟨line, .wait⟩⟩,
      ⟨follows, written_eq, .serving text_eq (.inr rfl) (waits + 1)⟩, ?_⟩
    simp [services, List.replicate_succ']
  | brokenOff =>
    refine ⟨⟨rounds, [bytes], List.replicate waits ⟨line, .wait⟩ ++ [⟨line, .brokenOff⟩]⟩,
      ⟨follows, written_eq, .brokenOff text_eq rfl waits⟩, ?_⟩
    simp [services]

variable [Scalar α]

/-- A connection that has taken no line takes one, closes, or does nothing. -/
theorem Of.exists_advance_of_reading {rounds : List (Round α)}
    (account : Of ⟨rounds, [], []⟩ c arrivals) (phase : c.phase = .reading)
    (clear : c.buffer = []) (around : Surroundings) (h : Host α) :
    (c.advance around h).1 = none
      ∧ ∃ current, Of ⟨rounds, current, []⟩ (c.advance around h).2.1 arrivals := by
  obtain ⟨follows, written_eq, -⟩ := account
  have gives := c.inbox.gives_take
  -- The buffer is clear, so what is given out is the next line by itself.
  obtain ⟨buffer, htake⟩ := c.inbox.exists_takeOnto_nil
  rw [← clear] at htake
  simp only [Connection.advance, phase, htake]
  generalize c.inbox.take.1 = incoming at gives
  generalize c.inbox.take.2 = inbox at gives
  cases gives with
  | unfinished => exact ⟨rfl, [], follows, written_eq, .reading phase clear⟩
  | ended ended empty => exact ⟨rfl, [], follows, written_eq, .ended rfl ended empty⟩
  | @line line rest split =>
    have follows : Inbox.Follows { c.inbox with bytes := rest } arrivals
        (taken ⟨rounds, [line], ([] : List (Service α))⟩) := by
      simpa [taken] using follows.take_line split
    cases htext : Line.text line with
    | ok text =>
      simp only [Incoming.ofLine, htext, true_and]
      exact ⟨[line], follows, written_eq, .serving htext (.inl rfl) 0⟩
    | error fault =>
      simp only [Incoming.ofLine, htext, true_and]
      exact ⟨[line], follows, written_eq, .garbled htext rfl⟩

/-- **A connection that can be accounted for goes on so**: whatever it does next adds its service to
the account. -/
theorem Of.exists_advance (account : a.Of c arrivals) (around : Surroundings) (h : Host α) :
    ∃ a' : Account α, a'.Of (c.advance around h).2.1 arrivals
      ∧ a'.services = a.services ++ (c.advance around h).1.toList := by
  obtain ⟨rounds, current, pending⟩ := a
  have idle (closed : c.phase = .closed) : ∃ a' : Account α,
      a'.Of (c.advance around h).2.1 arrivals
        ∧ a'.services = services ⟨rounds, current, pending⟩ ++ (c.advance around h).1.toList := by
    rw [Connection.advance_of_closed closed]
    exact ⟨_, account, by simp⟩
  -- By how the connection stands; closed ones have nothing left to do.
  cases stands : account.stands with
  | reading phase clear =>
    obtain ⟨hnone, current, account⟩ := account.exists_advance_of_reading phase clear around h
    exact ⟨_, account, by simp [services, hnone]⟩
  | @serving bytes line text_eq phase waits =>
    obtain asking | waiting := phase
    · simp only [Connection.advance, asking, Option.toList_some]
      exact account.exists_conclude text_eq _
    · simp only [Connection.advance, waiting]
      split
      · exact ⟨_, account, by simp⟩
      · exact ⟨_, ⟨account.follows, account.written_eq, .serving text_eq (.inl rfl) waits⟩, by simp⟩
  | ended phase => exact idle phase
  | garbled _ phase => exact idle phase
  | brokenOff _ phase => exact idle phase

end Account

/-! ## Histories of a connection -/

/-- What arrives on the connection. -/
def Hosted.Event.arrival? : Hosted.Event → Option Arrival
  | .arrive bytes => some (.piece bytes)
  | .finish => some .finish
  | .advance _ | .host _ => none

/-- What happens to the host alone: the connection has its lines served. -/
def Hosted.event? (s : Hosted α) : Hosted.Event → Option TownTraffic.Event
  | .arrive _ | .finish => none
  | .advance around =>
    match s.connection.phase with
    | .asking line => some (.line s.connection.viewer line around)
    | _ => none
  | .host event => some event

/-- The service of a line of the viewer. -/
def Entry.service? (viewer : Nat) (entry : Entry α) : Option (Service α) :=
  match entry.event, entry.outcome with
  | .line who text _, some outcome => if who = viewer then some ⟨text, outcome⟩ else none
  | _, _ => none

namespace Hosted

variable [Scalar α]

/-- A connection and its host before anything has happened. -/
def fresh (town : Town α) (viewer : Nat) : Hosted α := ⟨.fresh viewer, .fresh town⟩

variable [Json.Wire α]

/-- What happens to the host along a history. -/
def events (s : Hosted α) : List Hosted.Event → List TownTraffic.Event
  | [] => []
  | e :: es => (s.event? e).toList ++ (s.step e).2.events es

/-- A connection keeps the number of its viewer. -/
@[simp] theorem viewer_step (s : Hosted α) (e : Hosted.Event) :
    (s.step e).2.connection.viewer = s.connection.viewer := by
  cases e with
  | advance around =>
    obtain ⟨c, h⟩ := s
    simp only [step, Connection.advance]
    split
    · split <;> rfl
    · simp only [Connection.conclude]
      split <;> rfl
    · split <;> rfl
    · rfl
  | _ => rfl

/-- A connection deals with the host by having its lines served. -/
theorem host_step (s : Hosted α) (e : Hosted.Event) :
    (s.step e).2.host = s.host.after (s.event? e).toList := by
  cases e with
  | advance around =>
    obtain ⟨c, h⟩ := s
    cases phase : c.phase with
    | reading =>
      simp only [step, event?, Connection.advance, phase, Option.toList_none, Host.after_nil]
      split <;> rfl
    | asking line => simp [step, event?, Connection.advance, phase, Host.step]
    | waiting line =>
      simp only [step, event?, Connection.advance, phase, Option.toList_none, Host.after_nil]
      split <;> rfl
    | closed => simp [step, event?, Connection.advance_of_closed phase, phase]
  | _ => rfl

/-- The services of a connection are those of its viewer's lines. -/
theorem services_step (s : Hosted α) {e : Hosted.Event}
    (others : ∀ event, e = .host event → event.viewer? ≠ some s.connection.viewer) :
    (s.step e).1.toList
      = (s.host.log (s.event? e).toList).filterMap (Entry.service? s.connection.viewer) := by
  -- Only a connection that asks is served, and only the line that it holds.
  cases e with
  | arrive | finish => rfl
  | advance around =>
    obtain ⟨c, h⟩ := s
    cases phase : c.phase with
    | reading =>
      simp only [step, event?, Connection.advance, phase]
      split <;> rfl
    | asking line => simp [step, event?, Connection.advance, phase, Host.step, Entry.service?]
    | waiting line =>
      simp only [step, event?, Connection.advance, phase]
      split <;> rfl
    | closed => simp [step, event?, Connection.advance_of_closed phase, phase]
  | host event =>
    cases event with
    | tick => simp [step, event?, Entry.service?]
    | line who text around =>
      have hwho : who ≠ s.connection.viewer := by
        rintro rfl
        exact others _ rfl rfl
      simp [step, event?, Entry.service?, Host.step, hwho]

/-- Along a history the host is the one that has met with its events. -/
theorem host_run (s : Hosted α) (es : List Hosted.Event) :
    (s.run es).2.host = s.host.after (s.events es) := by
  induction es generalizing s with
  | nil => rfl
  | cons e es ih => rw [run_cons, ih, host_step, events, Host.after_append]

/-- Along a history the services of a connection are those of its viewer's lines. -/
theorem services_run (s : Hosted α) {es : List Hosted.Event}
    (others : ∀ event, .host event ∈ es → event.viewer? ≠ some s.connection.viewer) :
    (s.run es).1
      = (s.host.log (s.events es)).filterMap (Entry.service? s.connection.viewer) := by
  induction es generalizing s with
  | nil => rfl
  | cons e es ih =>
    have hstep := s.services_step (e := e) fun event he => others event (by simp [he])
    have hrun := ih (s.step e).2 fun event hevent => by
      rw [viewer_step]
      exact others event (by simp [hevent])
    rw [viewer_step, host_step] at hrun
    rw [run_cons, events, Host.log_append, List.filterMap_append, ← hstep, ← hrun]

/-- **A connection can be accounted for along a history.** -/
theorem exists_account_run {s : Hosted α} {a : Account α} {arrivals : List Arrival}
    (account : a.Of s.connection arrivals) {es : List Hosted.Event}
    (orderly : Arrival.Orderly (arrivals ++ es.filterMap Hosted.Event.arrival?)) :
    ∃ a' : Account α,
      a'.Of (s.run es).2.connection (arrivals ++ es.filterMap Hosted.Event.arrival?)
        ∧ a'.services = a.services ++ (s.run es).1 := by
  -- On the events; what is still to be shown is the same for every account of what has been so
  -- far.
  induction es generalizing s a arrivals with
  | nil => exact ⟨a, by simpa using account, by simp⟩
  | cons e es ih =>
    -- Bytes and the end of the stream go to the inbox alone.
    have arrive {arrival : Arrival} (harrival : e.arrival? = some arrival)
        (hstep : s.step e
          = (none, { s with connection.inbox := s.connection.inbox.arrive arrival })) :
        ∃ a' : Account α, a'.Of (s.run (e :: es)).2.connection
            (arrivals ++ (e :: es).filterMap Hosted.Event.arrival?)
          ∧ a'.services = a.services ++ (s.run (e :: es)).1 := by
      rw [List.filterMap_cons_some harrival, List.append_cons] at orderly ⊢
      have account := account.arrive (List.pairwise_append.mp orderly).1
      rw [run_cons, hstep]
      exact ih account orderly
    cases e with
    | arrive bytes => exact arrive rfl rfl
    | finish => exact arrive rfl rfl
    | advance around =>
      obtain ⟨a', account, hservices⟩ := account.exists_advance around s.host
      obtain ⟨a'', account, hservices'⟩ :=
        ih (s := (s.step (.advance around)).2) account orderly
      refine ⟨a'', account, ?_⟩
      rw [hservices', hservices, run_cons, List.append_assoc]
      rfl
    | host event =>
      obtain ⟨a', account, hservices⟩ :=
        ih (s := (s.step (.host event)).2) account orderly
      exact ⟨a', account, hservices⟩

end Hosted

/-- A connection that has nothing to do waits for bytes or for a frame, or has closed. -/
theorem Connection.phase_of_advance_eq_self [Scalar α] [Json.Wire α] {c : Connection} {h : Host α}
    {around : Surroundings} (idle : (c.advance around h).2.1 = c) :
    (c.phase = .reading ∧ c.inbox.ended = false)
      ∨ (∃ line, c.phase = .waiting line ∧ c.seen = h.simulator.value.publications)
      ∨ c.phase = .closed := by
  -- In every other case the connection would have gone on to another phase.
  cases phase : c.phase with
  | reading =>
    cases htake : c.inbox.takeOnto c.buffer with
    | mk incoming left =>
      simp only [advance, phase, htake] at idle
      cases incoming with
      | unfinished => exact .inl ⟨rfl, Inbox.ended_eq_false_of_takeOnto (by rw [htake])⟩
      | line => simpa [phase] using congrArg Connection.phase idle
      | garbled => simpa [phase] using congrArg Connection.phase idle
      | ended => simpa [phase] using congrArg Connection.phase idle
  | asking line =>
    simp only [advance, phase] at idle
    generalize (h.receive c.viewer line around).1 = outcome at idle
    cases outcome <;> simpa [conclude, phase] using congrArg Connection.phase idle
  | waiting line =>
    simp only [advance, phase] at idle
    split at idle
    next seen => exact .inr (.inl ⟨line, rfl, seen.symm⟩)
    next => simpa [phase] using congrArg Connection.phase idle
  | closed => exact .inr (.inr rfl)

/-- **Lines are answered in turn.** However a viewer's stream is cut into pieces, and whatever
happens meanwhile, the lines of the stream are those answered, the one that the connection has
taken since, if any, and those that it has not taken yet. What has been written is the answers, in
order. The services are those of the answered lines, each served anew until there was an answer, and
then those of the current line; and they are all that the host has ever done for the viewer. Once
the viewer has stopped sending, a connection that has nothing to do has closed, or waits for a
frame to be published. -/
theorem Hosted.answered_in_turn [Scalar α] [Json.Wire α] (town : Town α) (viewer : Nat)
    {es : List Hosted.Event}
    (orderly : Arrival.Orderly (es.filterMap Hosted.Event.arrival?))
    (others : ∀ event, .host event ∈ es → event.viewer? ≠ some viewer) :
    let s := ((fresh town viewer).run es).2
    (∃ (rounds : List (Round α)) (current : List (List UInt8)) (pending : List (Service α)),
      Line.split (Arrival.stream (es.filterMap Hosted.Event.arrival?))
          = rounds.map Round.bytes ++ current ++ Line.split s.connection.inbox.bytes
        ∧ s.connection.written = rounds.flatMap (fun r => r.answer.bytes)
        ∧ ((fresh town viewer).run es).1 = rounds.flatMap Round.services ++ pending
        ∧ s.connection.Stands current pending)
      ∧ s.host = (Host.fresh town).after ((fresh town viewer).events es)
      ∧ ((fresh town viewer).run es).1
        = ((Host.fresh town).log ((fresh town viewer).events es)).filterMap
          (Entry.service? viewer)
      ∧ (.finish ∈ es.filterMap Hosted.Event.arrival? →
        ∀ around, (s.connection.advance around s.host).2.1 = s.connection →
          s.connection.phase = .closed
            ∨ ∃ line, s.connection.phase = .waiting line
              ∧ s.connection.seen = s.host.simulator.value.publications) := by
  intro s
  obtain ⟨a, account, hservices⟩ := exists_account_run (s := fresh town viewer)
    (Account.of_fresh viewer) (by simpa using orderly : Arrival.Orderly ([] ++ es.filterMap _))
  rw [List.nil_append] at account
  refine ⟨⟨a.rounds, a.current, a.pending, account.follows.split_eq, account.written_eq,
    by simpa [Account.services] using hservices.symm, account.stands⟩,
    host_run _ es, services_run _ others, fun finished around idle => ?_⟩
  obtain ⟨-, going⟩ | waiting | closed := Connection.phase_of_advance_eq_self idle
  · rw [account.follows.ended_iff.mpr finished] at going
    cases going
  · exact .inr waiting
  · exact .inl closed

/-! ### A viewer that does not wait for answers -/

/-- A viewer sends four lines in two pieces, the second of which begins within the last line; the
last line asks for the frame that the viewer has by then. -/
def History.pipelined : List Hosted.Event :=
  let lines := ["[\"Configure\",[false,true,1,1,1,\"Low\",1,2]]", "[\"StartEpisode\",0]",
    "[\"ReadSnapshot\"]", "[\"ReadSnapshot\"]"].flatMap Line.ofText
  let advances (n : Nat) : List Hosted.Event := List.replicate n (.advance ⟨0, ⟨0, 0⟩⟩)
  [.arrive (lines.take 80)] ++ advances 7 ++ [.arrive (lines.drop 80), .finish] ++ advances 4
    ++ [.host .tick] ++ advances 3

/-- The last line of a viewer of a vehicle and a pedestrian is served three times: once more because
the start of the episode has not been noticed, and then because there is another frame. -/
theorem Hosted.answered_in_turn_pipelined :
    Arrival.Orderly (pipelined.filterMap Hosted.Event.arrival?)
      ∧ (∀ event, .host event ∈ pipelined → event.viewer? ≠ some 0)
      ∧ ((fresh Town.served 0).run pipelined).2.connection.phase = .closed
      ∧ ((fresh Town.served 0).run pipelined).1.map Service.line
        = ["[\"Configure\",[false,true,1,1,1,\"Low\",1,2]]", "[\"StartEpisode\",0]",
          "[\"ReadSnapshot\"]", "[\"ReadSnapshot\"]", "[\"ReadSnapshot\"]", "[\"ReadSnapshot\"]"]
      ∧ ∃ (rounds : List (Round Float32)) (current : List (List UInt8))
          (pending : List (Service Float32)),
        Line.split (Arrival.stream (pipelined.filterMap Hosted.Event.arrival?))
            = rounds.map Round.bytes ++ current
          ∧ ((fresh Town.served 0).run pipelined).2.connection.written
            = rounds.flatMap (fun r => r.answer.bytes)
          ∧ ((fresh Town.served 0).run pipelined).1 = rounds.flatMap Round.services ++ pending
          ∧ ((fresh Town.served 0).run pipelined).2.connection.Stands current pending := by
  have orderly : Arrival.Orderly (pipelined.filterMap Hosted.Event.arrival?) := by
    unfold Arrival.Orderly
    decide +kernel
  have others : ∀ event, .host event ∈ pipelined → event.viewer? ≠ some 0 := by
    intro event h
    have htick : event = .tick := by simpa [pipelined] using h
    simp [htick, Event.viewer?]
  -- The history is run once, for all that is asked of it.
  have runs : ((fresh Town.served 0).run pipelined).2.connection.inbox.bytes = []
      ∧ ((fresh Town.served 0).run pipelined).2.connection.phase = .closed
      ∧ ((fresh Town.served 0).run pipelined).1.map Service.line
        = ["[\"Configure\",[false,true,1,1,1,\"Low\",1,2]]", "[\"StartEpisode\",0]",
          "[\"ReadSnapshot\"]", "[\"ReadSnapshot\"]", "[\"ReadSnapshot\"]",
          "[\"ReadSnapshot\"]"] := by
    decide +kernel
  obtain ⟨empty, closed, lines⟩ := runs
  obtain ⟨⟨rounds, current, pending, hsplit, hwritten, hservices, stands⟩, -⟩ :=
    answered_in_turn Town.served 0 orderly others
  rw [empty, Line.split_nil, List.append_nil] at hsplit
  exact ⟨orderly, others, closed, lines, rounds, current, pending, hsplit, hwritten, hservices,
    stands⟩

end TownTraffic
