import TownTraffic.Proofs.Arrivals
import TownTraffic.Proofs.Streams
import TownTraffic.Session.Caller

/-!
# Answers belong to their calls

A viewer calls again and again and takes one line for the answer each time. However the stream of
answers arrives, the answer to a call is the line of the same number, and what the viewer learns
depends on this line and on the call alone. So an answer that does not fit is gone with its call.

* **`Caller`** — a viewer's end of a connection; **`Caller.run`** what it learns along a history.
* **`Call.Grants`** — which response grants which call; **`Call.Learns`** what a call learns from a
  line, and **`Call.learns_hear`** it always learns that.
* **`results`** — what calls make of the lines of a stream; **`Caller.run_eq_results`** that is what
  a viewer learns.
* **`Caller.answered_by_own_line`** — the answer to a call is the line of the same number.
-/

namespace TownTraffic

open Text

variable {α : Type}

/-! ## A viewer's end of a connection -/

/-- A viewer's end of a connection. -/
structure Caller where
  inbox : Inbox
  /-- Whether the connection can be used on. -/
  usable : Bool

/-- What can happen at a viewer's end. -/
inductive Caller.Event where
  | arrival (a : Arrival)
  /-- The viewer calls and takes the answer. -/
  | call (c : Call)
deriving Repr, DecidableEq

namespace Caller

namespace Event

/-- What arrives. -/
def arrival? : Event → Option Arrival
  | arrival a => some a
  | call _ => none

/-- What is asked. -/
def call? : Event → Option Call
  | arrival _ => none
  | call c => some c

end Event

/-- A viewer's end of a connection before anything has arrived. -/
def fresh : Caller := ⟨.empty, true⟩

variable [Detailed α] [Json.Wire α]

/-- One event, with what the viewer learns if it calls. -/
def step (limit : Duration) (s : Caller) :
    Event → Option (Except SessionFault (Reply α)) × Caller
  | .arrival a => (none, { s with inbox := s.inbox.arrive a })
  | .call c =>
    if s.usable then
      match c.take limit s.inbox with
      | (result, inbox) => (some result, ⟨inbox, isUsable result⟩)
    else (none, s)

/-- A history: what the viewer learns, call by call, and its end of the connection afterwards. -/
def run (limit : Duration) (s : Caller) :
    List Event → List (Except SessionFault (Reply α)) × Caller
  | [] => ([], s)
  | e :: es =>
    match s.step limit e with
    | (result, s) => (result.toList ++ (s.run limit es).1, (s.run limit es).2)

end Caller

/-! ## What a call makes of a line -/

/-- **Which response grants which call**, and what is learnt from it. -/
inductive Call.Grants : Call → Response α → Reply α → Prop
  | ping (payload : Option String) : Grants .ping (.ping payload) .done
  | configure (settings : Settings) (description : TownDescription α) :
    Grants (.configure settings) (.town description) (.town description)
  | startEpisode (spot : UInt64) : Grants (.startEpisode spot) (.episodeReady true) .done
  | readFrame (frame : Frame α) : Grants .readFrame (.frame frame) (.frame frame)

namespace Call

section

variable [Detailed α] {c : Call} {response : Response α} {reply : Reply α}

/-- A response that grants a call is good. -/
theorem Grants.judge_eq (grants : c.Grants response reply) : c.judge response = .ok reply := by
  cases grants <;> rfl

/-- Any other response is a fault of the protocol. -/
theorem judge_of_not_grants (h : ∀ reply, ¬ c.Grants response reply) :
    ∃ reason, c.judge response = .error (.protocol reason) := by
  -- A response of another kind than the call's is a fault, whatever it says.
  cases response with
  | ping payload =>
    cases c with
    | ping => exact absurd (.ping payload) (h _)
    | _ => exact ⟨_, rfl⟩
  | town description =>
    cases c with
    | configure settings => exact absurd (.configure settings description) (h _)
    | _ => exact ⟨_, rfl⟩
  | episodeReady ready =>
    cases ready with
    | true =>
      cases c with
      | startEpisode spot => exact absurd (.startEpisode spot) (h _)
      | _ => exact ⟨_, rfl⟩
    | false => cases c <;> exact ⟨_, rfl⟩
  | frame f =>
    cases c with
    | readFrame => exact absurd (.readFrame f) (h _)
    | _ => exact ⟨_, rfl⟩
  | badRequest reason => exact ⟨_, rfl⟩
  | badState => exact ⟨_, rfl⟩

end

variable [Json.Wire α]

/-- Whether a line holds a response that grants the call. -/
def Granted (c : Call) (line : List UInt8) (reply : Reply α) : Prop :=
  ∃ text response, Line.text line = .ok text
    ∧ (Json.Wire.codec : Json.Codec (Response α)).ofText text = .ok response
    ∧ c.Grants response reply

/-- **What a call learns from the next line**, or from the end of the stream if there is none. -/
structure Learns (c : Call) (line? : Option (List UInt8))
    (result : Except SessionFault (Reply α)) : Prop where
  ok_iff : ∀ reply, result = .ok reply ↔ ∃ line ∈ line?, c.Granted line reply
  disconnected_iff : result = .error .disconnected ↔ line? = none
  connectivity_iff : (∃ reason, result = .error (.connectivity reason))
    ↔ ∃ line ∈ line?, ∃ fault, Line.text line = .error fault
  protocol_iff : (∃ reason, result = .error (.protocol reason))
    ↔ ∃ line ∈ line?, (∃ text, Line.text line = .ok text)
      ∧ ∀ reply : Reply α, ¬ c.Granted line reply

section

variable {c : Call} {line : List UInt8} {reply other : Reply α}

/-- A line that is no text grants nothing. -/
theorem not_granted_of_garbled {fault : Utf8Fault} (htext : Line.text line = .error fault) :
    ¬ c.Granted line reply := by
  rintro ⟨text, response, hother, -, -⟩
  simp [htext] at hother

/-- A line grants at most one thing. -/
theorem Granted.unique [Detailed α] (granted : c.Granted line reply)
    (granted' : c.Granted line other) : reply = other := by
  obtain ⟨text, response, htext, hresponse, grants⟩ := granted
  obtain ⟨text', response', htext', hresponse', grants'⟩ := granted'
  obtain rfl := Except.ok.inj (htext.symm.trans htext')
  obtain rfl := Except.ok.inj (hresponse.symm.trans hresponse')
  exact Except.ok.inj (grants.judge_eq.symm.trans grants'.judge_eq)

variable [Detailed α]

/-- A text is good if it grants the call, and a fault of the protocol otherwise. -/
theorem read_cases {text : String} (htext : Line.text line = .ok text) :
    (∃ reply : Reply α, c.Granted line reply ∧ c.read text = .ok reply)
      ∨ (∀ reply : Reply α, ¬ c.Granted line reply)
        ∧ ∃ reason, (c.read text : Except SessionFault (Reply α)) = .error (.protocol reason) := by
  unfold read
  cases hresponse : (Json.Wire.codec : Json.Codec (Response α)).ofText text with
  | error report =>
    refine .inr ⟨?_, _, rfl⟩
    rintro reply ⟨text', response, htext', hresponse', -⟩
    obtain rfl := Except.ok.inj (htext.symm.trans htext')
    simp [hresponse] at hresponse'
  | ok response =>
    by_cases h : ∃ reply, c.Grants response reply
    · obtain ⟨reply, grants⟩ := h
      exact .inl ⟨reply, ⟨text, response, htext, hresponse, grants⟩, grants.judge_eq⟩
    · refine .inr ⟨?_, judge_of_not_grants (not_exists.mp h)⟩
      rintro reply ⟨text', response', htext', hresponse', grants⟩
      obtain rfl := Except.ok.inj (htext.symm.trans htext')
      obtain rfl := Except.ok.inj (hresponse.symm.trans hresponse')
      exact h ⟨reply, grants⟩

end

end Call

/-- What there is to hear: the next line, or the end of the stream if there is none. -/
def Incoming.ofLine? : Option (List UInt8) → Incoming
  | some bytes => .ofLine bytes
  | none => .ended

variable [Detailed α] [Json.Wire α]

/-- **What a call learns** follows from what there is to hear. -/
theorem Call.learns_hear (c : Call) (limit : Duration) (line? : Option (List UInt8)) :
    c.Learns line? (c.hear limit (.ofLine? line?) : Except SessionFault (Reply α)) := by
  cases line? with
  | none => constructor <;> simp [Incoming.ofLine?, hear]
  | some line =>
    simp only [Incoming.ofLine?, Incoming.ofLine]
    cases htext : Line.text line with
    | error fault =>
      constructor <;> simp [hear, htext, not_granted_of_garbled htext]
    | ok text =>
      simp only [hear]
      -- The text grants the call a reply, or it is a fault of the protocol.
      obtain ⟨reply, granted, hread⟩ | ⟨misfit, reason, hread⟩ :=
        c.read_cases (α := α) htext
      · rw [hread]
        constructor
        · intro other
          simp only [Except.ok.injEq, Option.mem_some_iff, exists_eq_left']
          exact ⟨fun h => h ▸ granted, granted.unique⟩
        · simp
        · simp [htext]
        · simp only [reduceCtorEq, exists_false, Option.mem_some_iff, exists_eq_left', false_iff]
          exact fun h => h.2 reply granted
      · rw [hread]
        constructor <;> simp [htext, misfit]

/-! ## Calls and lines, one by one -/

/-- What calls learn from the lines of a stream, a line for each, up to the first after which the
connection cannot be used on. -/
def results (limit : Duration) :
    List Call → List (List UInt8) → List (Except SessionFault (Reply α))
  | [], _ => []
  | c :: cs, lines =>
    let result := c.hear limit (.ofLine? lines.head?)
    result :: if isUsable result then results limit cs lines.tail else []

section

variable {limit : Duration}

/-- The result of a call is what it makes of the line of the same number. -/
theorem exists_call_of_results {cs : List Call} {lines : List (List UInt8)} {k : Nat}
    {result : Except SessionFault (Reply α)} (h : (results limit cs lines)[k]? = some result) :
    ∃ c, cs[k]? = some c ∧ result = c.hear limit (.ofLine? lines[k]?) := by
  induction cs generalizing lines k with
  | nil => simp [results] at h
  | cons c cs ih =>
    cases k with
    | zero =>
      simp only [results, List.getElem?_cons_zero, Option.some.injEq] at h
      exact ⟨c, rfl, by rw [← h, List.head?_eq_getElem?]⟩
    | succ k =>
      simp only [results, List.getElem?_cons_succ] at h
      split at h
      · simpa using ih h
      · simp at h

/-- A call has no result exactly if an earlier one's result made the connection useless. -/
theorem results_eq_none_iff {cs : List Call} {lines : List (List UInt8)} {k : Nat}
    (hk : k < cs.length) :
    (results (α := α) limit cs lines)[k]? = none
      ↔ ∃ j < k, ∃ result ∈ (results (α := α) limit cs lines)[j]?, isUsable result = false := by
  induction cs generalizing lines k with
  | nil => simp at hk
  | cons c cs ih =>
    generalize hresult : (c.hear limit (.ofLine? lines.head?) : Except SessionFault (Reply α))
      = result
    cases k with
    | zero => simp [results]
    | succ k =>
      have ih : (results (α := α) limit cs lines.tail)[k]? = none ↔ _ :=
        ih (Nat.lt_of_succ_lt_succ hk)
      simp only [results, hresult, List.getElem?_cons_succ, Nat.exists_lt_succ_left]
      cases husable : isUsable result with
      | true => simpa [husable] using ih
      | false => simp [husable]

end

/-! ## Histories -/

namespace Caller

variable {limit : Duration} {s : Caller} {es : List Event}

/-- Where the connection cannot be used on, nothing is learnt any more, and what arrives is left. -/
theorem run_of_not_usable (limit : Duration) (es : List Event) {s : Caller}
    (h : s.usable = false) :
    (s.run (α := α) limit es).1 = []
      ∧ (s.run (α := α) limit es).2.inbox.bytes
        = s.inbox.bytes ++ Arrival.stream (es.filterMap Event.arrival?) := by
  induction es generalizing s with
  | nil => simp [run, Arrival.stream]
  | cons e es ih =>
    cases e with
    | arrival a =>
      obtain ⟨hnone, hbytes⟩ := ih (s := { s with inbox := s.inbox.arrive a }) h
      refine ⟨hnone, ?_⟩
      show _ = s.inbox.bytes ++ Arrival.stream (a :: es.filterMap Event.arrival?)
      rw [Inbox.bytes_append_stream_cons]
      exact hbytes
    | call c => simpa [run, step, h, Event.arrival?, List.filterMap_cons] using ih h

/-- A call takes what there is to hear. -/
theorem run_call {i : Inbox} {c : Call} {result : Except SessionFault (Reply α)}
    (h : c.hear limit i.take.1 = result) :
    run limit ⟨i, true⟩ (.call c :: es)
      = (result :: (run limit ⟨i.take.2, isUsable result⟩ es).1,
        (run (α := α) limit ⟨i.take.2, isUsable result⟩ es).2) := by
  simp [run, step, Call.take, h]

/-- **What a viewer learns** is what its calls make of the lines of the stream, and what is left in
the end is the lines beyond. -/
theorem run_eq_results {i : Inbox} (orderly : Arrival.Orderly (es.filterMap Event.arrival?))
    (nothing : i.ended = true → Arrival.stream (es.filterMap Event.arrival?) = [])
    (punctual : ∀ result ∈ (run (α := α) limit ⟨i, true⟩ es).1, result ≠ .error (.timeout limit)) :
    (run (α := α) limit ⟨i, true⟩ es).1
        = results limit (es.filterMap Event.call?)
          (Line.split (i.bytes ++ Arrival.stream (es.filterMap Event.arrival?)))
      ∧ Line.split (run (α := α) limit ⟨i, true⟩ es).2.inbox.bytes
        = (Line.split (i.bytes ++ Arrival.stream (es.filterMap Event.arrival?))).drop
          (run (α := α) limit ⟨i, true⟩ es).1.length := by
  -- On the history, for any inbox: each call takes its line off the front of all that ever comes.
  induction es generalizing i with
  | nil => simp [run, results, Arrival.stream]
  | cons e es ih =>
    cases e with
    | arrival a =>
      rw [show (Event.arrival a :: es).filterMap Event.arrival?
        = a :: es.filterMap Event.arrival? from rfl] at orderly nothing ⊢
      -- What arrives was to come anyway, so bytes in hand and bytes to come are the same together.
      rw [Inbox.bytes_append_stream_cons]
      exact ih (List.pairwise_cons.mp orderly).2 (Inbox.stream_eq_nil_of_arrive orderly nothing)
        punctual
    | call c =>
      rw [show (Event.call c :: es).filterMap Event.arrival? = es.filterMap Event.arrival? from rfl]
        at orderly nothing ⊢
      rw [show (Event.call c :: es).filterMap Event.call? = c :: es.filterMap Event.call? from rfl]
      generalize hstream : Arrival.stream (es.filterMap Event.arrival?) = more at nothing ⊢
      rw [run_call rfl] at punctual ⊢
      have gives := i.gives_take
      generalize i.take = taken at gives punctual ⊢
      obtain ⟨incoming, left⟩ := taken
      obtain ⟨hpunctual, punctual⟩ := List.forall_mem_cons.mp punctual
      dsimp only at gives hpunctual punctual ⊢
      cases gives with
      | unfinished => exact absurd rfl hpunctual
      | ended hended empty =>
        obtain rfl := nothing hended
        obtain ⟨hnone, hbytes⟩ := run_of_not_usable (α := α) limit es
          (s := ⟨i, false⟩) rfl
        rw [hstream, empty] at hbytes
        simp [Call.hear, isUsable, results, Incoming.ofLine?, hnone, hbytes, empty, Line.split_nil]
      | @line line rest split =>
        rw [split more nothing]
        generalize hresult : (c.hear limit (.ofLine line) : Except SessionFault (Reply α)) = result
          at punctual ⊢
        have hhead : c.hear limit (.ofLine? (some line)) = result := hresult
        -- Only a usable result lets the caller go on; after any other one it never reads again.
        cases husable : isUsable result with
        | true =>
          rw [husable] at punctual
          obtain ⟨hresults, hrest⟩ := ih (i := { i with bytes := rest }) orderly
            (fun hended => hstream.trans (nothing hended)) punctual
          rw [hstream] at hresults hrest
          simp [results, hhead, husable, hresults, hrest]
        | false =>
          obtain ⟨hnone, hbytes⟩ := run_of_not_usable (α := α) limit es
            (s := ⟨{ i with bytes := rest }, false⟩) rfl
          rw [hstream] at hbytes
          simp [results, hhead, husable, hnone, hbytes]

/-- **The answer to a call is the line of the same number.** However the stream arrives and whenever
the viewer calls, as long as no call gives up early: the viewer learns from each call what it makes
of the line of its own number, or of the end of the stream if there is no such line, and nothing
else. It goes on until the connection cannot be used on, and what is left then is the lines
beyond. -/
theorem answered_by_own_line (limit : Duration) {es : List Event}
    (orderly : Arrival.Orderly (es.filterMap Event.arrival?))
    (punctual : ∀ result ∈ (run (α := α) limit fresh es).1, result ≠ .error (.timeout limit)) :
    let learnt := (run (α := α) limit fresh es).1
    let calls := es.filterMap Event.call?
    let lines := Line.split (Arrival.stream (es.filterMap Event.arrival?))
    (∀ (k : Nat) result, learnt[k]? = some result → ∃ c : Call, calls[k]? = some c
      ∧ result = c.hear limit (.ofLine? lines[k]?) ∧ c.Learns lines[k]? result)
    ∧ (∀ k < calls.length,
      learnt[k]? = none ↔ ∃ j < k, ∃ result ∈ learnt[j]?, isUsable result = false)
    ∧ (run (α := α) limit fresh es).2.inbox.bytes = (lines.drop learnt.length).flatten := by
  dsimp only
  -- All three parts are read off what the run makes of the whole stream.
  obtain ⟨hlearnt, hleft⟩ := run_eq_results (α := α) (i := .empty) orderly
    (fun h => by cases h) punctual
  simp only [Inbox.empty, List.nil_append] at hlearnt hleft
  refine ⟨fun k result h => ?_, fun k hk => ?_, ?_⟩
  · rw [fresh, Inbox.empty, hlearnt] at h
    obtain ⟨c, hc, hresult⟩ := exists_call_of_results h
    exact ⟨c, hc, hresult, hresult ▸ c.learns_hear limit _⟩
  · rw [fresh, Inbox.empty, hlearnt]
    exact results_eq_none_iff hk
  · rw [fresh, Inbox.empty, ← hleft, Line.flatten_split]

/-! ### A viewer that is refused -/

/-- Three answers arrive in pieces that have nothing to do with lines, then a line that is no text,
while a viewer calls whenever it can. -/
def refused : List Event :=
  let lines := ["[\"BadState\"]", "[\"EpisodeReady\",true]", "[\"BadState\"]"].flatMap Line.ofText
    ++ [0xff, Line.feed]
  [.arrival (.piece (lines.take 20)), .call .readFrame, .arrival (.piece (lines.drop 20)),
    .call (.startEpisode 0), .arrival .finish, .call .ping, .call .readFrame, .call .ping]

/-- What went wrong. -/
def fault? : Except SessionFault (Reply α) → Option SessionFault
  | .ok _ => none
  | .error fault => some fault

/-- A refusal answers its own call only, and after a line that is no text nothing is asked. -/
theorem answered_by_own_line_refused :
    Arrival.Orderly (refused.filterMap Event.arrival?)
      ∧ (run (α := Float32) (.of 5 0) fresh refused).1.map fault?
        = [some (.protocol "request ReadSnapshot rejected in current session state"),
          none,
          some (.protocol "request Ping \x7b payload: None \x7d rejected in current session state"),
          some (.connectivity "invalid utf-8 sequence of 1 bytes from index 0")]
      ∧ (run (α := Float32) (.of 5 0) fresh refused).2.inbox.bytes = []
      ∧ (let learnt := (run (α := Float32) (.of 5 0) fresh refused).1
        let calls := refused.filterMap Event.call?
        let lines := Line.split (Arrival.stream (refused.filterMap Event.arrival?))
        (∀ (k : Nat) result, learnt[k]? = some result → ∃ c : Call, calls[k]? = some c
          ∧ result = c.hear (.of 5 0) (.ofLine? lines[k]?) ∧ c.Learns lines[k]? result)
        ∧ (∀ k < calls.length,
          learnt[k]? = none ↔ ∃ j < k, ∃ result ∈ learnt[j]?, isUsable result = false)
        ∧ (run (α := Float32) (.of 5 0) fresh refused).2.inbox.bytes
          = (lines.drop learnt.length).flatten) := by
  have orderly : Arrival.Orderly (refused.filterMap Event.arrival?) := by
    unfold Arrival.Orderly
    decide +kernel
  have faults : (run (α := Float32) (.of 5 0) fresh refused).1.map fault?
      = [some (.protocol "request ReadSnapshot rejected in current session state"),
        none,
        some (.protocol "request Ping \x7b payload: None \x7d rejected in current session state"),
        some (.connectivity "invalid utf-8 sequence of 1 bytes from index 0")] := by
    decide +kernel
  have punctual : ∀ result ∈ (run (α := Float32) (.of 5 0) fresh refused).1,
      result ≠ .error (.timeout (.of 5 0)) := by
    rintro result h rfl
    have := List.mem_map_of_mem (f := fault?) h
    rw [faults] at this
    simp [fault?] at this
  exact ⟨orderly, faults, by decide +kernel, answered_by_own_line (.of 5 0) orderly punctual⟩

end Caller

end TownTraffic
