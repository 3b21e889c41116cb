import TownTraffic.Proofs.Isolation
import TownTraffic.Proofs.Magnitudes
import TownTraffic.Proofs.Responses
import TownTraffic.Session.Caller

/-!
# Calls come to what a session allows

A viewer calls a host that others use as well: the request goes out on a line, the answer comes back
on a line, and a call that has to wait is tried again later. What the viewer learns is what its own
session allows, and its own earlier calls are all that matters for this.

* **`Codec.reread`** — what a finite number is read as; there always is something.
* **`Deed`** — what happens to a host and a viewer; **`Host.attempts`** the viewer's calls.
* **`asked`**, **`standing`** — how far a session has come, as far as calls tell.
* **`Attempt.Follows`** — what a call comes to after others.
* **`Host.tells_attempts`** — the stage of a session is the one its calls tell of;
  **`attempts_follow`** every call comes to what the calls before it allow.
-/

namespace TownTraffic

open Json

/-! ## What numbers are read as -/

namespace Json.Codec

/-- What a binary32 number is read as after it has been written. -/
def reread (x : Float32) : Float32 :=
  match (real32 "f32").decode ((real32 "f32").encode x) with
  | .ok y => y
  | .error _ => x

/-- **A finite number is read as a number.** -/
theorem isReadAs_reread {x : Float32} (h : x.isFinite = true) : IsReadAs x (reread x) := by
  obtain ⟨n, value, hn, hvalue⟩ := Numeral.exists_number?_of_isFinite h
  have conveys (depth : Nat) : (real32 "f32").Conveys depth x (nearest value) :=
    conveys_numeric (real32_encode_of_some hn) (Numeral.spelled_ofBinary32 hn) hvalue (by rfl) depth
  have hreread : reread x = nearest value := by
    rw [reread, (conveys 0).decode_encode]
  rw [hreread]
  exact conveys

end Json.Codec

/-- **A response with finite numbers is read off its line**, with its numbers reread. -/
theorem Response.ofText_line_of_isFinite {r : Response Float32}
    (finite : ∀ x ∈ r.numbers, x.isFinite = true) :
    (Wire.codec : Codec (Response Float32)).ofText r.line = .ok (r.map Codec.reread) :=
  ofText_line_of_isReadAs fun x hx => Codec.isReadAs_reread (finite x hx)

/-! ## Calls at a host -/

/-- A call, with what the host makes of its line. -/
structure Attempt where
  call : Call
  outcome : Outcome Float32

namespace Attempt

/-- What the viewer learns; nothing yet if the line has to wait. -/
def result (x : Attempt) : Option (Except SessionFault (Reply Float32)) :=
  match x.outcome with
  | .answer r => some (x.call.read r.line)
  | .wait | .brokenOff => none

/-- Whether the numbers in the answer are finite. -/
def Finite (x : Attempt) : Prop :=
  ∀ r, x.outcome = .answer r → ∀ n ∈ r.numbers, n.isFinite = true

/-- One look at the answer tells whether its numbers are finite. -/
instance : DecidablePred Finite := fun x =>
  match h : x.outcome with
  | .answer r => decidable_of_iff (∀ n ∈ r.numbers, n.isFinite = true) (by simp [Finite, h])
  | .wait | .brokenOff => .isTrue (by simp [Finite, h])

/-- Whether the viewer asks for an episode. -/
def asks (x : Attempt) : Bool :=
  match x.call with
  | .configure _ => true
  | _ => false

/-- What a granted call does: it puts the player on a spot, or takes it off all spots. -/
def puts? (x : Attempt) : Option Bool :=
  match x.call, x.result with
  | .startEpisode _, some (.ok _) => some true
  | .configure _, some (.ok _) => some false
  | _, _ => none

/-- The viewer learns what the response means to the call. -/
theorem result_of_answer {x : Attempt} (finite : x.Finite) {r : Response Float32}
    (answered : x.outcome = .answer r) : x.result = some (x.call.judge (r.map Codec.reread)) := by
  rw [result, answered]
  simp only [Call.read, Response.ofText_line_of_isFinite (finite r answered)]

end Attempt

/-- What can happen to a host and a viewer that calls. -/
inductive Deed where
  | call (c : Call) (around : Surroundings)
  /-- The clock ticks, or somebody else sends a line. -/
  | other (event : Event)
deriving Repr, DecidableEq

namespace Deed

/-- What happens to the host. -/
def event (viewer : Nat) : Deed → Event
  | call c around => .line viewer c.request.line around
  | other event => event

/-- The call of the viewer. -/
def attempt? (viewer : Nat) (h : Host Float32) : Deed → Option Attempt
  | call c around => some ⟨c, (h.receive viewer c.request.line around).1⟩
  | other _ => none

end Deed

/-- The calls of a viewer. -/
def Host.attempts (viewer : Nat) (h : Host Float32) : List Deed → List Attempt
  | [] => []
  | d :: ds => (d.attempt? viewer h).toList ++ (h.step (d.event viewer)).2.attempts viewer ds

/-! ## How far a session has come -/

/-- Whether the viewer has asked for an episode. -/
def asked (xs : List Attempt) : Prop := ∃ x ∈ xs, x.asks = true

/-- Whether the latest granted call for an episode or for a spot was for a spot. -/
def standing (xs : List Attempt) : Prop := (xs.filterMap Attempt.puts?).getLast? = some true

/-- **What a call comes to after others**, in a town. -/
def Attempt.Follows (town : Town Float32) (before : List Attempt) (x : Attempt) : Prop :=
  match x.call with
  | .ping => x.result = some (.ok .done)
  | .configure _ =>
    ∃ description : TownDescription Float32, x.result = some (.ok (.town description))
      ∧ description.mapName = town.name ∧ description.startSpots.length = town.spotCount
  | .startEpisode spot =>
    x.result = some (.ok .done) ∧ asked before ∧ spot.toNat < town.spotCount
    ∨ (∃ reason, x.result = some (.error (.protocol reason)))
      ∧ ¬ (asked before ∧ spot.toNat < town.spotCount)
  | .readFrame =>
    (x.result = none ∨ ∃ f, x.result = some (.ok (.frame f))) ∧ standing before
    ∨ (∃ reason, x.result = some (.error (.protocol reason))) ∧ ¬ standing before

/-- **Whether a stage is the one that calls tell of.** -/
structure Stage.Tells (stage : Stage) (xs : List Attempt) : Prop where
  connected_iff : stage = .connected ↔ ¬ asked xs
  running_iff : (∃ spot, stage = .running spot) ↔ standing xs

section

variable {xs : List Attempt} {x : Attempt}

/-- An episode has been asked for if it was before, or is with the last call. -/
theorem asked_concat : asked (xs ++ [x]) ↔ asked xs ∨ x.asks = true := by
  simp [asked, or_and_right, exists_or]

/-- What the last call put is what stands. -/
theorem standing_concat_of_puts {b : Bool} (h : x.puts? = some b) :
    standing (xs ++ [x]) ↔ b = true := by
  simp [standing, List.filterMap_append, h]

/-- A call that puts nothing leaves what stands. -/
theorem standing_concat (h : x.puts? = none) : standing (xs ++ [x]) ↔ standing xs := by
  simp [standing, List.filterMap_append, h]

/-- A viewer that has asked for an episode is connected no more, but waits or runs. -/
theorem Stage.Tells.asked_iff {stage : Stage} (tells : stage.Tells xs) :
    asked xs ↔ stage ≠ .connected := by
  rw [ne_eq, tells.connected_iff, not_not]

/-- One more call comes to what it may. -/
theorem Attempt.follows_concat {town : Town Float32}
    (follows : ∀ (k : Nat) (y : Attempt), xs[k]? = some y → y.Follows town (xs.take k))
    (h : x.Follows town xs) (k : Nat) (y : Attempt) (hy : (xs ++ [x])[k]? = some y) :
    y.Follows town ((xs ++ [x]).take k) := by
  -- The calls before `y` are the same whether or not `x` has been added.
  obtain hk | hk := Nat.lt_or_ge k xs.length
  · rw [List.getElem?_append_left hk] at hy
    rw [List.take_append_of_le_length hk.le]
    exact follows k y hy
  · rw [List.getElem?_append_right hk] at hy
    obtain ⟨hlt, rfl⟩ := List.getElem?_eq_some_iff.mp hy
    have hlength : k = xs.length := by
      rw [List.length_singleton] at hlt
      omega
    subst hlength
    rw [List.take_left]
    simpa using h

/-- A call that does nothing to the session leaves it where it is. -/
theorem Stage.Tells.concat {stage : Stage} (tells : stage.Tells xs)
    (hasks : x.asks = false) (hputs : x.puts? = none) :
    stage.Tells (xs ++ [x]) where
  connected_iff := by
    rw [asked_concat, tells.connected_iff]
    simp [hasks]
  running_iff := by rw [standing_concat hputs, tells.running_iff]

end

/-! ## What a call comes to -/

section

variable {around : Surroundings} {p p' : Progress} {s s' : Simulator Float32}
  {outcome : Outcome Float32} {xs : List Attempt}

/-- A ping is good. -/
theorem Served.follows_ping (serves : Served around p s (.ping none) outcome p' s')
    (finite : Attempt.Finite ⟨.ping, outcome⟩) (tells : p.stage.Tells xs) :
    Attempt.Follows s.town xs ⟨.ping, outcome⟩ ∧ p'.stage.Tells (xs ++ [⟨.ping, outcome⟩]) := by
  cases serves
  exact ⟨Attempt.result_of_answer finite rfl, tells.concat rfl rfl⟩

/-- Whoever asks for an episode is told about the town. -/
theorem Served.follows_configure {settings : Settings}
    (serves : Served around p s (.configure settings) outcome p' s') (kept : outcome ≠ .brokenOff)
    (finite : Attempt.Finite ⟨.configure settings, outcome⟩) :
    Attempt.Follows s.town xs ⟨.configure settings, outcome⟩
      ∧ p'.stage.Tells (xs ++ [⟨.configure settings, outcome⟩]) := by
  cases serves with
  | brokenOff => exact absurd rfl kept
  | configured hbegin =>
    have hresult := Attempt.result_of_answer finite rfl
    refine ⟨⟨_, hresult, rfl, ?_⟩, ⟨?_, ?_⟩⟩
    · simp [TownDescription.map, Town.description]
    · simp [asked_concat, Attempt.asks, Progress.configured]
    · rw [standing_concat_of_puts (b := false) (by rw [Attempt.puts?, hresult]; rfl)]
      simp [Progress.configured]

/-- A spot is granted exactly if the viewer has asked for an episode and the town has the spot. -/
theorem Served.follows_startEpisode {spot : UInt64}
    (serves : Served around p s (.startEpisode spot) outcome p' s')
    (finite : Attempt.Finite ⟨.startEpisode spot, outcome⟩) (tells : p.stage.Tells xs) :
    Attempt.Follows s.town xs ⟨.startEpisode spot, outcome⟩
      ∧ p'.stage.Tells (xs ++ [⟨.startEpisode spot, outcome⟩]) := by
  have hasked := tells.asked_iff
  -- Too early, granted, or refused because there is no such spot.
  cases serves with
  | startedEarly hstage =>
    have hresult := Attempt.result_of_answer finite rfl
    refine ⟨.inr ⟨⟨_, hresult⟩, fun h => hasked.mp h.1 hstage⟩, tells.concat rfl ?_⟩
    rw [Attempt.puts?, hresult]
    rfl
  | started hstage hspot =>
    have hresult := Attempt.result_of_answer finite rfl
    refine ⟨.inl ⟨hresult, hasked.mpr hstage, hspot⟩, ⟨?_, ?_⟩⟩
    · simp [asked_concat, Progress.started, hasked.mpr hstage]
    · rw [standing_concat_of_puts (b := true) (by rw [Attempt.puts?, hresult]; rfl)]
      simp [Progress.started]
  | notStarted hstage hspot =>
    have hresult := Attempt.result_of_answer finite rfl
    refine ⟨.inr ⟨⟨_, hresult⟩, fun h => hspot h.2⟩, tells.concat rfl ?_⟩
    rw [Attempt.puts?, hresult]
    rfl

/-- A frame may be looked at exactly if the player stands on a spot. -/
theorem Served.follows_readFrame (serves : Served around p s .readFrame outcome p' s')
    (plays : ∀ spot, p.stage = .running spot → s.episode ≠ none)
    (finite : Attempt.Finite ⟨.readFrame, outcome⟩) (tells : p.stage.Tells xs) :
    Attempt.Follows s.town xs ⟨.readFrame, outcome⟩
      ∧ p'.stage.Tells (xs ++ [⟨.readFrame, outcome⟩]) := by
  have hstanding {spot : UInt64} (hstage : p.stage = .running spot) : standing xs :=
    tells.running_iff.mp ⟨spot, hstage⟩
  have hputs (x : Attempt) (hx : x.call = .readFrame) : x.puts? = none := by
    simp only [Attempt.puts?, hx]
  -- The stage tells whether the player stands; which frame it is makes no difference.
  cases serves with
  | readEarly hstage =>
    have hidle : ¬ standing xs := fun h => by
      obtain ⟨spot, hspot⟩ := tells.running_iff.mpr h
      exact hstage spot hspot
    exact ⟨.inr ⟨⟨_, Attempt.result_of_answer finite rfl⟩, hidle⟩, tells.concat rfl (hputs _ rfl)⟩
  | unplayed hstage he => exact absurd he (plays _ hstage)
  | advanced hstage =>
    exact ⟨.inl ⟨.inr ⟨_, Attempt.result_of_answer finite rfl⟩, hstanding hstage⟩,
      tells.concat rfl (hputs _ rfl)⟩
  | shown hstage =>
    exact ⟨.inl ⟨.inr ⟨_, Attempt.result_of_answer finite rfl⟩, hstanding hstage⟩,
      tells.concat rfl (hputs _ rfl)⟩
  | waiting hstage =>
    exact ⟨.inl ⟨.inl rfl, hstanding hstage⟩, tells.concat rfl (hputs _ rfl)⟩

/-- **What a service of a call comes to.** -/
theorem Served.follows {c : Call} (serves : Served around p s c.request outcome p' s')
    (kept : outcome ≠ .brokenOff) (plays : ∀ spot, p.stage = .running spot → s.episode ≠ none)
    (finite : Attempt.Finite ⟨c, outcome⟩) (tells : p.stage.Tells xs) :
    Attempt.Follows s.town xs ⟨c, outcome⟩ ∧ p'.stage.Tells (xs ++ [⟨c, outcome⟩]) := by
  cases c with
  | ping => exact serves.follows_ping finite tells
  | configure settings => exact serves.follows_configure kept finite
  | startEpisode spot => exact serves.follows_startEpisode finite tells
  | readFrame => exact serves.follows_readFrame plays finite tells

end

/-! ## Calls among the calls of others -/

namespace Host

open History

variable {town : Town Float32} {viewer : Nat}

/-- No deeds are no calls. -/
theorem attempts_nil (viewer : Nat) (h : Host Float32) : h.attempts viewer [] = [] := by
  rw [attempts]

/-- A deed is looked up in the host that the deeds before it leave. -/
theorem attempts_concat (viewer : Nat) (h : Host Float32) (ds : List Deed) (d : Deed) :
    h.attempts viewer (ds ++ [d]) = h.attempts viewer ds
      ++ (d.attempt? viewer (h.after (ds.map (Deed.event viewer)))).toList := by
  induction ds generalizing h with
  | nil => simp [attempts]
  | cons e ds ih => simp [attempts, ih]

/-- An event is noted behind those before it. -/
theorem log_concat (h : Host Float32) (events : List Event) (event : Event) :
    h.log (events ++ [event]) = h.log events ++ [⟨event, ((h.after events).step event).1⟩] := by
  rw [log_append]
  rfl

/-- A line is a step of the host that serves it. -/
theorem step_line (h : Host Float32) (viewer : Nat) (text : String) (around : Surroundings) :
    h.step (.line viewer text around)
      = (some (h.receive viewer text around).1, (h.receive viewer text around).2) := rfl

/-- A tick is a step without an outcome. -/
theorem step_tick (h : Host Float32) : h.step .tick = (none, h.tick) := rfl

/-- A line of somebody else is no exchange of the viewer. -/
theorem exchanges_singleton_of_ne {event : Event} (h : event.viewer? ≠ some viewer)
    (outcome : Option (Outcome Float32)) : exchanges viewer [⟨event, outcome⟩] = [] := by
  cases event with
  | tick => rfl
  | line who text around =>
    have hne : who ≠ viewer := fun heq => h (congrArg some heq)
    cases outcome <;> simp [exchanges, Entry.exchange?, hne]

/-- The line of a call is an exchange of the viewer. -/
theorem exchanges_singleton_of_call (viewer : Nat) (c : Call) (around : Surroundings)
    (outcome : Outcome Float32) :
    exchanges viewer [⟨.line viewer c.request.line around, some outcome⟩]
      = [⟨c.request, outcome⟩] := by
  simp [exchanges, Entry.exchange?, Request.ofLine_line, Except.toOption]

/-- As long as no service has broken off, a call comes to what it may after the calls before it, and
the stage goes on telling of the calls. -/
theorem follows_receive {events : List Event} {xs : List Attempt}
    (tells : (Stage.ofExchanges (exchanges viewer ((fresh town).log events))).Tells xs)
    (c : Call) (around : Surroundings) {outcome : Outcome Float32}
    (houtcome : (((fresh town).after events).receive viewer c.request.line around).1 = outcome)
    (unbroken : Unbroken ((fresh town).log events)) (kept : outcome ≠ .brokenOff)
    (finite : Attempt.Finite ⟨c, outcome⟩) :
    Attempt.Follows town xs ⟨c, outcome⟩
      ∧ (Stage.ofExchanges (exchanges viewer ((fresh town).log events)
          ++ [⟨c.request, outcome⟩])).Tells (xs ++ [⟨c, outcome⟩]) := by
  obtain ⟨around', p, s, serves⟩ :=
    served_receive unbroken (Request.ofLine_line c.request) viewer around
  rw [houtcome] at serves
  have htown := (plays_log events ((sound_iff_unbroken events).mpr unbroken)).town_eq
  -- A session that runs has an episode, whoever made it begin.
  have plays (spot : UInt64)
      (hstage : Stage.ofExchanges (exchanges viewer ((fresh town).log events)) = .running spot) :
      ((fresh town).after events).simulator.value.episode ≠ none := by
    obtain ⟨e, he, -⟩ := exists_episode_of_running unbroken hstage
    simp [he]
  obtain ⟨follows, tells'⟩ := serves.follows kept plays finite tells
  rw [serves.progress_eq kept] at tells'
  rw [htown] at follows
  exact ⟨follows, tells'⟩

/-- The stage is always the one that calls tell of, and every call comes to what it may. -/
theorem tells_attempts {ds : List Deed}
    (others : ∀ event, .other event ∈ ds → event.viewer? ≠ some viewer)
    (unbroken : Unbroken ((fresh town).log (ds.map (Deed.event viewer))))
    (finite : ∀ x ∈ (fresh town).attempts viewer ds, x.Finite) :
    (Stage.ofExchanges (exchanges viewer ((fresh town).log (ds.map (Deed.event viewer))))).Tells
        ((fresh town).attempts viewer ds)
      ∧ ∀ (k : Nat) (x : Attempt), ((fresh town).attempts viewer ds)[k]? = some x →
        x.Follows town (((fresh town).attempts viewer ds).take k) := by
  -- What the last deed comes to depends on all before it, so deeds are added at the end.
  induction ds using List.reverseRecOn with
  | nil =>
    refine ⟨⟨?_, ?_⟩, by simp [attempts]⟩
    · simp [asked, attempts, exchanges, Stage.ofExchanges]
    · simp [standing, attempts, exchanges, Stage.ofExchanges]
  | append_singleton ds d ih =>
    rw [List.map_append, List.map_singleton, log_concat] at unbroken ⊢
    rw [attempts_concat] at finite ⊢
    rw [exchanges_append]
    obtain ⟨tells, follows⟩ := ih (fun event h => others event (List.mem_append_left _ h))
      unbroken.of_append fun x hx => finite x (List.mem_append_left _ hx)
    cases d with
    | other event =>
      -- Neither a call nor an exchange of the viewer.
      have hne := others event (List.mem_append_right _ (List.mem_singleton_self _))
      rw [Deed.event, exchanges_singleton_of_ne hne]
      simpa [Deed.attempt?] using And.intro tells follows
    | call c around =>
      rw [Deed.event, step_line] at unbroken
      rw [Deed.attempt?, Option.toList_some] at finite
      rw [Deed.event, step_line, exchanges_singleton_of_call, Deed.attempt?, Option.toList_some]
      generalize houtcome : (((fresh town).after (ds.map (Deed.event viewer))).receive viewer
        c.request.line around).1 = outcome at finite unbroken ⊢
      have kept : outcome ≠ .brokenOff := fun h =>
        unbroken _ (List.mem_append_right _ (List.mem_singleton_self _)) (congrArg some h)
      obtain ⟨follows', tells'⟩ := follows_receive tells c around houtcome unbroken.of_append kept
        (finite _ (List.mem_append_right _ (List.mem_singleton_self _)))
      exact ⟨tells', Attempt.follows_concat follows follows'⟩

/-- **Every call comes to what the calls before it allow.** Whatever the others do at a host, as
long as no service breaks off and the numbers in the answers are finite: a ping is good; whoever
asks for an episode is told about the town, and its spots; a spot is granted exactly if the viewer
has asked for an episode before and the town has the spot, and otherwise the call is rejected; a
frame is shown, or the call has to wait and is tried again later, exactly if the latest granted call
for an episode or a spot was for a spot, and otherwise the call is rejected. And nothing is rejected
for the way it was sent: the host reads what the viewer asks, and the viewer reads what the host
answers, with its numbers reread. -/
theorem attempts_follow {ds : List Deed}
    (others : ∀ event, .other event ∈ ds → event.viewer? ≠ some viewer)
    (unbroken : Unbroken ((fresh town).log (ds.map (Deed.event viewer))))
    (finite : ∀ x ∈ (fresh town).attempts viewer ds, x.Finite) :
    (∀ (k : Nat) (x : Attempt), ((fresh town).attempts viewer ds)[k]? = some x →
        x.Follows town (((fresh town).attempts viewer ds).take k))
      ∧ ∀ x ∈ (fresh town).attempts viewer ds,
        Request.ofLine x.call.request.line = .ok x.call.request
          ∧ ∀ r, x.outcome = .answer r →
            (Wire.codec : Codec (Response Float32)).ofText r.line = .ok (r.map Codec.reread) :=
  ⟨(tells_attempts others unbroken finite).2, fun x hx => ⟨Request.ofLine_line x.call.request,
    fun r answered => Response.ofText_line_of_isFinite (finite x hx r answered)⟩⟩

/-! ### Two viewers -/

/-- A call is attempted first, then those after it. -/
theorem attempts_cons_call (h : Host Float32) (c : Call) (around : Surroundings) (ds : List Deed) :
    h.attempts viewer (.call c around :: ds)
      = ⟨c, (h.receive viewer c.request.line around).1⟩
        :: (h.receive viewer c.request.line around).2.attempts viewer ds := by
  rw [attempts, Deed.attempt?, Deed.event, step_line, Option.toList_some, List.singleton_append]

/-- The line of somebody else is no attempt. -/
theorem attempts_cons_line (h : Host Float32) (who : Nat) (text : String) (around : Surroundings)
    (ds : List Deed) :
    h.attempts viewer (.other (.line who text around) :: ds)
      = (h.receive who text around).2.attempts viewer ds := by
  rw [attempts, Deed.attempt?, Deed.event, step_line, Option.toList_none, List.nil_append]

/-- A tick is no attempt. -/
theorem attempts_cons_tick (h : Host Float32) (ds : List Deed) :
    h.attempts viewer (.other .tick :: ds) = h.tick.attempts viewer ds := by
  rw [attempts, Deed.attempt?, Deed.event, step_tick, Option.toList_none, List.nil_append]

/-- As long as nothing is spoiled, the line of a request is served. -/
theorem receive_line {h : Host Float32}
    (sound : ((h.progress viewer).spoiled || h.simulator.spoiled) = false) (request : Request)
    (around : Surroundings) :
    h.receive viewer request.line around =
      match serve around request (h.progress viewer).value h.simulator.value with
      | (.brokenOff, p', s') => (.brokenOff, h.settle viewer ⟨p', true⟩ ⟨s', true⟩)
      | (outcome, p', s') => (outcome, h.settle viewer (.sound p') (.sound s')) := by
  simp only [receive_eq, route, Request.ofLine_line, sound, Bool.false_eq_true, if_false]
  split <;> simp_all

/-- A viewer looks for a frame too early, asks for an episode, for a spot the town does not have and
for one that it has. Then it is shown a frame, waits for the next while somebody else asks for
another episode, and is shown a frame of that one; after it has asked for an episode itself, it
looks too early again. -/
def dialogue {town : Town Float32} (p q : Staged town) : List Deed :=
  let around : Surroundings := ⟨0, ⟨0, 0⟩⟩
  [.call .readFrame around, .call (.configure p.settings) around,
    .call (.startEpisode 99) around, .call (.startEpisode 0) around, .call .readFrame around,
    .call .readFrame around, .other (.line 1 (Request.configure q.settings).line around),
    .other .tick, .call .readFrame around, .call (.configure p.settings) around,
    .call .readFrame around]

section

variable {town : Town Float32} (p q : Staged town)

/-- What the calls come to in a town with fewer than a hundred spots. -/
theorem attempts_dialogue (h : 0 < town.spotCount) (h' : town.spotCount < 100) :
    (fresh town).attempts 0 (dialogue p q) = [
      ⟨.readFrame, .answer .badState⟩,
      ⟨.configure p.settings, .answer (.town town.description)⟩,
      ⟨.startEpisode 99, .answer (.episodeReady false)⟩,
      ⟨.startEpisode 0, .answer (.episodeReady true)⟩,
      ⟨.readFrame, .answer (.frame (p.episode.frame 0))⟩,
      ⟨.readFrame, .wait⟩,
      ⟨.readFrame, .answer (.frame ((q.episode.tick Simulator.step).frame 0))⟩,
      ⟨.configure p.settings, .answer (.town town.description)⟩,
      ⟨.readFrame, .answer .badState⟩] := by
  have missing : ¬ 99 < town.spotCount := by omega
  simp [dialogue, attempts_nil, attempts_cons_call, attempts_cons_line, attempts_cons_tick,
    Call.request, receive_line, settle, serve, fresh, tick, Guarded.sound, Progress.start,
    Simulator.idle, Simulator.configure, Simulator.publish, Simulator.look, Simulator.tick, h,
    missing]

/-- All lines but the viewer's calls are those of others. -/
theorem others_dialogue : ∀ event, .other event ∈ dialogue p q → event.viewer? ≠ some 0 := by
  simp [dialogue, Event.viewer?]

/-- Nothing breaks off. -/
theorem unbroken_dialogue :
    Unbroken ((fresh town).log ((dialogue p q).map (Deed.event 0))) := by
  rw [unbroken_log_iff]
  simp [dialogue, Deed.event, Call.request, Event.Playable, Request.ofLine_line]

end

/-- The frames that are shown have finite numbers only. -/
theorem finite_dialogue :
    ∀ x ∈ (fresh Town.served).attempts 0 (dialogue .pair .solo), x.Finite := by
  rw [attempts_dialogue .pair .solo (by decide) (by decide)]
  decide +kernel

/-- Among the calls of a viewer of a vehicle and a pedestrian, three are rejected and one has to
wait, until there is a frame of another pedestrian. -/
theorem attempts_follow_dialogue :
    (∀ event, .other event ∈ dialogue .pair .solo → event.viewer? ≠ some 0)
      ∧ Unbroken ((fresh Town.served).log ((dialogue .pair .solo).map (Deed.event 0)))
      ∧ (∀ x ∈ (fresh Town.served).attempts 0 (dialogue .pair .solo), x.Finite)
      ∧ ((fresh Town.served).attempts 0 (dialogue .pair .solo)).map Attempt.outcome
        = [.answer .badState, .answer (.town Town.served.description),
          .answer (.episodeReady false), .answer (.episodeReady true),
          .answer (.frame (Staged.pair.episode.frame 0)), .wait,
          .answer (.frame ((Staged.solo.episode.tick Simulator.step).frame 0)),
          .answer (.town Town.served.description), .answer .badState]
      ∧ (∀ (k : Nat) (x : Attempt),
        ((fresh Town.served).attempts 0 (dialogue .pair .solo))[k]? = some x →
        x.Follows Town.served (((fresh Town.served).attempts 0 (dialogue .pair .solo)).take k))
      ∧ ∀ x ∈ (fresh Town.served).attempts 0 (dialogue .pair .solo),
        Request.ofLine x.call.request.line = .ok x.call.request
          ∧ ∀ r, x.outcome = .answer r →
            (Wire.codec : Codec (Response Float32)).ofText r.line = .ok (r.map Codec.reread) := by
  have others := others_dialogue .pair .solo
  have unbroken := unbroken_dialogue .pair .solo
  refine ⟨others, unbroken, finite_dialogue, ?_, attempts_follow others unbroken finite_dialogue⟩
  rw [attempts_dialogue .pair .solo (by decide) (by decide)]
  rfl

end Host

end TownTraffic
