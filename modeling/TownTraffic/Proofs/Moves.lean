import TownTraffic.Session.Host
import TownTraffic.Proofs.Casts

/-!
# What a host can do

Every service, and every step of a host, follows one of a few rules. The rules are stated here once,
guards included, so that what is kept along a history is shown rule by rule.

* **`Served`** — what serving a request comes to; **`served_serve`** every service follows a rule.
* **`Entry`** — an event with what came of it.
* **`Host.Move`** — what an event comes to; **`Host.move_step`** every step follows a rule.
-/

namespace TownTraffic

variable {α : Type}

/-! ## The parts that a service changes -/

namespace Progress

/-- The progress of a viewer for whom an episode has just begun. -/
def configured (p : Progress) : Progress := { p with stage := .configured, lastFrame := none }

/-- The progress of a viewer whose player has just been put on a spot. -/
def started (p : Progress) (spot : UInt64) : Progress :=
  { p with stage := .running spot, lastFrame := none }

/-- The progress of a viewer who has just been sent the frame with a number. -/
def sent (p : Progress) (number : UInt64) : Progress :=
  { p with framesSent := p.framesSent + 1, lastFrame := some number }

end Progress

namespace Simulator

variable [Scalar α]

/-- The simulator that has just begun an episode with given settings. -/
def play (s : Simulator α) (settings : Settings) (e : Episode α) : Simulator α :=
  { s.publish e with synchronous := settings.synchronous }

/-- A configuration succeeds if the episode can begin. -/
theorem configure_of_begin {s : Simulator α} {settings : Settings} {drawn : Seeds} {e : Episode α}
    (hbegin : Episode.begin s.town (settings.settled drawn) drawn = some e) :
    s.configure settings drawn = (some s.town.description, s.play (settings.settled drawn) e) := by
  simp [configure, hbegin, play, Episode.description_of_begin hbegin]

/-- A configuration breaks off if the episode cannot begin, and has changed nothing by then. -/
theorem configure_of_begin_eq_none {s : Simulator α} {settings : Settings} {drawn : Seeds}
    (hbegin : Episode.begin s.town (settings.settled drawn) drawn = none) :
    s.configure settings drawn = (none, s) := by
  simp [configure, hbegin]

/-- A look at a synchronous episode advances it. -/
theorem look_of_synchronous {s : Simulator α} {e : Episode α} (he : s.episode = some e)
    (hs : s.synchronous = true) (had : Option UInt64) (now : Int64) :
    s.look had now = (.fresh ((e.tick step).frame now), s.publish (e.tick step)) := by
  simp [look, he, hs]

/-- A look at an asynchronous episode shows its present frame, unless the viewer has it. -/
theorem look_of_asynchronous {s : Simulator α} {e : Episode α} (he : s.episode = some e)
    (hs : s.synchronous = false) (had : Option UInt64) (now : Int64) :
    s.look had now
      = if had = some e.frameNumber then (.unchanged, s) else (.fresh (e.frame now), s) := by
  simp [look, he, hs]

/-- There is nothing to look at before the first episode. -/
theorem look_of_idle {s : Simulator α} (he : s.episode = none) (had : Option UInt64)
    (now : Int64) : s.look had now = (.unconfigured, s) := by
  simp [look, he]

/-- The clock of an asynchronous episode follows the ticks. -/
theorem tick_of_asynchronous {s : Simulator α} {e : Episode α} (he : s.episode = some e)
    (hs : s.synchronous = false) : s.tick = s.publish (e.tick step) := by
  simp [tick, he, hs]

/-- The clock of a synchronous episode does not. -/
theorem tick_of_synchronous {s : Simulator α} (hs : s.synchronous = true) : s.tick = s := by
  simp [tick, hs]

/-- Before the first episode there is no clock. -/
theorem tick_of_idle {s : Simulator α} (he : s.episode = none) : s.tick = s := by
  simp [tick, he]

end Simulator

/-! ## Services -/

section

variable [Scalar α]

/-- **What serving a request comes to.** From a progress and a simulator: the request, the outcome,
the progress and the simulator afterwards. -/
inductive Served (around : Surroundings) (p : Progress) (s : Simulator α) :
    Request → Outcome α → Progress → Simulator α → Prop
  /-- A ping is echoed. -/
  | ping (payload : Option String) :
    Served around p s (.ping payload) (.answer (.ping payload)) p s
  /-- A new episode begins. -/
  | configured {settings : Settings} {e : Episode α}
    (hbegin : Episode.begin s.town (settings.settled around.drawn) around.drawn = some e) :
    Served around p s (.configure settings) (.answer (.town s.town.description)) p.configured
      (s.play (settings.settled around.drawn) e)
  /-- The episode cannot begin. -/
  | brokenOff {settings : Settings}
    (hbegin : Episode.begin s.town (settings.settled around.drawn) around.drawn = none) :
    Served around p s (.configure settings) .brokenOff p s
  /-- The viewer has not asked for an episode yet. -/
  | startedEarly {spot : UInt64} (hstage : p.stage = .connected) :
    Served around p s (.startEpisode spot) (.answer .badState) p s
  /-- The player is put on the spot. -/
  | started {spot : UInt64} (hstage : p.stage ≠ .connected)
    (hspot : spot.toNat < s.town.spotCount) :
    Served around p s (.startEpisode spot) (.answer (.episodeReady true)) (p.started spot) s
  /-- There is no such spot. -/
  | notStarted {spot : UInt64} (hstage : p.stage ≠ .connected)
    (hspot : ¬ spot.toNat < s.town.spotCount) :
    Served around p s (.startEpisode spot) (.answer (.episodeReady false)) p s
  /-- The player does not stand on a spot yet. -/
  | readEarly (hstage : ∀ spot, p.stage ≠ .running spot) :
    Served around p s .readFrame (.answer .badState) p s
  /-- There is no episode to look at. -/
  | unplayed {spot : UInt64} (hstage : p.stage = .running spot) (he : s.episode = none) :
    Served around p s .readFrame (.answer .badState) p s
  /-- A synchronous episode advances and is shown. -/
  | advanced {spot : UInt64} {e : Episode α} (hstage : p.stage = .running spot)
    (he : s.episode = some e) (hs : s.synchronous = true) :
    Served around p s .readFrame (.answer (.frame ((e.tick Simulator.step).frame around.now)))
      (p.sent (e.tick Simulator.step).frameNumber) (s.publish (e.tick Simulator.step))
  /-- An asynchronous episode is shown. -/
  | shown {spot : UInt64} {e : Episode α} (hstage : p.stage = .running spot)
    (he : s.episode = some e) (hs : s.synchronous = false)
    (hlast : p.lastFrame ≠ some e.frameNumber) :
    Served around p s .readFrame (.answer (.frame (e.frame around.now))) (p.sent e.frameNumber) s
  /-- The viewer counts as having the present frame of an asynchronous episode. -/
  | waiting {spot : UInt64} {e : Episode α} (hstage : p.stage = .running spot)
    (he : s.episode = some e) (hs : s.synchronous = false)
    (hlast : p.lastFrame = some e.frameNumber) :
    Served around p s .readFrame .wait p s

/-- A request for an episode follows a rule. -/
theorem served_configure (around : Surroundings) (settings : Settings) (p : Progress)
    (s : Simulator α) :
    Served around p s (.configure settings) (serve around (.configure settings) p s).1
      (serve around (.configure settings) p s).2.1
      (serve around (.configure settings) p s).2.2 := by
  cases hbegin : Episode.begin s.town (settings.settled around.drawn) around.drawn with
  | none =>
    simp only [serve, Simulator.configure_of_begin_eq_none hbegin]
    exact .brokenOff hbegin
  | some e =>
    simp only [serve, Simulator.configure_of_begin hbegin]
    exact .configured hbegin

/-- A request for a start spot follows a rule. -/
theorem served_startEpisode (around : Surroundings) (spot : UInt64) (p : Progress)
    (s : Simulator α) :
    Served around p s (.startEpisode spot) (serve around (.startEpisode spot) p s).1
      (serve around (.startEpisode spot) p s).2.1
      (serve around (.startEpisode spot) p s).2.2 := by
  -- The stages after `connected` are served alike.
  have later (hstage : p.stage ≠ .connected) :
      serve around (.startEpisode spot) p s
        = if spot.toNat < s.town.spotCount then (.answer (.episodeReady true), p.started spot, s)
          else (.answer (.episodeReady false), p, s) := by
    cases h : p.stage with
    | connected => exact absurd h hstage
    | configured => simp only [serve, h, Progress.started]
    | running spot => simp only [serve, h, Progress.started]
  by_cases hstage : p.stage = .connected
  · simp only [serve, hstage]
    exact .startedEarly hstage
  · rw [later hstage]
    split
    · exact .started hstage ‹_›
    · exact .notStarted hstage ‹_›

/-- A viewer whose player stands on a spot looks at the episode. -/
theorem serve_readFrame_of_running {p : Progress} {spot : UInt64} (hstage : p.stage = .running spot)
    (around : Surroundings) (s : Simulator α) :
    serve around .readFrame p s
      = match s.look p.lastFrame around.now with
        | (.fresh f, s) => (.answer (.frame f), p.sent f.number, s)
        | (.unchanged, s) => (.wait, p, s)
        | (.unconfigured, s) => (.answer .badState, p, s) := by
  obtain ⟨stage, framesSent, lastFrame⟩ := p
  subst hstage
  rfl

/-- A request for a frame follows a rule. -/
theorem served_readFrame (around : Surroundings) (p : Progress) (s : Simulator α) :
    Served around p s .readFrame (serve around .readFrame p s).1
      (serve around .readFrame p s).2.1 (serve around .readFrame p s).2.2 := by
  -- By what a request for a frame looks at: the stage, the episode, its mode and the frame sent
  -- last.
  cases hstage : p.stage with
  | connected =>
    simp only [serve, hstage]
    exact .readEarly (by simp [hstage])
  | configured =>
    simp only [serve, hstage]
    exact .readEarly (by simp [hstage])
  | running spot =>
    rw [serve_readFrame_of_running hstage]
    cases he : s.episode with
    | none =>
      rw [Simulator.look_of_idle he]
      exact .unplayed hstage he
    | some e =>
      cases hs : s.synchronous with
      | true =>
        rw [Simulator.look_of_synchronous he hs]
        exact .advanced hstage he hs
      | false =>
        by_cases hlast : p.lastFrame = some e.frameNumber
        · rw [Simulator.look_of_asynchronous he hs, if_pos hlast]
          exact .waiting hstage he hs hlast
        · rw [Simulator.look_of_asynchronous he hs, if_neg hlast]
          exact .shown hstage he hs hlast

/-- **Every service follows a rule.** -/
theorem served_serve (around : Surroundings) (request : Request) (p : Progress)
    (s : Simulator α) :
    Served around p s request (serve around request p s).1 (serve around request p s).2.1
      (serve around request p s).2.2 := by
  cases request with
  | ping payload => exact .ping payload
  | configure settings => exact served_configure around settings p s
  | startEpisode spot => exact served_startEpisode around spot p s
  | readFrame => exact served_readFrame around p s

end

/-! ## Steps of a host -/

/-- An event with what came of it: nothing of a tick, an outcome of a line. -/
structure Entry (α : Type) where
  event : Event
  outcome : Option (Outcome α)
deriving Repr, DecidableEq

namespace Host

/-- The host after a service for a viewer. -/
def settle (h : Host α) (viewer : Nat) (p : Guarded Progress) (s : Guarded (Simulator α)) :
    Host α :=
  ⟨s, fun other => if other = viewer then p else h.progress other⟩

/-- After a service the simulator is the one that the service leaves. -/
@[simp] theorem simulator_settle (h : Host α) (viewer : Nat) (p : Guarded Progress)
    (s : Guarded (Simulator α)) : (h.settle viewer p s).simulator = s := rfl

/-- After a service the progress of the viewer is the one that the service leaves. -/
@[simp] theorem progress_settle_self (h : Host α) (viewer : Nat) (p : Guarded Progress)
    (s : Guarded (Simulator α)) : (h.settle viewer p s).progress viewer = p := by
  simp [settle]

/-- A service leaves the progress of other viewers alone. -/
theorem progress_settle_of_ne (h : Host α) {viewer other : Nat} (ne : other ≠ viewer)
    (p : Guarded Progress) (s : Guarded (Simulator α)) :
    (h.settle viewer p s).progress other = h.progress other := by
  simp [settle, ne]

/-- A service that changes nothing leaves the host as it is. -/
@[simp] theorem settle_self (h : Host α) (viewer : Nat) :
    h.settle viewer (h.progress viewer) h.simulator = h := by
  obtain ⟨s, progress⟩ := h
  simp only [settle, mk.injEq, true_and]
  funext other
  split
  · simp [*]
  · rfl

/-- Of two services for the same viewer the second remains. -/
@[simp] theorem settle_settle (h : Host α) (viewer : Nat) (p p' : Guarded Progress)
    (s s' : Guarded (Simulator α)) :
    (h.settle viewer p s).settle viewer p' s' = h.settle viewer p' s' := by
  simp only [settle, mk.injEq, true_and]
  funext other
  split <;> rfl

variable [Scalar α]

/-- A line is served for its viewer. -/
theorem receive_eq (h : Host α) (viewer : Nat) (text : String) (around : Surroundings) :
    h.receive viewer text around
      = ((route around text (h.progress viewer) h.simulator).1,
        h.settle viewer (route around text (h.progress viewer) h.simulator).2.1
          (route around text (h.progress viewer) h.simulator).2.2) := rfl

/-- **What an event comes to.** From a host: the event with its outcome, and the host afterwards. -/
inductive Move (h : Host α) : Entry α → Host α → Prop
  /-- The simulator's clock goes on. -/
  | tick (sound : h.simulator.spoiled = false) :
    Move h ⟨.tick, none⟩ { h with simulator := .sound h.simulator.value.tick }
  /-- A spoiled simulator stands still. -/
  | still (spoiled : h.simulator.spoiled = true) : Move h ⟨.tick, none⟩ h
  /-- The line is no request. -/
  | unreadable {viewer : Nat} {text : String} {around : Surroundings} {report : Json.Report}
    (unread : Request.ofLine text = .error report) :
    Move h ⟨.line viewer text around, some (.answer (unreadable text report))⟩ h
  /-- The request needs something spoiled. -/
  | refused {viewer : Nat} {text : String} {around : Surroundings} {request : Request}
    (read : Request.ofLine text = .ok request)
    (spoiled : ((h.progress viewer).spoiled || h.simulator.spoiled) = true) :
    Move h ⟨.line viewer text around, some (.answer (.badRequest spoiledReason))⟩ h
  /-- The request is served. -/
  | served {viewer : Nat} {text : String} {around : Surroundings} {request : Request}
    {outcome : Outcome α} {p : Progress} {s : Simulator α}
    (read : Request.ofLine text = .ok request)
    (sound : ((h.progress viewer).spoiled || h.simulator.spoiled) = false)
    (kept : outcome ≠ .brokenOff)
    (serves : Served around (h.progress viewer).value h.simulator.value request outcome p s) :
    Move h ⟨.line viewer text around, some outcome⟩ (h.settle viewer (.sound p) (.sound s))
  /-- The service breaks off. -/
  | brokenOff {viewer : Nat} {text : String} {around : Surroundings} {settings : Settings}
    (read : Request.ofLine text = .ok (.configure settings))
    (sound : ((h.progress viewer).spoiled || h.simulator.spoiled) = false)
    (hbegin : Episode.begin h.simulator.value.town (settings.settled around.drawn) around.drawn
      = none) :
    Move h ⟨.line viewer text around, some .brokenOff⟩
      (h.settle viewer { h.progress viewer with spoiled := true }
        { h.simulator with spoiled := true })

/-- A line follows a rule. -/
theorem move_receive (h : Host α) (viewer : Nat) (text : String) (around : Surroundings) :
    h.Move ⟨.line viewer text around, some (h.receive viewer text around).1⟩
      (h.receive viewer text around).2 := by
  -- The host afterwards is put as `settle`, so that the cases below are those of `route`.
  rw [receive_eq]
  cases read : Request.ofLine text with
  | error report =>
    simp only [route, read, settle_self]
    exact .unreadable read
  | ok request =>
    cases sound : (h.progress viewer).spoiled || h.simulator.spoiled with
    | true =>
      simp only [route, read, sound, if_true, settle_self]
      exact .refused read sound
    | false =>
      have serves := served_serve around request (h.progress viewer).value h.simulator.value
      cases houtcome : serve around request (h.progress viewer).value h.simulator.value with
      | mk outcome after =>
        obtain ⟨p, s⟩ := after
        rw [houtcome] at serves
        -- Only a service that breaks off spoils what it was given.
        cases outcome with
        | brokenOff =>
          simp only [route, read, sound, houtcome, Bool.false_eq_true, if_false]
          cases serves with
          | brokenOff hbegin => exact .brokenOff read sound hbegin
        | answer response =>
          simp only [route, read, sound, houtcome, Bool.false_eq_true, if_false]
          exact .served read sound (by simp) serves
        | wait =>
          simp only [route, read, sound, houtcome, Bool.false_eq_true, if_false]
          exact .served read sound (by simp) serves

/-- **Every step follows a rule.** -/
theorem move_step (h : Host α) (event : Event) :
    h.Move ⟨event, (h.step event).1⟩ (h.step event).2 := by
  cases event with
  | tick =>
    cases spoiled : h.simulator.spoiled with
    | true =>
      simp only [step, Host.tick, spoiled, if_true]
      exact .still spoiled
    | false =>
      simp only [step, Host.tick, spoiled, Bool.false_eq_true, if_false]
      exact .tick spoiled
  | line viewer text around => exact h.move_receive viewer text around

end Host

end TownTraffic
