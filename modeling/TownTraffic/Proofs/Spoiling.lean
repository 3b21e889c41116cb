import TownTraffic.Proofs.Publications

/-!
# When an episode cannot begin

An episode that cannot begin breaks off the service half-way. The host contains the damage: nothing
has been changed by then, and from there on nothing ever changes again. The spoiled simulator stands
still, every request is refused for the same reason, and a line that is no request gets the refusal
that it would have got before.

* **`Event.declined`** — what comes of an event at a spoiled host.
* **`Host.run_of_spoiled`** — a spoiled host declines every event and stays as it is.
* **`contained_of_begin_eq_none`** — an episode that cannot begin changes nothing, for ever.
-/

namespace TownTraffic

open History

variable {α : Type}

/-- What comes of an event at a host whose simulator is spoiled. -/
def Event.declined : Event → Option (Outcome α)
  | .tick => none
  | .line _ text _ =>
    match Request.ofLine text with
    | .ok _ => some (.answer (.badRequest spoiledReason))
    | .error report => some (.answer (unreadable text report))

namespace Host

/-- Whoever's session is spoiled, all sessions have come as far as before. -/
theorem value_progress_settle (h : Host α) (viewer other : Nat) (spoiled : Bool)
    (s : Guarded (Simulator α)) :
    ((h.settle viewer ⟨(h.progress viewer).value, spoiled⟩ s).progress other).value
      = (h.progress other).value := by
  by_cases hother : other = viewer
  · rw [hother, progress_settle_self]
  · rw [progress_settle_of_ne h hother]

variable [Scalar α]

/-! ## Spoiled hosts -/

/-- A spoiled host declines an event and stays as it is. -/
theorem step_of_spoiled {h : Host α} (spoiled : h.simulator.spoiled = true) (event : Event) :
    h.step event = (event.declined, h) := by
  -- The move is told from what came of the event, since not all moves are those of a spoiled host.
  have move := h.move_step event
  generalize h.step event = after at move
  obtain ⟨outcome, h'⟩ := after
  cases move with
  | tick sound => simp [spoiled] at sound
  | still => rfl
  | unreadable unread => simp only [Event.declined, unread]
  | refused read => simp only [Event.declined, read]
  | served _ sound => simp [spoiled] at sound
  | brokenOff _ sound => simp [spoiled] at sound

/-- **A spoiled host declines every event and stays as it is.** -/
theorem run_of_spoiled {h : Host α} (spoiled : h.simulator.spoiled = true) (events : List Event) :
    h.run events = (events.map Event.declined, h) := by
  induction events with
  | nil => rfl
  | cons event events ih => rw [run_cons, step_of_spoiled spoiled, ih, List.map_cons]

/-- A line that is no request is refused at every host alike. -/
theorem receive_of_unreadable {text : String} {report : Json.Report}
    (unread : Request.ofLine text = .error report) (h : Host α) (viewer : Nat)
    (around : Surroundings) :
    (h.receive viewer text around).1 = .answer (unreadable text report) := by
  simp [receive, route, unread]

/-! ## The service that breaks off -/

/-- What a service leaves behind where an episode cannot begin. -/
theorem receive_of_begin_eq_none {h : Host α} {viewer : Nat} {text : String} {settings : Settings}
    {around : Surroundings} (read : Request.ofLine text = .ok (.configure settings))
    (progress_sound : (h.progress viewer).spoiled = false)
    (simulator_sound : h.simulator.spoiled = false)
    (hbegin : Episode.begin h.simulator.value.town (settings.settled around.drawn) around.drawn
      = none) :
    h.receive viewer text around = (.brokenOff, h.settle viewer ⟨(h.progress viewer).value, true⟩
      ⟨h.simulator.value, true⟩) := by
  simp [receive_eq, route, read, progress_sound, simulator_sound, serve,
    Simulator.configure_of_begin_eq_none hbegin]

end Host

/-- **An episode that cannot begin changes nothing, for ever.** The service of the viewer who asked
for it breaks off. The simulator with its episode, its mode and what it has published is then as
before, and so are all sessions. Whatever happens afterwards, ticks do nothing, every request of
every viewer is refused since something is spoiled, a line that is no request is refused as it would
have been before, and the host stays as it is. -/
theorem contained_of_begin_eq_none [Scalar α] {h : Host α} {viewer : Nat} {text : String}
    {settings : Settings} {around : Surroundings}
    (read : Request.ofLine text = .ok (.configure settings))
    (progress_sound : (h.progress viewer).spoiled = false)
    (simulator_sound : h.simulator.spoiled = false)
    (hbegin : Episode.begin h.simulator.value.town (settings.settled around.drawn) around.drawn
      = none) :
    ∃ h', h.receive viewer text around = (.brokenOff, h')
      ∧ h'.simulator.value = h.simulator.value
      ∧ (∀ other, (h'.progress other).value = (h.progress other).value)
      ∧ (∀ events, h'.run events = (events.map Event.declined, h'))
      ∧ ∀ other line around' report, Request.ofLine line = .error report →
        (h'.receive other line around').1 = (h.receive other line around').1 := by
  refine ⟨_, Host.receive_of_begin_eq_none read progress_sound simulator_sound hbegin, rfl,
    fun other => h.value_progress_settle viewer other true _, Host.run_of_spoiled rfl, ?_⟩
  intro other line around' report unread
  rw [Host.receive_of_unreadable unread, Host.receive_of_unreadable unread]

/-- A town of a single block, so wide that the way round it is infinite in binary32. -/
def Town.endless : Town Float32 where
  name := "Town01"
  bounds := .ofCorner (Scalar.ofNat 0) (Scalar.ofNat 0) (Scalar.decimal (3 * 10 ^ 38) 0)
    (Scalar.decimal (3 * 10 ^ 38) 0)
  blockSize := Scalar.decimal (3 * 10 ^ 38) 0
  spotCount := 1

/-- An episode in the endless town, with a pedestrian on a side of its only block. -/
def Staged.lonely : Staged Town.endless := .ofPeopled 0 1 (by decide +kernel)

/-- In an endless town the first viewer plays an episode with a pedestrian. Then the second one asks
for an episode with a vehicle too, which cannot begin. Afterwards both are refused. -/
theorem contained_of_begin_eq_none_endless :
    let h := (Host.fresh Town.endless).after ((opened .lonely).map Entry.event)
    ∃ h', h.receive 1 (Request.configure (.peopled 1 1)).line ⟨0, ⟨0, 0⟩⟩ = (.brokenOff, h')
      ∧ h'.simulator.value.episode = some Staged.lonely.episode
      ∧ (h'.progress 0).value = ⟨.running 0, 1, some 0⟩
      ∧ h'.run [.tick, .line 0 Request.readFrame.line ⟨0, ⟨0, 0⟩⟩,
          .line 1 (Request.startEpisode 0).line ⟨0, ⟨0, 0⟩⟩]
        = ([none, some (.answer (.badRequest spoiledReason)),
          some (.answer (.badRequest spoiledReason))], h') := by
  rw [after_opened .lonely (by decide)]
  have hbegin : Episode.begin Town.endless (.peopled 1 1) ⟨0, 0⟩ = none := by
    decide +kernel
  obtain ⟨h', hreceive, hsimulator, hprogress, hrun, -⟩ := @contained_of_begin_eq_none _ _
    ((Host.fresh Town.endless).settle 0 (.sound ⟨.running 0, 1, some 0⟩)
      (.sound ⟨Town.endless, some Staged.lonely.episode, false, 0, 1⟩))
    1 _ _ ⟨0, ⟨0, 0⟩⟩ (Request.ofLine_line (.configure (.peopled 1 1))) rfl rfl hbegin
  refine ⟨h', hreceive, by rw [hsimulator]; rfl, by rw [hprogress]; rfl, ?_⟩
  rw [hrun]
  simp [Event.declined, Request.ofLine_line]

end TownTraffic
