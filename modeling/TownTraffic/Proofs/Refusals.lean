import TownTraffic.Proofs.History

/-!
# What is not granted changes nothing

A line may be refused, be put off until a frame is published, or only be echoed. Such a line leaves
the host as it was: the sessions of all viewers, the episode with its clock and its agents, and what
has been published. So it can be struck out of a history, and nothing else in the history changes.

* **`Outcome.isIdle`** — whether a line was granted nothing.
* **`Served.eq_self_iff`**, **`Host.Move.eq_self_iff`** — which lines leave everything as it was.
* **`Host.strike_idle`** — idle lines can be struck out of a history.
* **`kept_of_isIdle`** — what is not granted changes nothing.
-/

namespace TownTraffic

variable {α : Type}

/-- Whether a line was granted nothing: it was refused, put off or only echoed. -/
def Outcome.isIdle : Outcome α → Bool
  | .answer (.badRequest _) => true
  | .answer .badState => true
  | .answer (.episodeReady ready) => !ready
  | .answer (.ping _) => true
  | .wait => true
  | _ => false

/-- Whether the entry is a line that was granted nothing. -/
def Entry.isIdle (entry : Entry α) : Bool := entry.outcome.any Outcome.isIdle

/-! ## The parts that a service changes -/

namespace Progress

/-- A player who is put on a spot notices it, unless it stands there and has not been sent a frame
since. -/
theorem started_eq_self_iff {p : Progress} {spot : UInt64} :
    p.started spot = p ↔ p.stage = .running spot ∧ p.lastFrame = none := by
  obtain ⟨stage, framesSent, lastFrame⟩ := p
  simp [started, eq_comm]

/-- Whoever is sent a frame has been sent one more. -/
theorem sent_ne_self (p : Progress) (number : UInt64) : p.sent number ≠ p := by
  intro h
  have hframes : p.framesSent + 1 = p.framesSent := congrArg framesSent h
  simp at hframes

end Progress

/-- A simulator that begins an episode publishes its frame. -/
theorem Simulator.play_ne_self (s : Simulator α) (settings : Settings) (e : Episode α) :
    s.play settings e ≠ s := by
  intro h
  have hpublications : s.publications + 1 = s.publications := congrArg publications h
  omega

/-- A sound value is known by what it is. -/
theorem Guarded.sound_eq_iff {β : Type} {x : β} {g : Guarded β} (sound : g.spoiled = false) :
    .sound x = g ↔ x = g.value := by
  obtain ⟨value, spoiled⟩ := g
  simp_all [Guarded.sound]

/-- A service leaves the host as it was if it leaves the viewer's session and the simulator. -/
theorem Host.settle_eq_self_iff {h : Host α} {viewer : Nat} {p : Guarded Progress}
    {s : Guarded (Simulator α)} :
    h.settle viewer p s = h ↔ p = h.progress viewer ∧ s = h.simulator := by
  constructor
  · intro hsettle
    have hp : (h.settle viewer p s).progress viewer = h.progress viewer := by rw [hsettle]
    have hs : (h.settle viewer p s).simulator = h.simulator := by rw [hsettle]
    rw [progress_settle_self] at hp
    exact ⟨hp, hs⟩
  · rintro ⟨rfl, rfl⟩
    exact h.settle_self viewer

variable [Scalar α]

/-! ## Services -/

/-- **Which services change nothing**: those that grant nothing, and one that puts the player on the
spot where it has just been put. -/
theorem Served.eq_self_iff {around : Surroundings} {p p' : Progress} {s s' : Simulator α}
    {request : Request} {outcome : Outcome α} (serves : Served around p s request outcome p' s')
    (kept : outcome ≠ .brokenOff) :
    p' = p ∧ s' = s ↔ outcome.isIdle = true ∨ ∃ spot, request = .startEpisode spot
      ∧ outcome = .answer (.episodeReady true) ∧ p.stage = .running spot
      ∧ p.lastFrame = none := by
  cases serves with
  | brokenOff => exact absurd rfl kept
  | configured => simp [Outcome.isIdle, Simulator.play_ne_self]
  | started => simp [Outcome.isIdle, Progress.started_eq_self_iff]
  | advanced => simp [Outcome.isIdle, Progress.sent_ne_self]
  | shown => simp [Outcome.isIdle, Progress.sent_ne_self]
  | _ => simp [Outcome.isIdle]

/-! ## Lines -/

namespace Host

/-- **Which lines leave the host as it was**: those that are granted nothing, and one that puts the
player on the spot where it has just been put. -/
theorem Move.eq_self_iff {h h' : Host α} {viewer : Nat} {text : String} {around : Surroundings}
    {outcome : Outcome α} (move : h.Move ⟨.line viewer text around, some outcome⟩ h') :
    h' = h ↔ outcome.isIdle = true ∨ ∃ spot, Request.ofLine text = .ok (.startEpisode spot)
      ∧ outcome = .answer (.episodeReady true) ∧ (h.progress viewer).value.stage = .running spot
      ∧ (h.progress viewer).value.lastFrame = none := by
  cases move with
  | unreadable => simp [Outcome.isIdle, TownTraffic.unreadable]
  | refused => simp [Outcome.isIdle]
  | brokenOff _ sound =>
    have hspoiled : h.simulator.spoiled = false := (Bool.or_eq_false_iff.mp sound).2
    refine iff_of_false (fun heq => ?_) (by simp [Outcome.isIdle])
    have hs := congrArg Guarded.spoiled (settle_eq_self_iff.mp heq).2
    simp [hspoiled] at hs
  | served read sound kept serves =>
    obtain ⟨hprogress, hsimulator⟩ := Bool.or_eq_false_iff.mp sound
    rw [settle_eq_self_iff, Guarded.sound_eq_iff hprogress, Guarded.sound_eq_iff hsimulator,
      serves.eq_self_iff kept, read]
    simp

/-- A line that is granted nothing leaves the host as it was. -/
theorem step_eq_self_of_isIdle {h : Host α} {event : Event}
    (idle : Entry.isIdle ⟨event, (h.step event).1⟩ = true) : (h.step event).2 = h := by
  cases event with
  | tick => simp [Entry.isIdle, step] at idle
  | line viewer text around =>
    exact (h.move_receive viewer text around).eq_self_iff.mpr (.inl idle)

/-- **Lines that are granted nothing can be struck out of a history**: the same comes of all other
events, and the host is the same in the end. -/
theorem strike_idle (h : Host α) (events : List Event) :
    h.log (((h.log events).filter (!·.isIdle)).map Entry.event) = (h.log events).filter (!·.isIdle)
      ∧ h.after (((h.log events).filter (!·.isIdle)).map Entry.event) = h.after events := by
  induction events generalizing h with
  | nil => exact ⟨rfl, rfl⟩
  | cons event events ih =>
    rw [log_cons, after_cons]
    cases idle : Entry.isIdle ⟨event, (h.step event).1⟩ with
    | true =>
      rw [List.filter_cons_of_neg (by simp [idle]), step_eq_self_of_isIdle idle]
      exact ih h
    | false =>
      rw [List.filter_cons_of_pos (by simp [idle]), List.map_cons, log_cons, after_cons]
      obtain ⟨hlog, hafter⟩ := ih (h.step event).2
      exact ⟨by rw [hlog], hafter⟩

end Host

/-! ## What is not granted changes nothing -/

/-- **What is not granted changes nothing.** At any host, however it was reached, a line that is
refused, put off or only echoed leaves the host as it was, with all sessions, the episode, its mode
and what has been published; only one other line does so, which puts the player on the spot where it
has just been put. No line of a viewer changes the session of another one. So lines that are granted
nothing can be struck out of a history. -/
theorem kept_of_isIdle (h : Host α) (viewer : Nat) (text : String) (around : Surroundings) :
    ((h.receive viewer text around).1.isIdle = true → (h.receive viewer text around).2 = h)
      ∧ ((h.receive viewer text around).2 = h → (h.receive viewer text around).1.isIdle = true
        ∨ ∃ spot, Request.ofLine text = .ok (.startEpisode spot)
          ∧ (h.receive viewer text around).1 = .answer (.episodeReady true)
          ∧ (h.progress viewer).value.stage = .running spot
          ∧ (h.progress viewer).value.lastFrame = none)
      ∧ (∀ other, other ≠ viewer →
        (h.receive viewer text around).2.progress other = h.progress other)
      ∧ ∀ events, h.log (((h.log events).filter (!·.isIdle)).map Entry.event)
          = (h.log events).filter (!·.isIdle)
        ∧ h.after (((h.log events).filter (!·.isIdle)).map Entry.event) = h.after events := by
  have hself := (h.move_receive viewer text around).eq_self_iff
  exact ⟨fun idle => hself.mpr (.inl idle), hself.mp,
    fun other ne => h.progress_receive_of_ne ne text around, h.strike_idle⟩

/-! ### An episode that is steered by looks -/

/-- The settings of a staged episode, but that its clock advances with its looks. -/
def Staged.steered {town : Town α} (p : Staged town) : Settings :=
  { p.settings with synchronous := true }

/-- The host when the first viewer has asked for such an episode. -/
theorem Host.after_steer {town : Town α} (p : Staged town) :
    (fresh town).after [.line 0 (Request.configure p.steered).line ⟨0, ⟨0, 0⟩⟩]
      = (fresh town).settle 0 (.sound ⟨.configured, 0, none⟩)
        (.sound ⟨town, some p.episode, true, 0, 1⟩) := by
  -- What is drawn does not depend on how the clock advances.
  have hbegin : Episode.begin town p.steered ⟨0, 0⟩ = some p.episode := p.begin_eq ⟨0, 0⟩
  have hseeded : p.steered.isSeeded := p.seeded
  have hsettled := Settings.settled_of_isSeeded hseeded ⟨0, 0⟩
  have hsynchronous : p.steered.synchronous = true := rfl
  simp [step, receive_eq, route, Request.ofLine_line, serve, Simulator.configure, hsettled, hbegin,
    hsynchronous, Simulator.publish, Simulator.idle, fresh, Guarded.sound, Progress.start]

/-- A viewer who asks for a frame of such an episode too early neither advances its clock nor moves
its two vehicles and the pedestrian. -/
theorem kept_of_isIdle_steered :
    let h := (Host.fresh Town.served).after
      [.line 0 (Request.configure Staged.trio.steered).line ⟨0, ⟨0, 0⟩⟩]
    h.simulator.value.synchronous = true
      ∧ (h.receive 0 Request.readFrame.line ⟨0, ⟨0, 0⟩⟩).1 = .answer .badState
      ∧ (h.receive 0 Request.readFrame.line ⟨0, ⟨0, 0⟩⟩).2 = h
      ∧ (h.receive 0 Request.readFrame.line ⟨0, ⟨0, 0⟩⟩).2.simulator.value.episode
        = some Staged.trio.episode
      ∧ (h.receive 0 Request.readFrame.line ⟨0, ⟨0, 0⟩⟩).2.progress 1 = h.progress 1 := by
  intro h
  have hafter := Host.after_steer .trio
  have hanswer : (h.receive 0 Request.readFrame.line ⟨0, ⟨0, 0⟩⟩).1 = .answer .badState := by
    simp [h, hafter, Host.receive_eq, route, Request.ofLine_line, serve, Guarded.sound]
  obtain ⟨keeps, -, hothers, -⟩ := kept_of_isIdle h 0 Request.readFrame.line ⟨0, ⟨0, 0⟩⟩
  have hkept : (h.receive 0 Request.readFrame.line ⟨0, ⟨0, 0⟩⟩).2 = h :=
    keeps (by rw [hanswer]; rfl)
  refine ⟨?_, hanswer, hkept, ?_, hothers 1 (by decide)⟩
  · simp [h, hafter, Guarded.sound]
  · rw [hkept]
    simp [h, hafter, Guarded.sound]

end TownTraffic
