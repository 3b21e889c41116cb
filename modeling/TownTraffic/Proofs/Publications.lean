import TownTraffic.Proofs.Freshness
import TownTraffic.Session.Connection

/-!
# Publications

A viewer that is made to wait sleeps until a frame number is published. Nothing is lost by that: the
simulator changes only where it publishes, so as long as nothing is published the viewer would be
made to wait again; and what the others do meanwhile cannot make its request come at the wrong time.

* **`Simulator.frameNumber`** — the number of the present frame; **`published_after`** it is always
  the one published last.
* **`Simulator.Onward`** — whether something has been published if anything has changed;
  **`Host.onward_after`** every history leads onward.
* **`Host.receive_readFrame`** — a viewer whose player stands on a spot is sent a frame or made to
  wait.
* **`woken_of_wait`** — a viewer that waits is woken before a frame is there for it.
-/

namespace TownTraffic

open History Text

variable {α : Type}

/-! ## Publishing simulators -/

/-- **Whether something has been published if anything has changed.** -/
def Simulator.Onward (s s' : Simulator α) : Prop := s' = s ∨ s.publications < s'.publications

namespace Simulator.Onward

variable {s s' s'' : Simulator α}

/-- Nothing changes where nothing happens. -/
theorem refl (s : Simulator α) : s.Onward s := .inl rfl

/-- What is published is something new. -/
theorem of_publish (s : Simulator α) (e : Episode α) : s.Onward (s.publish e) :=
  .inr (Nat.lt_succ_self _)

/-- Nothing that has been published is taken back. -/
theorem publications_le (onward : s.Onward s') : s.publications ≤ s'.publications := by
  obtain rfl | hlt := onward
  · exact le_rfl
  · exact hlt.le

/-- What leads onward twice leads onward. -/
theorem trans (onward : s.Onward s') (onward' : s'.Onward s'') : s.Onward s'' := by
  obtain rfl | hlt := onward
  · exact onward'
  · exact .inr (hlt.trans_le onward'.publications_le)

end Simulator.Onward

/-! ## The number published last -/

/-- The number of the present frame; 0 before the first episode. -/
def Simulator.frameNumber (s : Simulator α) : UInt64 :=
  match s.episode with
  | some e => e.frameNumber
  | none => 0

namespace Simulator

/-- What is published is the number of the present frame. -/
@[simp] theorem frameNumber_publish (s : Simulator α) (e : Episode α) :
    (s.publish e).frameNumber = (s.publish e).published := rfl

/-- A new episode is published with the number of its first frame. -/
@[simp] theorem frameNumber_play (s : Simulator α) (settings : Settings) (e : Episode α) :
    (s.play settings e).frameNumber = (s.play settings e).published := rfl

/-- Before the first episode the number is 0. -/
theorem frameNumber_of_idle {s : Simulator α} (he : s.episode = none) : s.frameNumber = 0 := by
  simp [frameNumber, he]

/-- A tick publishes the new number. -/
theorem published_tick [Scalar α] {s : Simulator α} (h : s.published = s.frameNumber) :
    s.tick.published = s.tick.frameNumber := by
  cases he : s.episode with
  | none => rw [tick_of_idle he, h]
  | some e =>
    cases hs : s.synchronous with
    | true => rw [tick_of_synchronous hs, h]
    | false => rw [tick_of_asynchronous he hs, frameNumber_publish]

end Simulator

variable [Scalar α]

/-- A service publishes the new number. -/
theorem Served.published {around : Surroundings} {p p' : Progress} {s s' : Simulator α}
    {request : Request} {outcome : Outcome α} (serves : Served around p s request outcome p' s')
    (h : s.published = s.frameNumber) : s'.published = s'.frameNumber := by
  cases serves with
  | configured => rw [Simulator.frameNumber_play]
  | advanced => rw [Simulator.frameNumber_publish]
  | _ => exact h

namespace Host

/-- A move publishes the new number. -/
theorem Move.published {h h' : Host α} {entry : Entry α} (move : h.Move entry h')
    (before : h.simulator.value.published = h.simulator.value.frameNumber) :
    h'.simulator.value.published = h'.simulator.value.frameNumber := by
  cases move with
  | tick => exact Simulator.published_tick before
  | served _ _ _ serves => exact serves.published before
  | _ => exact before

/-- **The number published last is that of the present frame**, whatever has broken off. -/
theorem published_after (town : Town α) (events : List Event) :
    ((fresh town).after events).simulator.value.published
      = ((fresh town).after events).simulator.value.frameNumber := by
  refine log_induction town
    (motive := fun _ h => h.simulator.value.published = h.simulator.value.frameNumber)
    ?fresh ?move events
  case fresh => rfl
  case move => exact fun before move => move.published before

/-- Without an episode, only a configuration makes one begin. -/
theorem Move.episode_eq_none {h h' : Host α} {entry : Entry α} (move : h.Move entry h')
    (hconf : entry.configured? = none) (he : h.simulator.value.episode = none) :
    h'.simulator.value.episode = none := by
  cases move with
  | tick =>
    rw [Guarded.sound, Simulator.tick_of_idle he]
    exact he
  | served read _ _ serves =>
    cases serves with
    | configured => simp [Entry.configured?, read] at hconf
    | advanced _ hplays => simp [he] at hplays
    | _ => exact he
  | _ => exact he

/-- As long as no episode has begun there is none, whatever has broken off. -/
theorem episode_after_eq_none {town : Town α} {events : List Event}
    (hconf : ∀ entry ∈ (fresh town).log events, entry.configured? = none) :
    ((fresh town).after events).simulator.value.episode = none := by
  refine log_induction town
    (motive := fun log h => (∀ entry ∈ log, entry.configured? = none) →
      h.simulator.value.episode = none) ?fresh ?move events hconf
  case fresh => exact fun _ => rfl
  case move =>
    intro log h entry h' ih move hconf
    exact move.episode_eq_none (hconf entry (by simp)) (ih fun y hy => hconf y (by simp [hy]))

end Host

/-! ## Changes and publications -/

/-- A tick leads onward. -/
theorem Simulator.onward_tick (s : Simulator α) : s.Onward s.tick := by
  cases he : s.episode with
  | none => rw [tick_of_idle he]; exact .refl s
  | some e =>
    cases hs : s.synchronous with
    | true => rw [tick_of_synchronous hs]; exact .refl s
    | false => rw [tick_of_asynchronous he hs]; exact .of_publish s _

/-- A service leads onward. -/
theorem Served.onward {around : Surroundings} {p p' : Progress} {s s' : Simulator α}
    {request : Request} {outcome : Outcome α}
    (serves : Served around p s request outcome p' s') : s.Onward s' := by
  cases serves with
  | configured => exact .inr (Nat.lt_succ_self _)
  | advanced => exact .of_publish s _
  | _ => exact .refl s

namespace Host

/-- A move leads onward. -/
theorem Move.onward {h h' : Host α} {entry : Entry α} (move : h.Move entry h') :
    h.simulator.value.Onward h'.simulator.value := by
  cases move with
  | tick => exact Simulator.onward_tick _
  | served _ _ _ serves => exact serves.onward
  | _ => exact .refl _

/-- **Every history leads onward**: the simulator changes only where it publishes. -/
theorem onward_after (h : Host α) (events : List Event) :
    h.simulator.value.Onward (h.after events).simulator.value := by
  induction events generalizing h with
  | nil => exact .refl _
  | cons event events ih => exact (h.move_step event).onward.trans (ih _)

end Host

/-! ## Waiting -/

/-- A value that is not spoiled is sound. -/
theorem Guarded.sound_value {β : Type} {g : Guarded β} (sound : g.spoiled = false) :
    Guarded.sound g.value = g := by
  obtain ⟨value, spoiled⟩ := g
  subst sound
  rfl

/-- The viewer whose line an event is. -/
def Event.viewer? : Event → Option Nat
  | .tick => none
  | .line viewer _ _ => some viewer

/-- A viewer whose player stands on a spot is sent a frame of the episode or made to wait. -/
theorem Served.readFrame_of_running {around : Surroundings} {p p' : Progress}
    {s s' : Simulator α} {outcome : Outcome α} {spot : UInt64} {e : Episode α}
    (serves : Served around p s .readFrame outcome p' s') (hstage : p.stage = .running spot)
    (he : s.episode = some e) : outcome = .wait ∨ ∃ f, outcome = .answer (.frame f) := by
  cases serves with
  | readEarly hother => exact absurd hstage (hother spot)
  | unplayed _ hidle => simp [he] at hidle
  | advanced => exact .inr ⟨_, rfl⟩
  | shown => exact .inr ⟨_, rfl⟩
  | waiting => exact .inl rfl

namespace Host

/-- A tick leaves the viewers where they are. -/
@[simp] theorem progress_tick (h : Host α) : h.tick.progress = h.progress := by
  unfold tick
  split <;> rfl

/-- What the others do leaves a viewer where it is. -/
theorem progress_after_of_others (h : Host α) {viewer : Nat} {later : List Event}
    (others : ∀ event ∈ later, event.viewer? ≠ some viewer) :
    (h.after later).progress viewer = h.progress viewer := by
  induction later generalizing h with
  | nil => rfl
  | cons event later ih =>
    rw [after_cons, ih _ fun event hevent => others event (by simp [hevent])]
    cases event with
    | tick => simp [step]
    | line who text around =>
      have hwho : viewer ≠ who := by
        rintro rfl
        exact others (.line viewer text around) (by simp) rfl
      exact h.progress_receive_of_ne hwho text around

/-- Only a request for a frame is left waiting, and it leaves the host as it is. -/
theorem Move.of_wait {h h' : Host α} {viewer : Nat} {text : String} {around : Surroundings}
    (move : h.Move ⟨.line viewer text around, some .wait⟩ h') :
    Request.ofLine text = .ok .readFrame ∧ h' = h := by
  cases move with
  | served read sound _ serves =>
    rw [Bool.or_eq_false_iff] at sound
    cases serves with
    | waiting =>
      exact ⟨read, by rw [Guarded.sound_value sound.1, Guarded.sound_value sound.2, settle_self]⟩

/-- As long as no service has broken off, a viewer whose player stands on a spot is sent a frame or
made to wait. -/
theorem receive_readFrame {town : Town α} {events : List Event}
    (unbroken : Unbroken ((fresh town).log events)) {viewer : Nat} {spot : UInt64}
    (hstage : (((fresh town).after events).progress viewer).value.stage = .running spot)
    {text : String} (read : Request.ofLine text = .ok .readFrame) (around : Surroundings) :
    (((fresh town).after events).receive viewer text around).1 = .wait
      ∨ ∃ f, (((fresh town).after events).receive viewer text around).1 = .answer (.frame f) := by
  rw [progress_log unbroken] at hstage
  obtain ⟨around', p, s, serves⟩ := served_receive unbroken read viewer around
  obtain ⟨e, he, -⟩ := exists_episode_of_running unbroken hstage
  exact serves.readFrame_of_running hstage he

section

variable {town : Town α} {events later : List Event} {viewer : Nat} {text : String}
  {around : Surroundings}

/-- As long as no service breaks off, an unbroken log goes on unbroken. -/
theorem unbroken_log_append (unbroken : Unbroken ((fresh town).log events))
    (unbroken' : Unbroken (((fresh town).after events).log later)) :
    Unbroken ((fresh town).log (events ++ later)) := by
  rw [log_append]
  exact List.forall_mem_append.mpr ⟨unbroken, unbroken'⟩

/-- Where a request is left waiting, no service has broken off, and the player stands on a spot. -/
theorem unbroken_of_wait
    (hwait : (((fresh town).after events).receive viewer text around).1 = .wait) :
    Request.ofLine text = .ok .readFrame
      ∧ (((fresh town).after events).receive viewer text around).2 = (fresh town).after events
      ∧ Unbroken ((fresh town).log events)
      ∧ ∃ spot, (((fresh town).after events).progress viewer).value.stage = .running spot := by
  have move := ((fresh town).after events).move_receive viewer text around
  rw [hwait] at move
  obtain ⟨read, hsame⟩ := move.of_wait
  obtain ⟨unbroken, hstage, -⟩ := (receive_eq_wait_iff read around).mp hwait
  refine ⟨read, hsame, unbroken, ?_⟩
  rw [progress_log unbroken]
  exact hstage

/-- As long as nothing is published and the viewer asks for nothing else, its request is left
waiting anew. -/
theorem wait_of_publications_eq
    (hwait : (((fresh town).after events).receive viewer text around).1 = .wait)
    (others : ∀ event ∈ later, event.viewer? ≠ some viewer)
    (unbroken' : Unbroken (((fresh town).after events).log later)) (again : Surroundings)
    (hpub : (((fresh town).after events).after later).simulator.value.publications
      = ((fresh town).after events).simulator.value.publications) :
    ((((fresh town).after events).after later).receive viewer text again).1 = .wait := by
  obtain ⟨read, -, unbroken, -⟩ := unbroken_of_wait hwait
  have hall := unbroken_log_append unbroken unbroken'
  -- Whether a request waits depends on the viewer's progress and the simulator; neither changes.
  have hprogress : Progress.ofExchanges (exchanges viewer ((fresh town).log (events ++ later)))
      = .ofExchanges (exchanges viewer ((fresh town).log events)) := by
    have hsame := ((fresh town).after events).progress_after_of_others others
    rw [← after_append, progress_log hall, progress_log unbroken] at hsame
    exact congrArg Guarded.value hsame
  have hsimulator : (((fresh town).after events).after later).simulator.value
      = ((fresh town).after events).simulator.value := by
    obtain hsame | hlt := ((fresh town).after events).onward_after later
    · exact hsame
    · omega
  obtain ⟨_, _, _, serves⟩ := served_receive unbroken read viewer around
  obtain ⟨_, _, _, serves'⟩ := served_receive hall read viewer again
  rw [hprogress, after_append, hsimulator] at serves'
  exact serves'.readFrame_eq_wait_iff.mpr (serves.readFrame_eq_wait_iff.mp hwait)

/-- A viewer that was made to wait is sent a frame or made to wait again, whatever the others do. -/
theorem receive_after_wait
    (hwait : (((fresh town).after events).receive viewer text around).1 = .wait)
    (others : ∀ event ∈ later, event.viewer? ≠ some viewer)
    (unbroken' : Unbroken (((fresh town).after events).log later)) (again : Surroundings) :
    ((((fresh town).after events).after later).receive viewer text again).1 = .wait
      ∨ ∃ f, ((((fresh town).after events).after later).receive viewer text again).1
        = .answer (.frame f) := by
  obtain ⟨read, -, unbroken, spot, hstage⟩ := unbroken_of_wait hwait
  have hall := unbroken_log_append unbroken unbroken'
  rw [← ((fresh town).after events).progress_after_of_others others, ← after_append] at hstage
  rw [← after_append]
  exact receive_readFrame hall hstage read again

end

end Host

/-- A connection that waits has its line served anew if something has been published that it has not
taken notice of. -/
theorem Connection.advance_of_waiting [Json.Wire α] {c : Connection} {h : Host α} {text : String}
    (waiting : c.phase = .waiting text) (hseen : c.seen < h.simulator.value.publications)
    (around : Surroundings) :
    c.advance around h
      = (none, { c with phase := .asking text, seen := h.simulator.value.publications }, h) := by
  simp [advance, waiting, hseen.ne']

/-- **A viewer that waits is woken before a frame is there for it.** The number published last is
always that of the present frame, and 0 as long as no episode has begun. A request that is left
waiting leaves the host as it is; and then, whatever the others do, as long as nothing breaks off
the request would be left waiting again or answered with a frame. It can be answered with a frame
only after something has been published, so that a connection which has taken notice of nothing
since has the line served anew. -/
theorem woken_of_wait [Json.Wire α] (town : Town α) (events : List Event) :
    let h := (Host.fresh town).after events
    h.simulator.value.published = h.simulator.value.frameNumber
      ∧ ((∀ entry ∈ (Host.fresh town).log events, entry.configured? = none) →
        h.simulator.value.published = 0)
      ∧ ∀ viewer text around, (h.receive viewer text around).1 = .wait →
        (h.receive viewer text around).2 = h
          ∧ ∀ later, (∀ event ∈ later, event.viewer? ≠ some viewer) →
            Host.Unbroken (h.log later) → ∀ again,
            let h' := h.after later
            ((h'.receive viewer text again).1 = .wait
                ∨ ∃ f, (h'.receive viewer text again).1 = .answer (.frame f))
              ∧ ∀ f, (h'.receive viewer text again).1 = .answer (.frame f) →
                h.simulator.value.publications < h'.simulator.value.publications
                  ∧ ∀ c : Connection, c.phase = .waiting text →
                    c.seen ≤ h.simulator.value.publications →
                    (c.advance again h').2.1.phase = .asking text := by
  intro h
  have hpublished : h.simulator.value.published = h.simulator.value.frameNumber :=
    Host.published_after town events
  refine ⟨hpublished, fun hconf => ?idle, fun viewer text around hwait =>
    ⟨(Host.unbroken_of_wait hwait).2.1, fun later others unbroken again =>
      ⟨Host.receive_after_wait hwait others unbroken again, fun f hframe => ?woken⟩⟩⟩
  case idle =>
    rw [hpublished, Simulator.frameNumber_of_idle (Host.episode_after_eq_none hconf)]
  case woken =>
    have hlt : h.simulator.value.publications < (h.after later).simulator.value.publications := by
      -- Without a publication the viewer would have to wait again.
      refine lt_of_le_of_ne (h.onward_after later).publications_le fun hpub => ?_
      have hagain := Host.wait_of_publications_eq hwait others unbroken again hpub.symm
      exact absurd (hagain.symm.trans hframe) (by simp)
    refine ⟨hlt, fun c waiting hseen => ?_⟩
    rw [Connection.advance_of_waiting waiting (hseen.trans_lt hlt)]

/-! ### A viewer waits while another one asks for an episode -/

namespace History

variable {town : Town α} (p q : Staged town)

/-- What the second viewer does while the first one waits: it makes an episode begin, whose clock
then advances. -/
def meanwhile : List Event := [.line 1 (Request.configure q.settings).line ⟨0, ⟨0, 0⟩⟩, .tick]

/-- The host when the first viewer has been sent the first frame of its episode. -/
theorem after_opened (hspot : 0 < town.spotCount) :
    (Host.fresh town).after ((opened p).map Entry.event)
      = (Host.fresh town).settle 0 (.sound ⟨.running 0, 1, some 0⟩)
        (.sound ⟨town, some p.episode, false, 0, 1⟩) := by
  simp [opened, answered, Host.step, Host.receive_eq, route, Request.ofLine_line, serve, Host.fresh,
    Guarded.sound, Progress.start, Simulator.idle, Simulator.configure, Simulator.publish,
    Simulator.look, hspot]

/-- The first viewer has the frame that there is. -/
theorem receive_opened (hspot : 0 < town.spotCount) :
    (((Host.fresh town).after ((opened p).map Entry.event)).receive 0 Request.readFrame.line
      ⟨0, ⟨0, 0⟩⟩).1 = .wait := by
  rw [after_opened p hspot]
  simp [Host.receive_eq, route, Request.ofLine_line, serve, Simulator.look, Guarded.sound]

/-- Nothing breaks off meanwhile. -/
theorem unbroken_meanwhile (hspot : 0 < town.spotCount) :
    Host.Unbroken (((Host.fresh town).after ((opened p).map Entry.event)).log (meanwhile q)) := by
  rw [after_opened p hspot]
  simp [Host.Unbroken, meanwhile, Host.step, Host.receive_eq, route, Request.ofLine_line, serve,
    Simulator.configure, Host.settle, Host.fresh, Guarded.sound, Progress.start]

/-- Then there is another frame. -/
theorem receive_meanwhile (hspot : 0 < town.spotCount) :
    ((((Host.fresh town).after ((opened p).map Entry.event)).after (meanwhile q)).receive 0
        Request.readFrame.line ⟨0, ⟨0, 0⟩⟩).1
      = .answer (.frame ((q.episode.tick Simulator.step).frame 0)) := by
  rw [after_opened p hspot]
  simp [meanwhile, Host.step, Host.receive_eq, route, Request.ofLine_line, serve, Host.tick,
    Simulator.tick, Simulator.configure, Simulator.publish, Simulator.look, Host.settle,
    Host.fresh, Guarded.sound, Progress.start]

end History

/-- The first of two viewers is woken when the second one's episode has begun and its clock has
advanced, and is sent its two vehicles, the pedestrian, the lights and the sign. -/
theorem woken_of_wait_opened :
    let h := (Host.fresh Town.served).after ((opened .pair).map Entry.event)
    let h' := h.after (meanwhile .trio)
    (h.receive 0 Request.readFrame.line ⟨0, ⟨0, 0⟩⟩).1 = .wait
      ∧ (h'.receive 0 Request.readFrame.line ⟨0, ⟨0, 0⟩⟩).1
        = .answer (.frame ((Staged.trio.episode.tick Simulator.step).frame 0))
      ∧ ((Staged.trio.episode.tick Simulator.step).frame 0).agents.length = 8
      ∧ h.simulator.value.publications < h'.simulator.value.publications
      ∧ (Connection.advance ⟨0, ⟨0, 0⟩⟩ ⟨0, .empty, Line.ofText Request.readFrame.line,
        .waiting Request.readFrame.line, 1, []⟩ h').2.1.phase = .asking Request.readFrame.line := by
  have hspot : 0 < Town.served.spotCount := by decide
  have hwait := receive_opened .pair hspot
  have hframe := receive_meanwhile .pair .trio hspot
  have hothers : ∀ event ∈ meanwhile .trio, event.viewer? ≠ some 0 := by
    simp [meanwhile, Event.viewer?]
  have hseen : 1 ≤ ((Host.fresh Town.served).after
      ((opened .pair).map Entry.event)).simulator.value.publications := by
    rw [after_opened .pair hspot]
    simp [Guarded.sound]
  obtain ⟨-, -, hwaits⟩ := woken_of_wait Town.served ((opened .pair).map Entry.event)
  have hagain := (hwaits 0 Request.readFrame.line ⟨0, ⟨0, 0⟩⟩ hwait).2 (meanwhile .trio) hothers
    (unbroken_meanwhile .pair .trio hspot) ⟨0, ⟨0, 0⟩⟩
  have hwoken := hagain.2 _ hframe
  have hasking := hwoken.2 ⟨0, .empty, Line.ofText Request.readFrame.line,
    .waiting Request.readFrame.line, 1, []⟩ rfl hseen
  exact ⟨hwait, hframe, Episode.length_agents_played Staged.trio.begins rfl 1 0, hwoken.1, hasking⟩

end TownTraffic
