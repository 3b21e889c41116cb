import TownTraffic.Proofs.Publications

/-!
# Viewers keep out of each other's way

All viewers share one simulator, and any of them can make another episode begin. What a viewer is
sent of an episode depends on what the others do, but nothing else does: where its session stands
and all its other answers follow from the town and the viewer's own lines, whatever seeds are drawn.

* **`Stage.heard`**, **`Stage.reply?`** — what a line comes to in a given town.
* **`Turn`**, **`Host.turns`** — a line of a viewer with the stages before and after it.
* **`Turn.Course`** — the rules of a session; **`Host.course_turns`** every session follows them.
* **`Host.Whole`** — a host at which nothing has broken off.
* **`Event.Playable`**, **`Host.unbroken_log_iff`** — which histories break off.
* **`isolated_of_unbroken`** — a viewer's session goes on as if the viewer were alone.
-/

namespace TownTraffic

open History

variable {α : Type} [Scalar α]

/-! ## What a line comes to -/

namespace Stage

/-- The stage after a line. -/
def heard (town : Town α) (stage : Stage) (text : String) : Stage :=
  match Request.ofLine text with
  | .ok (.configure _) => .configured
  | .ok (.startEpisode spot) =>
    if stage ≠ .connected ∧ spot.toNat < town.spotCount then .running spot else stage
  | _ => stage

/-- The answer to a line, unless the line asks for a frame and the player stands on a spot. -/
def reply? (town : Town α) (stage : Stage) (text : String) : Option (Response α) :=
  match Request.ofLine text with
  | .error report => some (unreadable text report)
  | .ok (.ping payload) => some (.ping payload)
  | .ok (.configure _) => some (.town town.description)
  | .ok (.startEpisode spot) =>
    if stage = .connected then some .badState
    else some (.episodeReady (decide (spot.toNat < town.spotCount)))
  | .ok .readFrame =>
    match stage with
    | .running _ => none
    | _ => some .badState

variable {town : Town α} {stage : Stage} {text : String}

/-- What is left open is what is sent to a viewer whose player stands on a spot. -/
theorem reply?_eq_none_iff :
    stage.reply? town text = none ↔
      Request.ofLine text = .ok .readFrame ∧ ∃ spot, stage = .running spot := by
  cases read : Request.ofLine text with
  | error report => simp [reply?, read]
  | ok request =>
    cases request with
    | readFrame => cases stage <;> simp [reply?, read]
    | startEpisode spot => simp only [reply?, read]; split <;> simp
    | _ => simp [reply?, read]

end Stage

/-! ## Turns -/

/-- A line of a viewer with what came of it, and the stages of the session before and after. -/
structure Turn (α : Type) where
  before : Stage
  text : String
  outcome : Outcome α
  after : Stage

/-- Whether something is sent of an episode, or will be. -/
def Outcome.IsLook (outcome : Outcome α) : Prop :=
  outcome = .wait ∨ ∃ f, outcome = .answer (.frame f)

namespace Turn

/-- The viewer asks for a frame while its player stands on a spot. -/
def Looks (t : Turn α) : Prop :=
  Request.ofLine t.text = .ok .readFrame ∧ ∃ spot, t.before = .running spot

/-- A turn goes as it has to in a town. -/
structure Kept (town : Town α) (t : Turn α) : Prop where
  after_eq : t.after = t.before.heard town t.text
  outcome_eq : ∀ response, t.before.reply? town t.text = some response →
    t.outcome = .answer response
  isLook : t.Looks → t.outcome.IsLook

/-- **The rules of a session**: from a given stage, turn by turn. -/
inductive Course (town : Town α) : Stage → List (Turn α) → Prop
  | nil (stage : Stage) : Course town stage []
  | cons {t : Turn α} {later : List (Turn α)} (kept : t.Kept town)
    (rest : Course town t.after later) : Course town t.before (t :: later)

/-- Two turns differ at most in what is sent of an episode. -/
structure Agrees (t t' : Turn α) : Prop where
  before_eq : t'.before = t.before
  text_eq : t'.text = t.text
  after_eq : t'.after = t.after
  outcome_eq : ¬ t.Looks → t'.outcome = t.outcome
  isLook : t.Looks → t.outcome.IsLook ∧ t'.outcome.IsLook

variable {town : Town α} {t t' : Turn α} {stage : Stage} {turns turns' : List (Turn α)}

/-- A turn that is answered as it has to be. -/
theorem Kept.of_reply {stage later : Stage} {text : String} {response : Response α}
    (hafter : later = stage.heard town text) (hreply : stage.reply? town text = some response) :
    (⟨stage, text, .answer response, later⟩ : Turn α).Kept town where
  after_eq := hafter
  outcome_eq := by
    intro other hother
    exact congrArg Outcome.answer (Option.some.inj (hreply.symm.trans hother))
  isLook := by
    intro hlooks
    have hnone : stage.reply? town text = none := Stage.reply?_eq_none_iff.mpr hlooks
    simp [hreply] at hnone

/-- A turn in which something is sent of an episode, or will be. -/
theorem Kept.of_isLook {stage : Stage} {spot : UInt64} {text : String} {outcome : Outcome α}
    (read : Request.ofLine text = .ok .readFrame) (hstage : stage = .running spot)
    (hlook : outcome.IsLook) : (⟨stage, text, outcome, stage⟩ : Turn α).Kept town where
  after_eq := by simp [Stage.heard, read]
  outcome_eq := by
    intro response hreply
    rw [Stage.reply?_eq_none_iff.mpr ⟨read, spot, hstage⟩] at hreply
    simp at hreply
  isLook := fun _ => hlook

/-- Turns of the same line at the same stage agree. -/
theorem Kept.agrees (kept : t.Kept town) (kept' : t'.Kept town) (hbefore : t'.before = t.before)
    (htext : t'.text = t.text) : t.Agrees t' where
  before_eq := hbefore
  text_eq := htext
  after_eq := by rw [kept'.after_eq, kept.after_eq, hbefore, htext]
  outcome_eq := by
    intro hlooks
    have hsome : t.before.reply? town t.text ≠ none := mt Stage.reply?_eq_none_iff.mp hlooks
    obtain ⟨response, hreply⟩ := Option.ne_none_iff_exists'.mp hsome
    rw [kept.outcome_eq response hreply]
    exact kept'.outcome_eq response (by rwa [hbefore, htext])
  isLook := by
    intro hlooks
    refine ⟨kept.isLook hlooks, kept'.isLook ?_⟩
    rwa [Looks, hbefore, htext]

/-- **Sessions with the same lines agree.** -/
theorem Course.agrees (course : Course town stage turns) (course' : Course town stage turns')
    (htexts : turns'.map Turn.text = turns.map Turn.text) :
    List.Forall₂ Agrees turns turns' := by
  induction course generalizing turns' with
  | nil =>
    obtain rfl := List.map_eq_nil_iff.mp htexts
    exact .nil
  | cons kept rest ih =>
    -- The stage of the other session is the same, but not yet as that of its own first turn.
    generalize hstage : Turn.before _ = stage at course'
    cases course' with
    | nil => simp at htexts
    | cons kept' rest' =>
      obtain ⟨htext, hlater⟩ := List.cons.inj htexts
      have agrees := kept.agrees kept' hstage.symm htext
      rw [agrees.after_eq] at rest'
      exact .cons agrees (ih rest' hlater)

end Turn

/-! ## The turns of a history -/

/-- The line that an event is, if it is one of the viewer. -/
def Event.text? (viewer : Nat) : Event → Option String
  | .tick => none
  | .line who text _ => if who = viewer then some text else none

/-- Whether an event is a tick or a line of the viewer. -/
def Event.isOwn (viewer : Nat) : Event → Bool
  | .tick => true
  | .line who _ _ => who == viewer

/-- A viewer that is alone has the same lines. -/
theorem Event.filterMap_text?_filter_isOwn (viewer : Nat) (events : List Event) :
    (events.filter (·.isOwn viewer)).filterMap (·.text? viewer)
      = events.filterMap (·.text? viewer) := by
  rw [List.filterMap_filter]
  refine List.filterMap_congr fun event _ => ?_
  cases event with
  | tick => rfl
  | line who text around => by_cases h : who = viewer <;> simp [isOwn, text?, h]

namespace Host

/-- The turn that an event is, if it is a line of the viewer. -/
def turn? (h : Host α) (viewer : Nat) : Event → Option (Turn α)
  | .tick => none
  | .line who text around =>
    if who = viewer then
      some ⟨(h.progress viewer).value.stage, text, (h.receive viewer text around).1,
        ((h.receive viewer text around).2.progress viewer).value.stage⟩
    else none

/-- The turns of a viewer in a history. -/
def turns (h : Host α) (viewer : Nat) : List Event → List (Turn α)
  | [] => []
  | event :: events => (h.turn? viewer event).toList ++ (h.step event).2.turns viewer events

/-- A turn is a line of the viewer. -/
theorem map_text_turn? (h : Host α) (viewer : Nat) (event : Event) :
    (h.turn? viewer event).map Turn.text = event.text? viewer := by
  cases event with
  | tick => rfl
  | line who text around => by_cases h : who = viewer <;> simp [turn?, Event.text?, h]

/-- The turns of a viewer are its lines. -/
theorem map_text_turns (h : Host α) (viewer : Nat) (events : List Event) :
    (h.turns viewer events).map Turn.text = events.filterMap (·.text? viewer) := by
  induction events generalizing h with
  | nil => rfl
  | cons event events ih =>
    rw [turns, List.map_append, ih, List.filterMap_cons, ← h.map_text_turn?]
    cases h.turn? viewer event <;> rfl

/-- What is no turn of a viewer leaves the viewer where it is. -/
theorem progress_step_of_turn?_eq_none {h : Host α} {viewer : Nat} {event : Event}
    (hturn : h.turn? viewer event = none) :
    (h.step event).2.progress viewer = h.progress viewer := by
  have others : ∀ other ∈ [event], other.viewer? ≠ some viewer := by
    rw [List.forall_mem_singleton]
    cases event with
    | tick => simp [Event.viewer?]
    | line who text around => simpa [turn?, Event.viewer?] using hturn
  exact h.progress_after_of_others others

end Host

/-! ## Every session follows the rules -/

/-- A service goes as it has to. -/
theorem Served.kept {town : Town α} {around : Surroundings} {p p' : Progress} {s s' : Simulator α}
    {request : Request} {outcome : Outcome α} {text : String}
    (serves : Served around p s request outcome p' s') (read : Request.ofLine text = .ok request)
    (hkept : outcome ≠ .brokenOff) (htown : s.town = town)
    (hplays : ∀ spot, p.stage = .running spot → s.episode ≠ none) :
    (⟨p.stage, text, outcome, p'.stage⟩ : Turn α).Kept town := by
  subst htown
  -- By the rules of a service; only a look at the episode depends on more than the viewer's stage.
  cases serves with
  | ping => exact .of_reply (by simp [Stage.heard, read]) (by simp [Stage.reply?, read])
  | configured =>
    exact .of_reply (by simp [Stage.heard, read, Progress.configured])
      (by simp [Stage.reply?, read])
  | brokenOff => exact absurd rfl hkept
  | startedEarly hstage =>
    exact .of_reply (by simp [Stage.heard, read, hstage]) (by simp [Stage.reply?, read, hstage])
  | started hstage hspot =>
    exact .of_reply (by simp [Stage.heard, read, hstage, hspot, Progress.started])
      (by simp [Stage.reply?, read, hstage, hspot])
  | notStarted hstage hspot =>
    exact .of_reply (by simp [Stage.heard, read, hspot])
      (by simp [Stage.reply?, read, hstage, hspot])
  | readEarly hstage =>
    refine .of_reply (by simp [Stage.heard, read]) ?_
    cases h : p.stage with
    | running spot => exact absurd h (hstage spot)
    | _ => simp [Stage.reply?, read]
  | unplayed hstage he => exact absurd he (hplays _ hstage)
  | advanced hstage => exact .of_isLook read hstage (.inr ⟨_, rfl⟩)
  | shown hstage => exact .of_isLook read hstage (.inr ⟨_, rfl⟩)
  | waiting hstage => exact .of_isLook read hstage (.inl rfl)

namespace Host

variable {town : Town α} {events : List Event}

/-- **A host at which nothing has broken off.** It serves a given town, and whoever stands on a spot
has an episode to look at. -/
structure Whole (town : Town α) (h : Host α) : Prop where
  simulator_sound : h.simulator.spoiled = false
  progress_sound : ∀ viewer, (h.progress viewer).spoiled = false
  town_eq : h.simulator.value.town = town
  episode_ne_none : ∀ viewer spot, (h.progress viewer).value.stage = .running spot →
    h.simulator.value.episode ≠ none

/-- As long as no service breaks off, the host is whole. -/
theorem whole_after (unbroken : Unbroken ((fresh town).log events)) :
    ((fresh town).after events).Whole town := by
  have sound := (sound_iff_unbroken events).mpr unbroken
  refine ⟨sound, fun viewer => ?_, (plays_log events sound).town_eq, fun viewer spot hstage => ?_⟩
  · rw [progress_log unbroken viewer]
    rfl
  · rw [progress_log unbroken viewer] at hstage
    obtain ⟨e, he, -⟩ := exists_episode_of_running unbroken hstage
    simp [he]

/-- At a whole host a line goes as it has to, unless its service breaks off. -/
theorem Move.kept {h h' : Host α} {viewer : Nat} {text : String} {around : Surroundings}
    {outcome : Outcome α} (move : h.Move ⟨.line viewer text around, some outcome⟩ h')
    (whole : h.Whole town) (hkept : outcome ≠ .brokenOff) :
    (⟨(h.progress viewer).value.stage, text, outcome, (h'.progress viewer).value.stage⟩
      : Turn α).Kept town := by
  cases move with
  | unreadable unread =>
    exact .of_reply (by simp [Stage.heard, unread]) (by simp [Stage.reply?, unread])
  | refused _ spoiled => simp [whole.simulator_sound, whole.progress_sound] at spoiled
  | served read _ _ serves =>
    rw [progress_settle_self]
    exact serves.kept read hkept whole.town_eq (whole.episode_ne_none viewer)
  | brokenOff => exact absurd rfl hkept

/-- As long as no service breaks off, every turn goes as it has to. -/
theorem kept_of_turn? {viewer : Nat} {event : Event} {t : Turn α}
    (unbroken : Unbroken ((fresh town).log (events ++ [event])))
    (hturn : ((fresh town).after events).turn? viewer event = some t) :
    t.before = (((fresh town).after events).progress viewer).value.stage
      ∧ t.after = (((fresh town).after (events ++ [event])).progress viewer).value.stage
      ∧ t.Kept town := by
  rw [log_append] at unbroken
  have whole := whole_after unbroken.of_append
  cases event with
  | tick => simp [turn?] at hturn
  | line who text around =>
    -- Only the viewer's own lines are turns of its session.
    by_cases hwho : who = viewer
    · subst hwho
      simp only [turn?, if_true, Option.some.injEq] at hturn
      subst hturn
      refine ⟨rfl, by rw [after_append]; rfl,
        (move_receive _ who text around).kept whole fun hbroken => ?_⟩
      refine unbroken ⟨.line who text around, some .brokenOff⟩ ?_ rfl
      simp [step, hbroken]
    · simp [turn?, hwho] at hturn

/-- **Every session follows the rules**, as long as no service breaks off. -/
theorem course_turns {later : List Event}
    (unbroken : Unbroken ((fresh town).log (events ++ later))) (viewer : Nat) :
    Turn.Course town (((fresh town).after events).progress viewer).value.stage
      (((fresh town).after events).turns viewer later) := by
  -- What has been taken off the front joins the events before, since only hosts reached from a
  -- fresh one are known to be whole.
  induction later generalizing events with
  | nil => exact .nil _
  | cons event later ih =>
    rw [List.append_cons] at unbroken
    have rest := ih unbroken
    rw [log_append] at unbroken
    rw [turns]
    cases hturn : ((fresh town).after events).turn? viewer event with
    | none =>
      have hsame := progress_step_of_turn?_eq_none hturn
      rw [after_append, after_cons, after_nil, hsame] at rest
      exact rest
    | some t =>
      obtain ⟨hbefore, hafter, kept⟩ := kept_of_turn? unbroken.of_append hturn
      rw [← hafter, after_append] at rest
      rw [← hbefore]
      exact .cons kept rest

end Host

/-! ## Which histories break off -/

/-- Whether an episode can begin where the event asks for one. -/
def Event.Playable (town : Town α) : Event → Prop
  | .tick => True
  | .line _ text around => ∀ settings, Request.ofLine text = .ok (.configure settings) →
    Episode.begin town (settings.settled around.drawn) around.drawn ≠ none

namespace Host

variable {town : Town α}

/-- At a whole host an event breaks off exactly if it asks for an episode that cannot begin. -/
theorem Move.kept_iff_playable {h h' : Host α} {event : Event} {outcome : Option (Outcome α)}
    (move : h.Move ⟨event, outcome⟩ h') (whole : h.Whole town) :
    outcome ≠ some .brokenOff ↔ event.Playable town := by
  obtain ⟨sound, hprogress, rfl, -⟩ := whole
  cases move with
  | tick => simp [Event.Playable]
  | still => simp [Event.Playable]
  | unreadable unread => simp [Event.Playable, unread, TownTraffic.unreadable]
  | refused _ spoiled => simp [sound, hprogress] at spoiled
  | brokenOff read _ hbegin => simp [Event.Playable, read, hbegin]
  | served read _ kept serves =>
    refine iff_of_true (by simpa using kept) fun settings hread => ?_
    rw [read] at hread
    obtain rfl := Except.ok.inj hread
    cases serves with
    | configured hbegin => simp [hbegin]
    | brokenOff => exact absurd rfl kept

/-- **Whether a history breaks off** does not depend on the order of its events. -/
theorem unbroken_log_iff (events : List Event) :
    Unbroken ((fresh town).log events) ↔ ∀ event ∈ events, event.Playable town := by
  induction events using List.reverseRecOn with
  | nil => simp [Unbroken]
  | append_singleton events event ih =>
    rw [log_append, List.forall_mem_append, ← ih, Unbroken, List.forall_mem_append]
    refine and_congr_right fun before => ?_
    rw [log_cons, log_nil, List.forall_mem_singleton, List.forall_mem_singleton]
    exact (move_step _ event).kept_iff_playable (whole_after before)

/-- A viewer that is alone meets with no failure that it would not meet with among others. -/
theorem unbroken_log_filter {events : List Event}
    (unbroken : Unbroken ((fresh town).log events)) (p : Event → Bool) :
    Unbroken ((fresh town).log (events.filter p)) := by
  rw [unbroken_log_iff] at unbroken ⊢
  exact fun event hevent => unbroken event (List.mem_of_mem_filter hevent)

end Host

/-! ## Isolation -/

/-- **A viewer's session goes on as if the viewer were alone.** As long as no service breaks off,
the stages of the session and all answers but the frames follow, turn by turn, from the town and the
viewer's own lines. So when the lines of the others are left out, nothing breaks off either, and the
viewer passes through the same stages and is given the same answers, except that a request for a
frame is answered with some frame or left waiting if the player stands on a spot. The same holds of
any other history in which the viewer's lines are the same, whoever else is there, whenever the
clock ticks, and whatever seeds are drawn. -/
theorem isolated_of_unbroken {town : Town α} {events : List Event}
    (unbroken : Host.Unbroken ((Host.fresh town).log events)) (viewer : Nat) :
    Turn.Course town .connected ((Host.fresh town).turns viewer events)
      ∧ Host.Unbroken ((Host.fresh town).log (events.filter (·.isOwn viewer)))
      ∧ List.Forall₂ Turn.Agrees ((Host.fresh town).turns viewer events)
        ((Host.fresh town).turns viewer (events.filter (·.isOwn viewer)))
      ∧ ∀ others, Host.Unbroken ((Host.fresh town).log others) →
        others.filterMap (·.text? viewer) = events.filterMap (·.text? viewer) →
        List.Forall₂ Turn.Agrees ((Host.fresh town).turns viewer events)
          ((Host.fresh town).turns viewer others) := by
  have course {events : List Event} (unbroken : Host.Unbroken ((Host.fresh town).log events)) :
      Turn.Course town .connected ((Host.fresh town).turns viewer events) :=
    Host.course_turns (List.nil_append events ▸ unbroken) viewer
  -- Two sessions in which the viewer sends the same lines go the same course.
  have agree (others : List Event) (unbroken' : Host.Unbroken ((Host.fresh town).log others))
      (htexts : others.filterMap (·.text? viewer) = events.filterMap (·.text? viewer)) :
      List.Forall₂ Turn.Agrees ((Host.fresh town).turns viewer events)
        ((Host.fresh town).turns viewer others) := by
    refine (course unbroken).agrees (course unbroken') ?_
    rw [Host.map_text_turns, Host.map_text_turns, htexts]
  have alone := Host.unbroken_log_filter unbroken (·.isOwn viewer)
  exact ⟨course unbroken, alone, agree _ alone (Event.filterMap_text?_filter_isOwn viewer events),
    agree⟩

/-! ### Two viewers -/

/-- The lines of the first of two viewers, at another time and with other seeds, without another
viewer, and while the clock stands still. -/
def History.elsewhere {town : Town α} (p : Staged town) : List Event := [
  .line 0 (Request.configure p.settings).line ⟨7, ⟨3, 4⟩⟩,
  .line 0 (Request.startEpisode 0).line ⟨7, ⟨3, 4⟩⟩,
  .line 0 Request.readFrame.line ⟨7, ⟨3, 4⟩⟩,
  .line 0 (Request.startEpisode 0).line ⟨7, ⟨3, 4⟩⟩,
  .line 0 Request.readFrame.line ⟨7, ⟨3, 4⟩⟩,
  .line 0 Request.readFrame.line ⟨7, ⟨3, 4⟩⟩]

/-- Nothing breaks off elsewhere either. -/
theorem History.unbroken_elsewhere {town : Town α} (p : Staged town) :
    Host.Unbroken ((Host.fresh town).log (elsewhere p)) := by
  rw [Host.unbroken_log_iff]
  simp [elsewhere, Event.Playable, Request.ofLine_line]

/-- The lines are the same elsewhere. -/
theorem History.text?_elsewhere {town : Town α} (p q : Staged town) :
    (elsewhere p).filterMap (·.text? 0)
      = ((shared p q).map Entry.event).filterMap (·.text? 0) := by
  simp [elsewhere, shared, sharing, reconfigured, opened, answered, Event.text?]

/-- The first of two viewers, whose episode has a vehicle less than the other's, is told the same
without the second one, and elsewhere. -/
theorem isolated_of_unbroken_shared :
    Host.Unbroken ((Host.fresh Town.served).log ((shared .pair .trio).map Entry.event))
      ∧ List.Forall₂ Turn.Agrees
        ((Host.fresh Town.served).turns 0 ((shared .pair .trio).map Entry.event))
        ((Host.fresh Town.served).turns 0
          (((shared .pair .trio).map Entry.event).filter (·.isOwn 0)))
      ∧ List.Forall₂ Turn.Agrees
        ((Host.fresh Town.served).turns 0 ((shared .pair .trio).map Entry.event))
        ((Host.fresh Town.served).turns 0 (elsewhere .pair)) := by
  have unbroken : Host.Unbroken ((Host.fresh Town.served).log
      ((shared .pair .trio).map Entry.event)) := by
    rw [log_shared .pair .trio (by decide)]
    exact unbroken_shared .pair .trio
  obtain ⟨-, -, alone, anywhere⟩ := isolated_of_unbroken unbroken 0
  exact ⟨unbroken, alone, anywhere (elsewhere .pair) (unbroken_elsewhere .pair)
    (text?_elsewhere .pair .trio)⟩

end TownTraffic
