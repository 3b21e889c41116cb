import TownTraffic.Binary.Instance
import TownTraffic.Proofs.Moves
import TownTraffic.Proofs.Requests
import Mathlib.Data.List.DropRight

/-!
# Histories

The log of a host lists the events since it was fresh, each with what came of it. All that later
modules say about a host is said in terms of its log.

* **`Host.after`**, **`Host.log`** — the host after some events, and the log of them;
  **`Host.log_induction`** shows what holds of both, move by move.
* **`Entry.configured?`**, **`Entry.frame?`**, **`Entry.isTick`** — what an entry was.
* **`History.settings?`**, **`History.since`** — the settings of the latest episode, and the entries
  since it began; **`History.clock`** how often its clock has advanced.
* **`Exchange`**, **`History.exchanges`** — a viewer's own requests with their outcomes.
-/

namespace TownTraffic

variable {α : Type}

/-! ## Logs -/

namespace Host

variable [Scalar α]

/-- The host after some events. -/
def after (h : Host α) (events : List Event) : Host α := (h.run events).2

/-- The log of some events: each with what comes of it. -/
def log (h : Host α) (events : List Event) : List (Entry α) :=
  List.zipWith Entry.mk events (h.run events).1

/-- Nothing happens in an empty history. -/
@[simp] theorem after_nil (h : Host α) : h.after [] = h := rfl

/-- What comes after an event happens to the host that it leaves. -/
@[simp] theorem after_cons (h : Host α) (event : Event) (events : List Event) :
    h.after (event :: events) = (h.step event).2.after events := rfl

/-- Nothing is noted of an empty history. -/
@[simp] theorem log_nil (h : Host α) : h.log [] = [] := rfl

/-- An event is noted with its outcome, and what comes after it is noted of the host that it
leaves. -/
@[simp] theorem log_cons (h : Host α) (event : Event) (events : List Event) :
    h.log (event :: events) = ⟨event, (h.step event).1⟩ :: (h.step event).2.log events := rfl

/-- A history is gone through in two parts. -/
theorem after_append (h : Host α) (events later : List Event) :
    h.after (events ++ later) = (h.after events).after later := by
  induction events generalizing h with
  | nil => rfl
  | cons event events ih => simp only [List.cons_append, after_cons, ih]

/-- A history is noted in two parts. -/
theorem log_append (h : Host α) (events later : List Event) :
    h.log (events ++ later) = h.log events ++ (h.after events).log later := by
  induction events generalizing h with
  | nil => rfl
  | cons event events ih => simp only [List.cons_append, log_cons, after_cons, ih]

/-- **What every move keeps holds after every history.** -/
theorem log_induction (town : Town α) {motive : List (Entry α) → Host α → Prop}
    (fresh : motive [] (.fresh town))
    (move : ∀ {log h entry h'}, motive log h → h.Move entry h' → motive (log ++ [entry]) h')
    (events : List Event) : motive ((Host.fresh town).log events)
      ((Host.fresh town).after events) := by
  -- Events are added at the end, since a move extends a log there.
  induction events using List.reverseRecOn with
  | nil => exact fresh
  | append_singleton events event ih =>
    rw [log_append, after_append]
    exact move ih (move_step _ event)

/-- Every entry of a log is the move of a host whose log is what stands before the entry. -/
theorem move_of_log_eq {h : Host α} {events : List Event} {before later : List (Entry α)}
    {entry : Entry α} (hlog : h.log events = before ++ entry :: later) :
    ∃ earlier, h.log earlier = before ∧ h.log (earlier ++ [entry.event]) = before ++ [entry]
      ∧ (h.after earlier).Move entry (h.after (earlier ++ [entry.event])) := by
  -- Events are taken off the front here, so the host they are run from changes.
  induction before generalizing h events with
  | nil =>
    cases events with
    | nil => simp at hlog
    | cons event events =>
      simp only [log_cons, List.nil_append, List.cons.injEq] at hlog
      obtain ⟨rfl, -⟩ := hlog
      exact ⟨[], rfl, rfl, h.move_step event⟩
  | cons first before ih =>
    cases events with
    | nil => simp at hlog
    | cons event events =>
      simp only [log_cons, List.cons_append, List.cons.injEq] at hlog
      obtain ⟨rfl, hlog⟩ := hlog
      obtain ⟨earlier, hbefore, hentry, hmove⟩ := ih hlog
      refine ⟨event :: earlier, ?_, ?_, ?_⟩
      · rw [log_cons, hbefore]
      · rw [List.cons_append, log_cons, hentry, List.cons_append]
      · exact hmove

end Host

/-! ## Entries -/

namespace Entry

/-- Whether the entry is a tick of the clock. -/
def isTick (entry : Entry α) : Bool :=
  match entry.event with
  | .tick => true
  | .line .. => false

/-- The frame that was sent. -/
def frame? (entry : Entry α) : Option (Frame α) :=
  match entry.outcome with
  | some (.answer (.frame f)) => some f
  | _ => none

/-- The settings with which an episode began, the seeds filled in. -/
def configured? (entry : Entry α) : Option Settings :=
  match entry.event, entry.outcome with
  | .line _ text around, some (.answer (.town _)) =>
    match Request.ofLine text with
    | .ok (.configure settings) => some (settings.settled around.drawn)
    | _ => none
  | _, _ => none

/-- No episode begins where a frame is sent. -/
theorem configured?_of_frame {entry : Entry α} {f : Frame α} (h : entry.frame? = some f) :
    entry.configured? = none := by
  unfold frame? at h
  split at h
  next hentry => simp [configured?, hentry]
  next => simp at h

end Entry

/-! ## The latest episode -/

namespace History

/-- Items that are all taken leave those before them as they are. -/
theorem rtakeWhile_append_of_forall {β : Type} {p : β → Bool} {l later : List β}
    (h : ∀ y ∈ later, p y = true) : (l ++ later).rtakeWhile p = l.rtakeWhile p ++ later := by
  induction later using List.reverseRecOn with
  | nil => simp
  | append_singleton later y ih =>
    rw [← List.append_assoc, List.rtakeWhile_concat_pos _ _ _ (h y (by simp)),
      ih fun z hz => h z (by simp [hz]), List.append_assoc]

/-- The settings of the latest episode. -/
def settings? (log : List (Entry α)) : Option Settings :=
  (log.filterMap Entry.configured?).getLast?

/-- The entries since the latest episode began. -/
def since (log : List (Entry α)) : List (Entry α) :=
  log.rtakeWhile fun entry => entry.configured?.isNone

/-- Whether the latest episode is synchronous. -/
def isSynchronous (log : List (Entry α)) : Bool := (settings? log).any (·.synchronous)

/-- How often the clock of the latest episode has advanced: once a frame if the episode is
synchronous, else once a tick. -/
def clock (log : List (Entry α)) : Nat :=
  if isSynchronous log then (since log).countP (·.frame?.isSome) else (since log).countP (·.isTick)

section

variable {log later : List (Entry α)} {entry : Entry α} {settings : Settings}

/-- A new episode has the settings that it was configured with. -/
theorem settings?_concat_of_configured (h : entry.configured? = some settings) :
    settings? (log ++ [entry]) = some settings := by
  simp [settings?, List.filterMap_append, h]

/-- Nothing has happened yet since a new episode began. -/
theorem since_concat_of_configured (h : entry.configured? = some settings) :
    since (log ++ [entry]) = [] := by
  simp [since, h]

/-- The clock of a new episode has not advanced. -/
theorem clock_concat_of_configured (h : entry.configured? = some settings) :
    clock (log ++ [entry]) = 0 := by
  simp [clock, since_concat_of_configured h]

/-- The description of a town is the name of its map and the spots where a player may start. -/
theorem settings?_concat (h : entry.configured? = none) :
    settings? (log ++ [entry]) = settings? log := by
  simp [settings?, List.filterMap_append, h]

/-- What does not configure keeps the episode synchronous, or not. -/
theorem isSynchronous_concat (h : entry.configured? = none) :
    isSynchronous (log ++ [entry]) = isSynchronous log := by
  simp only [isSynchronous, settings?_concat h]

/-- What does not configure is one entry more since the episode began. -/
theorem since_concat (h : entry.configured? = none) :
    since (log ++ [entry]) = since log ++ [entry] := by
  simp [since, h]

/-- A frame advances the clock of a synchronous episode by one, and nothing else does. -/
theorem clock_concat_of_synchronous (h : entry.configured? = none) (hs : isSynchronous log = true) :
    clock (log ++ [entry]) = clock log + if entry.frame?.isSome then 1 else 0 := by
  simp [clock, isSynchronous_concat h, since_concat h, hs, List.countP_append]

/-- A tick advances the clock of an asynchronous episode by one, and nothing else does. -/
theorem clock_concat_of_asynchronous (h : entry.configured? = none)
    (hs : isSynchronous log = false) :
    clock (log ++ [entry]) = clock log + if entry.isTick then 1 else 0 := by
  simp [clock, isSynchronous_concat h, since_concat h, hs, List.countP_append]

/-- The clock stands still at an entry that is neither a frame nor a tick. -/
theorem clock_concat_of_rest (h : entry.configured? = none) (hframe : entry.frame? = none)
    (htick : entry.isTick = false) : clock (log ++ [entry]) = clock log := by
  cases hs : isSynchronous log with
  | true => simp [clock_concat_of_synchronous h hs, hframe]
  | false => simp [clock_concat_of_asynchronous h hs, htick]

/-- The clock advances at most once an entry. -/
theorem clock_le_length (log : List (Entry α)) : clock log ≤ log.length := by
  have hsince : (since log).length ≤ log.length := (List.rtakeWhile_suffix _ _).length_le
  unfold clock
  split
  · exact List.countP_le_length.trans hsince
  · exact List.countP_le_length.trans hsince

/-- There are no settings before the first episode begins. -/
theorem settings?_eq_none_iff : settings? log = none ↔ ∀ entry ∈ log, entry.configured? = none := by
  simp [settings?]

/-- As long as no other episode begins, the settings stay. -/
theorem settings?_append (h : ∀ entry ∈ later, entry.configured? = none) :
    settings? (log ++ later) = settings? log := by
  have hnone : later.filterMap Entry.configured? = [] := List.filterMap_eq_nil_iff.mpr h
  simp [settings?, List.filterMap_append, hnone]

/-- As long as no other episode begins, the entries add up. -/
theorem since_append (h : ∀ entry ∈ later, entry.configured? = none) :
    since (log ++ later) = since log ++ later :=
  rtakeWhile_append_of_forall fun entry hentry => by simp [h entry hentry]

/-- As long as no other episode begins, the clock does not go back. -/
theorem clock_le_append (log : List (Entry α)) {later : List (Entry α)}
    (h : ∀ entry ∈ later, entry.configured? = none) : clock log ≤ clock (log ++ later) := by
  induction later using List.reverseRecOn with
  | nil => simp
  | append_singleton later entry ih =>
    have hentry : entry.configured? = none := h entry (by simp)
    have hle : clock log ≤ clock (log ++ later) := ih fun y hy => h y (by simp [hy])
    rw [← List.append_assoc]
    cases hs : isSynchronous (log ++ later) with
    | true => rw [clock_concat_of_synchronous hentry hs]; omega
    | false => rw [clock_concat_of_asynchronous hentry hs]; omega

end

end History

/-! ## A viewer's own requests -/

/-- A request and what came of it. -/
structure Exchange (α : Type) where
  request : Request
  outcome : Outcome α
deriving Repr, DecidableEq

/-- The exchange with a viewer: a line of the viewer that can be read. -/
def Entry.exchange? (viewer : Nat) (entry : Entry α) : Option (Exchange α) :=
  match entry.event, entry.outcome with
  | .line who text _, some outcome =>
    if who = viewer then (Request.ofLine text).toOption.map (⟨·, outcome⟩) else none
  | _, _ => none

/-- An exchange is a line of the viewer that can be read. -/
theorem Entry.exchange?_eq_some_iff {viewer : Nat} {entry : Entry α} {x : Exchange α} :
    entry.exchange? viewer = some x ↔
      ∃ text around, Request.ofLine text = .ok x.request
        ∧ entry = ⟨.line viewer text around, some x.outcome⟩ := by
  obtain ⟨event, outcome⟩ := entry
  obtain ⟨request, result⟩ := x
  cases event with
  | tick => simp [exchange?]
  | line who text around =>
    cases outcome with
    | none => simp [exchange?]
    | some outcome =>
      -- Only a line of this viewer counts, and only if it can be read.
      by_cases hwho : who = viewer
      · cases hread : Request.ofLine text with
        | error report =>
          simp only [exchange?, hread, Except.toOption]
          constructor
          · simp
          · rintro ⟨_, _, hother, hentry⟩
            simp only [mk.injEq, Event.line.injEq] at hentry
            obtain ⟨⟨-, rfl, -⟩, -⟩ := hentry
            simp [hread] at hother
        | ok other =>
          simp only [exchange?, if_pos hwho, hread, Except.toOption, Option.map_some,
            Option.some.injEq, Exchange.mk.injEq, mk.injEq, Event.line.injEq]
          constructor
          · rintro ⟨rfl, rfl⟩
            exact ⟨text, around, hread, ⟨hwho, rfl, rfl⟩, rfl⟩
          · rintro ⟨_, _, hother, ⟨-, rfl, -⟩, rfl⟩
            exact ⟨Except.ok.inj (hread.symm.trans hother), rfl⟩
      · simp [exchange?, hwho]

/-- The exchanges with a viewer, in their order. -/
def History.exchanges (viewer : Nat) (log : List (Entry α)) : List (Exchange α) :=
  log.filterMap (·.exchange? viewer)

/-- The exchanges of a viewer are those in the front and those in the back. -/
theorem History.exchanges_append (viewer : Nat) (log later : List (Entry α)) :
    exchanges viewer (log ++ later) = exchanges viewer log ++ exchanges viewer later :=
  List.filterMap_append

/-! ## Two viewers of a town

A history small enough to be followed by hand. Each of two viewers asks for an episode; the first
viewer is sent frames of both. -/

/-- The town that is served by default, its places in binary numbers. -/
abbrev Town.served : Town Float32 := .standard

/-- Settings for some vehicles and pedestrians, with a seed for each. -/
def Settings.peopled (vehicles pedestrians : UInt32) : Settings :=
  { standard with vehicles, pedestrians, vehicleSeed := some 1, pedestrianSeed := some 2 }

/-- An episode whose clock goes by itself, with settings from which it begins in a town. -/
structure Staged [Scalar α] (town : Town α) where
  settings : Settings
  episode : Episode α
  seeded : settings.isSeeded
  asynchronous : settings.synchronous = false
  begins : Episode.begin town settings default = some episode

namespace Staged

variable [Scalar α] {town : Town α} (p : Staged town)

attribute [simp] asynchronous

/-- The settings give both seeds. -/
@[simp] theorem settled (drawn : Seeds) : p.settings.settled drawn = p.settings :=
  Settings.settled_of_isSeeded p.seeded drawn

/-- The episode begins whatever is drawn. -/
@[simp] theorem begin_eq (drawn : Seeds) :
    Episode.begin town p.settings drawn = some p.episode :=
  (Episode.begin_of_isSeeded p.seeded town drawn default).trans p.begins

/-- Viewers are told about the town. -/
@[simp] theorem description_episode : p.episode.description = town.description :=
  Episode.description_of_begin p.begins

/-- The clock has not advanced. -/
@[simp] theorem frameNumber_episode : p.episode.frameNumber = 0 :=
  (Episode.of_begin p.begins).2.1

/-- The episode of some vehicles and pedestrians, in a town where they can be drawn. -/
def ofPeopled (vehicles pedestrians : UInt32)
    (h : (Episode.begin town (.peopled vehicles pedestrians) default).isSome) : Staged town where
  settings := .peopled vehicles pedestrians
  episode := (Episode.begin town (.peopled vehicles pedestrians) default).get h
  seeded := rfl
  asynchronous := rfl
  begins := (Option.some_get h).symm

end Staged

/-- An episode in the served town, with a pedestrian alone. -/
def Staged.solo : Staged Town.served := .ofPeopled 0 1 (by decide +kernel)

/-- An episode in the served town, with a vehicle and a pedestrian. -/
def Staged.pair : Staged Town.served := .ofPeopled 1 1 (by decide +kernel)

/-- An episode in the served town, with two vehicles and a pedestrian. -/
def Staged.trio : Staged Town.served := .ofPeopled 2 1 (by decide +kernel)

namespace History

/-- A request of a viewer with its answer. -/
def answered (viewer : Nat) (request : Request) (response : Response α) : Entry α :=
  ⟨.line viewer request.line ⟨0, ⟨0, 0⟩⟩, some (.answer response)⟩

variable [Scalar α] {town : Town α} (p q : Staged town)

/-- The first viewer is sent the first frame of an episode. -/
def opened : List (Entry α) := [
  answered 0 (.configure p.settings) (.town town.description),
  answered 0 (.startEpisode 0) (.episodeReady true),
  answered 0 .readFrame (.frame (p.episode.frame 0))]

/-- Then the second viewer asks for an episode. -/
def reconfigured : List (Entry α) :=
  opened p ++ [answered 1 (.configure q.settings) (.town town.description)]

/-- Then both viewers are sent its first frame, and after a tick the next. -/
def sharing : List (Entry α) := [
  answered 1 (.startEpisode 0) (.episodeReady true),
  answered 1 .readFrame (.frame (q.episode.frame 0)),
  answered 0 (.startEpisode 0) (.episodeReady true),
  answered 0 .readFrame (.frame (q.episode.frame 0)),
  ⟨.tick, none⟩,
  answered 0 .readFrame (.frame ((q.episode.tick Simulator.step).frame 0)),
  answered 1 .readFrame (.frame ((q.episode.tick Simulator.step).frame 0))]

/-- All of it. -/
def shared : List (Entry α) := reconfigured p q ++ sharing q

/-- What is answered is what the log says, whatever the episodes. -/
theorem log_reconfigured (h : 0 < town.spotCount) :
    (Host.fresh town).log ((reconfigured p q).map Entry.event) = reconfigured p q := by
  simp [reconfigured, opened, answered, Host.step, Host.receive, route, Request.ofLine_line, serve,
    Host.fresh, Guarded.sound, Progress.start, Simulator.idle, Simulator.configure,
    Simulator.publish, Simulator.look, h]

/-- The same holds of all of it. -/
theorem log_shared (h : 0 < town.spotCount) :
    (Host.fresh town).log ((shared p q).map Entry.event) = shared p q := by
  simp [shared, sharing, reconfigured, opened, answered, Host.step, Host.receive, route,
    Request.ofLine_line, serve, Host.fresh, Host.tick, Guarded.sound, Progress.start,
    Simulator.idle, Simulator.configure, Simulator.publish, Simulator.look, Simulator.tick, h]

/-- The second episode begins with the second viewer's settings. -/
theorem configured?_reconfigure :
    (answered 1 (.configure q.settings) (.town town.description)).configured?
      = some q.settings := by
  simp [answered, Entry.configured?, Request.ofLine_line]

/-- So the settings are those of the second viewer, -/
theorem settings?_reconfigured : settings? (reconfigured p q) = some q.settings :=
  settings?_concat_of_configured (configured?_reconfigure q)

/-- Nothing happens after the second episode has begun. -/
theorem since_reconfigured : since (reconfigured p q) = [] :=
  since_concat_of_configured (configured?_reconfigure q)

/-- Nobody else asks for an episode. -/
theorem configured?_sharing : ∀ entry ∈ sharing q, entry.configured? = none := by
  simp [sharing, answered, Entry.configured?]

/-- Both viewers share an episode with the settings of the second one. -/
theorem settings?_shared : settings? (shared p q) = some q.settings :=
  (settings?_append (configured?_sharing q)).trans (settings?_reconfigured p q)

/-- The clock of the second episode advances with the ticks. -/
theorem clock_reconfigured_append {later : List (Entry α)}
    (h : ∀ entry ∈ later, entry.configured? = none) :
    clock (reconfigured p q ++ later) = later.countP (·.isTick) := by
  simp [clock, isSynchronous, settings?_append h, settings?_reconfigured, since_append h,
    since_reconfigured]

/-- It advances once. -/
theorem clock_shared : clock (shared p q) = 1 :=
  clock_reconfigured_append p q (configured?_sharing q)

/-- The first viewer's own requests before the second asks for an episode. -/
theorem exchanges_reconfigured : exchanges 0 (reconfigured p q) = [
    ⟨.configure p.settings, .answer (.town town.description)⟩,
    ⟨.startEpisode 0, .answer (.episodeReady true)⟩,
    ⟨.readFrame, .answer (.frame (p.episode.frame 0))⟩] := by
  simp [exchanges, reconfigured, opened, answered, Entry.exchange?, Request.ofLine_line,
    Except.toOption]

/-- All of the first viewer's own requests. -/
theorem exchanges_shared :
    exchanges 0 (shared p q) = exchanges 0 (reconfigured p q) ++ [
      ⟨.startEpisode 0, .answer (.episodeReady true)⟩,
      ⟨.readFrame, .answer (.frame (q.episode.frame 0))⟩,
      ⟨.readFrame, .answer (.frame ((q.episode.tick Simulator.step).frame 0))⟩] := by
  rw [shared, exchanges_append]
  simp [exchanges, sharing, answered, Entry.exchange?, Request.ofLine_line, Except.toOption]

end History

end TownTraffic
