import TownTraffic.Proofs.History
import Mathlib.Algebra.Ring.Nat
import Mathlib.Logic.Function.Iterate

/-!
# Frames replay an episode

All viewers look at one simulator, which any of them can configure anew. Still every frame is that
of an episode played alone: begun with the settings of the latest configuration, and advanced as
often as the log says.

* **`Episode.played`** — an episode after some steps of the clock.
* **`Simulator.Plays`** — what a simulator plays, in terms of a log; **`plays_log`** every simulator
  that is not spoiled plays what its log says.
* **`exists_episode_of_frames`** — frames between which no episode begins are of one episode.
* **`exists_played_of_frame`** — every frame is that of an episode played alone.
-/

namespace TownTraffic

open History

variable {α : Type}

/-! ## Episodes played alone -/

namespace Episode

variable [Scalar α]

/-- The episode after the simulator's clock has made a number of steps. -/
def played (e : Episode α) (steps : Nat) : Episode α := (tick · Simulator.step)^[steps] e

/-- An episode that has not advanced is as it was. -/
@[simp] theorem played_zero (e : Episode α) : e.played 0 = e := rfl

/-- An episode advances by one tick after the other. -/
theorem played_succ (e : Episode α) (steps : Nat) :
    e.played (steps + 1) = (e.played steps).tick Simulator.step :=
  Function.iterate_succ_apply' _ _ _

/-- The clock of the simulator ticks evenly. -/
theorem played_eq_after (e : Episode α) (steps : Nat) :
    e.played steps = e.after (List.replicate steps Simulator.step) := by
  induction steps generalizing e with
  | zero => rfl
  | succ steps ih => exact ih (e.tick Simulator.step)

/-- An episode stays in its town. -/
@[simp] theorem town_played (e : Episode α) (steps : Nat) : (e.played steps).town = e.town := by
  rw [played_eq_after, town_after]

/-- An episode goes on reporting agents, or not. -/
@[simp] theorem reportsAgents_played (e : Episode α) (steps : Nat) :
    (e.played steps).reportsAgents = e.reportsAgents := by
  rw [played_eq_after, reportsAgents_after]

/-- There are as many vehicles as at the start. -/
@[simp] theorem length_vehicles_played (e : Episode α) (steps : Nat) :
    (e.played steps).vehicles.length = e.vehicles.length := by
  rw [played_eq_after, vehicles_after, List.length_map]

/-- There are as many pedestrians as at the start. -/
@[simp] theorem length_pedestrians_played (e : Episode α) (steps : Nat) :
    (e.played steps).pedestrians.length = e.pedestrians.length := by
  rw [played_eq_after, pedestrians_after, List.length_map]

/-- Steps of the clock add up. -/
theorem played_played (e : Episode α) (steps more : Nat) :
    (e.played steps).played more = e.played (more + steps) :=
  (Function.iterate_add_apply _ more steps e).symm

/-- An episode remains in order as its clock goes on. -/
theorem InOrder.played {e : Episode α} (h : e.InOrder) (steps : Nat) :
    (e.played steps).InOrder := played_eq_after e steps ▸ h.after _

/-- Frames are numbered by the steps of the clock. -/
theorem frameNumber_played (e : Episode α) (steps : Nat) :
    (e.played steps).frameNumber = e.frameNumber + UInt64.ofNat steps := by
  induction steps with
  | zero => simp
  | succ steps ih =>
    rw [played_succ, UInt64.ofNat_add, ← UInt64.add_assoc, ← ih]
    rfl

/-- Every step of the clock takes 32 milliseconds. -/
theorem gameTime_played (e : Episode α) (steps : Nat) :
    (e.played steps).gameTime = e.gameTime + UInt64.ofNat (32 * steps) := by
  induction steps with
  | zero => simp
  | succ steps ih =>
    rw [played_succ, Nat.mul_succ, UInt64.ofNat_add, ← UInt64.add_assoc, ← ih]
    simp [tick, Simulator.step]

variable {town : Town α} {settings : Settings} {drawn : Seeds} {e : Episode α}

/-- Every later frame of a new episode that reports its agents reports all of them. -/
theorem length_agents_played (h : begin town settings drawn = some e)
    (reports : settings.reportsAgents = true) (steps : Nat) (now : Int64) :
    ((e.played steps).frame now).agents.length
      = settings.vehicles.toNat + settings.pedestrians.toNat + 5 := by
  rw [length_agents_frame ((inOrder_of_begin h).played steps) (by simpa [(drawn_of_begin h).2.2]),
    length_vehicles_played, length_pedestrians_played, length_vehicles_of_begin h,
    length_pedestrians_of_begin h]

/-- As long as it fits, the number of a new episode's frame is exact. -/
theorem toNat_number_played (h : begin town settings drawn = some e) {steps : Nat}
    (hsteps : steps < 2 ^ 59) (now : Int64) :
    ((e.played steps).frame now).number.toNat = steps := by
  obtain ⟨-, hnumber, -⟩ := of_begin h
  rw [number_frame, frameNumber_played, hnumber, UInt64.zero_add, UInt64.toNat_ofNat']
  omega

/-- As long as it fits, the time of a new episode's frame is exact. -/
theorem toNat_gameTime_played (h : begin town settings drawn = some e) {steps : Nat}
    (hsteps : steps < 2 ^ 59) (now : Int64) :
    ((e.played steps).frame now).gameTime.toNat = 32 * steps := by
  obtain ⟨-, -, htime⟩ := of_begin h
  rw [gameTime_frame, gameTime_played, htime, UInt64.zero_add, UInt64.toNat_ofNat']
  omega

end Episode

/-! ## What a simulator plays -/

namespace Simulator

variable [Scalar α]

/-- **What a simulator plays after a log.** Before the first configuration nothing; from then on the
episode of the latest one, advanced as often as the log says. -/
structure Plays (s : Simulator α) (town : Town α) (log : List (Entry α)) : Prop where
  town_eq : s.town = town
  synchronous_eq : s.synchronous = isSynchronous log
  idle : settings? log = none → s.episode = none
  playing : ∀ settings, settings? log = some settings →
    ∃ e, (∀ drawn, Episode.begin town settings drawn = some e)
      ∧ s.episode = some (e.played (clock log))

namespace Plays

variable {s : Simulator α} {town : Town α} {log : List (Entry α)} {entry : Entry α}
  {e : Episode α}

/-- An episode that is played has begun with the settings of the latest configuration. -/
theorem exists_begin (hp : s.Plays town log) (he : s.episode = some e) :
    ∃ settings e₀, settings? log = some settings
      ∧ (∀ drawn, Episode.begin town settings drawn = some e₀) ∧ e = e₀.played (clock log) := by
  cases hsettings : settings? log with
  | none => simp [hp.idle hsettings] at he
  | some settings =>
    obtain ⟨e₀, hbegin, heq⟩ := hp.playing settings hsettings
    exact ⟨settings, e₀, rfl, hbegin, Option.some.inj (he.symm.trans heq)⟩

/-- The present frame is numbered by the steps of the clock, as far as numbers go. -/
theorem frameNumber_eq (hp : s.Plays town log) (he : s.episode = some e) :
    e.frameNumber = .ofNat (clock log) := by
  obtain ⟨settings, e₀, -, hbegin, rfl⟩ := hp.exists_begin he
  rw [Episode.frameNumber_played, (Episode.of_begin (hbegin default)).2.1, UInt64.zero_add]

/-- An entry at which the clock stands still leaves the simulator as it is. -/
theorem stay (hp : s.Plays town log) (hconf : entry.configured? = none)
    (hclock : s.episode ≠ none → clock (log ++ [entry]) = clock log) :
    s.Plays town (log ++ [entry]) where
  town_eq := hp.town_eq
  synchronous_eq := by rw [isSynchronous_concat hconf, hp.synchronous_eq]
  idle := by rw [settings?_concat hconf]; exact hp.idle
  playing := by
    intro settings hsettings
    rw [settings?_concat hconf] at hsettings
    obtain ⟨e, hbegin, he⟩ := hp.playing settings hsettings
    exact ⟨e, hbegin, by rw [hclock (by simp [he]), he]⟩

/-- An entry at which the clock advances makes the episode advance. -/
theorem advance (hp : s.Plays town log) (he : s.episode = some e) (hconf : entry.configured? = none)
    (hclock : clock (log ++ [entry]) = clock log + 1) :
    (s.publish (e.tick step)).Plays town (log ++ [entry]) where
  town_eq := hp.town_eq
  synchronous_eq := by rw [isSynchronous_concat hconf]; exact hp.synchronous_eq
  idle := by
    intro hsettings
    rw [settings?_concat hconf] at hsettings
    simp [hp.idle hsettings] at he
  playing := by
    intro settings hsettings
    rw [settings?_concat hconf] at hsettings
    obtain ⟨e₀, hbegin, he₀⟩ := hp.playing settings hsettings
    obtain rfl := Option.some.inj (he.symm.trans he₀)
    exact ⟨e₀, hbegin, by rw [hclock, Episode.played_succ]; rfl⟩

/-- A configuration makes its own episode begin. -/
theorem configure (hp : s.Plays town log) {settings : Settings} {drawn : Seeds}
    (hconf : entry.configured? = some (settings.settled drawn))
    (hbegin : Episode.begin s.town (settings.settled drawn) drawn = some e) :
    (s.play (settings.settled drawn) e).Plays town (log ++ [entry]) where
  town_eq := hp.town_eq
  synchronous_eq := by simp [isSynchronous, settings?_concat_of_configured hconf, play]
  idle := by simp [settings?_concat_of_configured hconf]
  playing := by
    intro other hother
    rw [settings?_concat_of_configured hconf] at hother
    obtain rfl := Option.some.inj hother
    refine ⟨e, ?_, ?_⟩
    -- The settings give both seeds, so it does not matter what else is drawn.
    · intro spare
      rw [← hp.town_eq, ← hbegin]
      exact Episode.begin_of_isSeeded (Settings.isSeeded_settled _ _) _ _ _
    · rw [clock_concat_of_configured hconf, Episode.played_zero]
      rfl

/-- A tick of the clock keeps a simulator to its log. -/
theorem tick (hp : s.Plays town log) : s.tick.Plays town (log ++ [⟨.tick, none⟩]) := by
  cases he : s.episode with
  | none =>
    rw [tick_of_idle he]
    exact hp.stay rfl (absurd he)
  | some e =>
    cases hs : s.synchronous with
    | true =>
      rw [tick_of_synchronous hs]
      exact hp.stay rfl fun _ =>
        clock_concat_of_synchronous rfl (hp.synchronous_eq.symm.trans hs)
    | false =>
      rw [tick_of_asynchronous he hs]
      exact hp.advance he rfl
        (clock_concat_of_asynchronous rfl (hp.synchronous_eq.symm.trans hs))

/-- A service keeps a simulator to its log. -/
theorem serve (hp : s.Plays town log) {viewer : Nat} {text : String} {around : Surroundings}
    {request : Request} {outcome : Outcome α} {p p' : Progress} {s' : Simulator α}
    (read : Request.ofLine text = .ok request)
    (serves : Served around p s request outcome p' s') :
    s'.Plays town (log ++ [⟨.line viewer text around, some outcome⟩]) := by
  -- Three services touch the simulator or send a frame; at all others the clock stands still.
  cases serves with
  | configured hbegin => exact hp.configure (by simp [Entry.configured?, read]) hbegin
  | advanced hstage he hs =>
    exact hp.advance he rfl (clock_concat_of_synchronous rfl (hp.synchronous_eq.symm.trans hs))
  | shown hstage he hs =>
    exact hp.stay rfl fun _ =>
      clock_concat_of_asynchronous rfl (hp.synchronous_eq.symm.trans hs)
  | ping => exact hp.stay rfl fun _ => clock_concat_of_rest rfl rfl rfl
  | brokenOff => exact hp.stay rfl fun _ => clock_concat_of_rest rfl rfl rfl
  | startedEarly => exact hp.stay rfl fun _ => clock_concat_of_rest rfl rfl rfl
  | started => exact hp.stay rfl fun _ => clock_concat_of_rest rfl rfl rfl
  | notStarted => exact hp.stay rfl fun _ => clock_concat_of_rest rfl rfl rfl
  | readEarly => exact hp.stay rfl fun _ => clock_concat_of_rest rfl rfl rfl
  | unplayed => exact hp.stay rfl fun _ => clock_concat_of_rest rfl rfl rfl
  | waiting => exact hp.stay rfl fun _ => clock_concat_of_rest rfl rfl rfl

end Plays

end Simulator

variable [Scalar α]

/-- A move from which the simulator comes out sound keeps it to its log. -/
theorem Host.Move.plays {h h' : Host α} {town : Town α} {log : List (Entry α)} {entry : Entry α}
    (move : h.Move entry h')
    (hp : h.simulator.spoiled = false → h.simulator.value.Plays town log)
    (sound : h'.simulator.spoiled = false) : h'.simulator.value.Plays town (log ++ [entry]) := by
  cases move with
  | tick before => exact (hp before).tick
  | still spoiled => simp [spoiled] at sound
  | unreadable => exact (hp sound).stay rfl fun _ => clock_concat_of_rest rfl rfl rfl
  | refused => exact (hp sound).stay rfl fun _ => clock_concat_of_rest rfl rfl rfl
  | served read before kept serves =>
    rw [Bool.or_eq_false_iff] at before
    exact (hp before.2).serve read serves
  | brokenOff => simp at sound

/-- **A simulator that is not spoiled plays what its log says.** -/
theorem plays_log {town : Town α} (events : List Event)
    (sound : ((Host.fresh town).after events).simulator.spoiled = false) :
    ((Host.fresh town).after events).simulator.value.Plays town
      ((Host.fresh town).log events) := by
  refine Host.log_induction town
    (motive := fun log h => h.simulator.spoiled = false → h.simulator.value.Plays town log)
    ?fresh ?move events sound
  case fresh => exact fun _ => ⟨rfl, rfl, fun _ => rfl, by simp [settings?]⟩
  case move => exact fun hp move => move.plays hp

/-! ## What viewers are sent -/

/-- A frame is that of the episode the simulator plays when it is sent. -/
theorem Host.Move.frame_eq {h h' : Host α} {town : Town α} {log : List (Entry α)} {entry : Entry α}
    {f : Frame α} (move : h.Move entry h')
    (hp : h.simulator.spoiled = false → h.simulator.value.Plays town log)
    (hframe : entry.frame? = some f) :
    ∃ settings e, settings? log = some settings
      ∧ (∀ drawn, Episode.begin town settings drawn = some e)
      ∧ f = (e.played (clock (log ++ [entry]))).frame f.reportedAt := by
  -- A frame comes of a request that is served, and of no other event.
  cases move with
  | tick => simp [Entry.frame?] at hframe
  | still => simp [Entry.frame?] at hframe
  | unreadable => simp [Entry.frame?, TownTraffic.unreadable] at hframe
  | refused => simp [Entry.frame?] at hframe
  | brokenOff => simp [Entry.frame?] at hframe
  | served read sound kept serves =>
    rw [Bool.or_eq_false_iff] at sound
    have plays := hp sound.2
    cases serves with
    | advanced hstage he hs =>
      obtain rfl := Option.some.inj hframe
      obtain ⟨settings, e, hsettings, hbegin, rfl⟩ := plays.exists_begin he
      refine ⟨settings, e, hsettings, hbegin, ?_⟩
      rw [clock_concat_of_synchronous rfl (plays.synchronous_eq.symm.trans hs)]
      exact congrArg (Episode.frame · _) (Episode.played_succ e _).symm
    | shown hstage he hs =>
      obtain rfl := Option.some.inj hframe
      obtain ⟨settings, e, hsettings, hbegin, rfl⟩ := plays.exists_begin he
      refine ⟨settings, e, hsettings, hbegin, ?_⟩
      rw [clock_concat_of_asynchronous rfl (plays.synchronous_eq.symm.trans hs)]
      rfl
    | _ => simp [Entry.frame?] at hframe

/-- Every frame in a log is that of an episode played alone. -/
theorem frame_eq_of_log_eq {town : Town α} {events : List Event} {before later : List (Entry α)}
    {entry : Entry α} {f : Frame α}
    (hlog : (Host.fresh town).log events = before ++ entry :: later)
    (hframe : entry.frame? = some f) :
    ∃ settings e, settings? before = some settings
      ∧ (∀ drawn, Episode.begin town settings drawn = some e)
      ∧ f = (e.played (clock (before ++ [entry]))).frame f.reportedAt := by
  obtain ⟨earlier, rfl, -, move⟩ := Host.move_of_log_eq hlog
  exact move.frame_eq (plays_log earlier) hframe

/-- A frame is numbered by the steps of the clock, as far as numbers go. -/
theorem number_eq_of_log_eq {town : Town α} {events : List Event} {before later : List (Entry α)}
    {entry : Entry α} {f : Frame α}
    (hlog : (Host.fresh town).log events = before ++ entry :: later)
    (hframe : entry.frame? = some f) : f.number = .ofNat (clock (before ++ [entry])) := by
  obtain ⟨settings, e, -, hbegin, hf⟩ := frame_eq_of_log_eq hlog hframe
  rw [hf, Episode.number_frame, Episode.frameNumber_played,
    (Episode.of_begin (hbegin default)).2.1, UInt64.zero_add]

/-- Two frames between which no episode begins are frames of one episode, the second no earlier than
the first. -/
theorem exists_episode_of_frames {town : Town α} {events : List Event}
    {before between later : List (Entry α)} {entry other : Entry α} {f g : Frame α}
    (hlog : (Host.fresh town).log events = before ++ entry :: (between ++ other :: later))
    (hf : entry.frame? = some f) (hg : other.frame? = some g)
    (hconf : ∀ y ∈ between, y.configured? = none) :
    ∃ settings e, (∀ drawn, Episode.begin town settings drawn = some e)
      ∧ f = (e.played (clock (before ++ [entry]))).frame f.reportedAt
      ∧ g = (e.played (clock (before ++ entry :: between ++ [other]))).frame g.reportedAt
      ∧ clock (before ++ [entry]) ≤ clock (before ++ entry :: between ++ [other]) := by
  have hlog' : (Host.fresh town).log events = (before ++ entry :: between) ++ other :: later := by
    rw [hlog, List.append_assoc, List.cons_append]
  have hfirst : ∀ y ∈ entry :: between, y.configured? = none :=
    List.forall_mem_cons.mpr ⟨Entry.configured?_of_frame hf, hconf⟩
  have hlast : ∀ y ∈ between ++ [other], y.configured? = none :=
    List.forall_mem_append.mpr
      ⟨hconf, List.forall_mem_singleton.mpr (Entry.configured?_of_frame hg)⟩
  obtain ⟨settings, e, hsettings, hbegin, hf'⟩ := frame_eq_of_log_eq hlog hf
  obtain ⟨settings', e', hsettings', hbegin', hg'⟩ := frame_eq_of_log_eq hlog' hg
  -- The settings are the same, and with both seeds given an episode begins in one way only.
  rw [settings?_append hfirst, hsettings] at hsettings'
  obtain rfl := Option.some.inj hsettings'
  obtain rfl := Option.some.inj ((hbegin default).symm.trans (hbegin' default))
  refine ⟨settings, e, hbegin, hf', hg', ?_⟩
  simpa using clock_le_append (before ++ [entry]) hlast

/-- Frames of one episode with the same number report the same agents. -/
theorem agents_eq_of_frames {town : Town α} {events : List Event}
    {before between later : List (Entry α)} {entry other : Entry α} {f g : Frame α}
    (hlog : (Host.fresh town).log events = before ++ entry :: (between ++ other :: later))
    (hf : entry.frame? = some f) (hg : other.frame? = some g)
    (hconf : ∀ y ∈ between, y.configured? = none)
    (hclock : clock (before ++ entry :: between ++ [other]) < 2 ^ 59)
    (hnumber : g.number = f.number) : g.agents = f.agents := by
  obtain ⟨settings, e, hbegin, hf', hg', hle⟩ := exists_episode_of_frames hlog hf hg hconf
  have hsteps : clock (before ++ entry :: between ++ [other]) = clock (before ++ [entry]) := by
    have h := congrArg UInt64.toNat hnumber
    rw [hf', hg'] at h
    rwa [Episode.toNat_number_played (hbegin default) hclock,
      Episode.toNat_number_played (hbegin default) (by omega)] at h
  rw [hg', hf', hsteps]
  rfl

/-- **Every frame is that of an episode played alone.** Whoever is sent a frame, the settings are
those of the latest configuration by anybody, with the seeds filled in; the clock has advanced once
for every tick since then if they are asynchronous, and once for every frame since then, this one
included, if they are synchronous. So the frame is numbered by the steps of the clock, its time is
32 milliseconds a step, and another frame with the same number, sent before the next configuration,
reports the same agents. -/
theorem exists_played_of_frame {town : Town α} {events : List Event}
    {before later : List (Entry α)} {entry : Entry α} {f : Frame α}
    (hlog : (Host.fresh town).log events = before ++ entry :: later)
    (hframe : entry.frame? = some f) :
    ∃ settings e, settings? before = some settings
      ∧ (∀ drawn, Episode.begin town settings drawn = some e)
      ∧ f = (e.played (clock (before ++ [entry]))).frame f.reportedAt
      ∧ (clock (before ++ [entry]) < 2 ^ 59 →
        f.number.toNat = clock (before ++ [entry])
          ∧ f.gameTime.toNat = 32 * clock (before ++ [entry]))
      ∧ ∀ between rest other g, later = between ++ other :: rest → other.frame? = some g →
        (∀ y ∈ between, y.configured? = none) →
        clock (before ++ entry :: between ++ [other]) < 2 ^ 59 →
        g.number = f.number → g.agents = f.agents := by
  obtain ⟨settings, e, hsettings, hbegin, hf⟩ := frame_eq_of_log_eq hlog hframe
  refine ⟨settings, e, hsettings, hbegin, hf, ?numbers, ?agents⟩
  case numbers =>
    intro hclock
    rw [hf]
    exact ⟨Episode.toNat_number_played (hbegin default) hclock _,
      Episode.toNat_gameTime_played (hbegin default) hclock _⟩
  case agents =>
    rintro between rest other g rfl hg hconf hclock hnumber
    exact agents_eq_of_frames hlog hframe hg hconf hclock hnumber

/-- Both viewers of a town are sent the second frame of the second viewer's episode, with the same
two vehicles and the pedestrian. -/
theorem exists_played_of_frame_shared :
    ∃ before later entry other f g,
      (Host.fresh Town.served).log ((shared .pair .trio).map Entry.event)
          = before ++ entry :: (other :: later)
        ∧ entry.frame? = some f ∧ other.frame? = some g
        ∧ ∃ e, settings? before = some (.peopled 2 1)
          ∧ (∀ drawn, Episode.begin Town.served (.peopled 2 1) drawn = some e)
          ∧ f = (e.played (clock (before ++ [entry]))).frame f.reportedAt
          ∧ f.number.toNat = 1 ∧ f.gameTime.toNat = 32
          ∧ g.agents = f.agents ∧ f.agents.length = 8 := by
  have hlog : (Host.fresh Town.served).log ((shared .pair .trio).map Entry.event)
      = (reconfigured .pair .trio ++ (sharing .trio).take 5)
        ++ answered 0 .readFrame (.frame ((Staged.trio.episode.tick Simulator.step).frame 0))
          :: (answered 1 .readFrame (.frame ((Staged.trio.episode.tick Simulator.step).frame 0))
            :: []) :=
    log_shared .pair .trio (by decide)
  have hnone : ∀ entry ∈ (sharing .trio).take 5, entry.configured? = none :=
    fun entry hentry => configured?_sharing .trio entry (List.mem_of_mem_take hentry)
  have htrio := (settings?_append hnone).trans (settings?_reconfigured .pair .trio)
  have hclock : clock ((reconfigured .pair .trio ++ (sharing .trio).take 5)
      ++ [answered 0 .readFrame (.frame ((Staged.trio.episode.tick Simulator.step).frame 0))])
        = 1 := by
    rw [List.append_assoc]
    exact clock_reconfigured_append .pair .trio (List.forall_mem_append.mpr ⟨hnone, by simp
      [answered, Entry.configured?]⟩)
  obtain ⟨settings, e, hsettings, hbegin, hf, hnumbers, hagents⟩ :=
    exists_played_of_frame hlog rfl
  obtain rfl := Option.some.inj (hsettings.symm.trans htrio)
  rw [hclock] at hnumbers
  obtain ⟨hnumber, htime⟩ := hnumbers (by decide)
  refine ⟨_, _, _, _, _, _, hlog, rfl, rfl, e, htrio, hbegin, hf, hnumber, htime, ?_, ?_⟩
  · exact hagents [] [] _ _ rfl rfl (by simp) ((clock_le_length _).trans_lt (by
      simp [reconfigured, opened, sharing])) rfl
  · rw [hf, Episode.length_agents_played (hbegin default) rfl]
    rfl

end TownTraffic
