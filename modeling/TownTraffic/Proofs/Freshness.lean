import TownTraffic.Proofs.Sessions

/-!
# Waiting for frames

A viewer that asks for the frame it has is made to wait. The simulator compares frame numbers, which
start anew with every episode: within one episode this keeps frames from being sent twice, but the
present frame of a new episode can have the number of an old episode's frame.

* **`Entry.sentTo?`** — the frame that a viewer was sent.
* **`number_lt_of_frames`** — within an episode, a viewer's frames go forward.
* **`History.Holds`** — whether a viewer has been sent a frame of the present episode;
  **`holds_iff_of_wait`** when a viewer that is made to wait has been sent the present frame.
-/

namespace TownTraffic

open History

variable {α : Type}

/-! ## Frames sent to a viewer -/

/-- The frame that the viewer was sent. -/
def Entry.sentTo? (viewer : Nat) (entry : Entry α) : Option (Frame α) :=
  (entry.exchange? viewer).bind Exchange.frame?

/-- A frame sent to a viewer comes of a line of the viewer. -/
theorem Entry.sentTo?_eq_some {viewer : Nat} {entry : Entry α} {f : Frame α}
    (h : entry.sentTo? viewer = some f) :
    ∃ text around, entry = ⟨.line viewer text around, some (.answer (.frame f))⟩ := by
  obtain ⟨x, hx, hframe⟩ := Option.bind_eq_some_iff.mp h
  obtain ⟨text, around, -, rfl⟩ := Entry.exchange?_eq_some_iff.mp hx
  unfold Exchange.frame? at hframe
  split at hframe
  next houtcome =>
    obtain rfl := Option.some.inj hframe
    exact ⟨text, around, by rw [houtcome]⟩
  next => simp at hframe

/-- A frame sent to somebody is a frame. -/
theorem Entry.frame?_of_sentTo {viewer : Nat} {entry : Entry α} {f : Frame α}
    (h : entry.sentTo? viewer = some f) : entry.frame? = some f := by
  obtain ⟨text, around, rfl⟩ := Entry.sentTo?_eq_some h
  rfl

/-- A frame that is answered to a viewer is sent to it. -/
theorem sentTo?_answered (viewer : Nat) (f : Frame α) :
    (answered viewer .readFrame (.frame f)).sentTo? viewer = some f := by
  simp [Entry.sentTo?, Entry.exchange?, answered, Request.ofLine_line, Except.toOption,
    Exchange.frame?]

/-- Nobody is put on a spot where a frame is sent. -/
theorem Exchange.started?_of_sentTo {viewer : Nat} {entry : Entry α} {f : Frame α} {x : Exchange α}
    (h : entry.sentTo? viewer = some f) (hx : entry.exchange? viewer = some x) :
    x.started? = none := by
  obtain ⟨y, hy, hframe⟩ := Option.bind_eq_some_iff.mp h
  obtain rfl := Option.some.inj (hx.symm.trans hy)
  unfold started?
  split
  next houtcome => simp [frame?, houtcome] at hframe
  next => rfl

namespace History

/-- The frames among a viewer's exchanges are those that the viewer was sent. -/
theorem filterMap_frame?_exchanges (viewer : Nat) (log : List (Entry α)) :
    (exchanges viewer log).filterMap Exchange.frame? = log.filterMap (·.sentTo? viewer) :=
  List.filterMap_filterMap

/-- What is last among the values of a list is the value of an item behind which there are none. -/
theorem exists_append_of_getLast? {β γ : Type} {g : β → Option γ} {l : List β} {c : γ}
    (h : (l.filterMap g).getLast? = some c) :
    ∃ before y later, l = before ++ y :: later ∧ g y = some c ∧ ∀ z ∈ later, g z = none := by
  rw [List.getLast?_filterMap, List.findSome?_eq_some_iff] at h
  obtain ⟨later, y, before, hl, hy, hlater⟩ := h
  refine ⟨before.reverse, y, later.reverse, ?_, hy, by simpa using hlater⟩
  simpa using congrArg List.reverse hl

/-- After a frame that a viewer was sent, there is a last one. -/
theorem exists_last_sent {viewer : Nat} {entry : Entry α} {f : Frame α}
    (h : entry.sentTo? viewer = some f) (log : List (Entry α)) :
    ∃ before y later g, entry :: log = before ++ y :: later ∧ y.sentTo? viewer = some g
      ∧ ∀ z ∈ later, z.sentTo? viewer = none := by
  have hlast : ((entry :: log).filterMap (·.sentTo? viewer)).getLast?
      = some (((log.filterMap (·.sentTo? viewer)).getLast?).getD f) := by
    rw [List.filterMap_cons_some h, List.getLast?_cons]
  obtain ⟨before, y, later, hlog, hy, hlater⟩ := exists_append_of_getLast? hlast
  exact ⟨before, y, later, _, hlog, hy, hlater⟩

/-- Items behind the last that is not taken are those that are. -/
theorem rtakeWhile_append_cons {β : Type} {p : β → Bool} {l later : List β} {y : β}
    (hy : p y = false) (h : ∀ z ∈ later, p z = true) :
    (l ++ y :: later).rtakeWhile p = later := by
  rw [List.append_cons, rtakeWhile_append_of_forall h,
    List.rtakeWhile_concat_neg _ _ _ (by simp [hy]), List.nil_append]

end History

/-! ## The frame a viewer counts as having -/

namespace Progress

variable {viewer : Nat}

/-- The frame a viewer counts as having is the last that it was sent. -/
theorem exists_sent_of_lastFrame {log : List (Entry α)} {number : UInt64}
    (h : (ofExchanges (exchanges viewer log)).lastFrame = some number) :
    ∃ before entry later f, log = before ++ entry :: later ∧ entry.sentTo? viewer = some f
      ∧ f.number = number ∧ ∀ y ∈ later, y.sentTo? viewer = none := by
  obtain ⟨f, hf, rfl⟩ := Option.map_eq_some_iff.mp h
  -- What is last since the start is last of all, as the start only cuts earlier frames off.
  have hlast : (log.filterMap (·.sentTo? viewer)).getLast? = some f := by
    obtain ⟨before, hbefore⟩ := List.rtakeWhile_suffix
      (fun x : Exchange α => !x.isConfigure && x.started?.isNone) (exchanges viewer log)
    rw [← filterMap_frame?_exchanges, ← hbefore, List.filterMap_append, List.getLast?_append]
    simp only [sinceStart] at hf
    rw [hf, Option.some_or]
  obtain ⟨before, entry, later, hlog, hentry, hlater⟩ := exists_append_of_getLast? hlast
  exact ⟨before, entry, later, f, hlog, hentry, rfl, hlater⟩

/-- A viewer counts as having the last frame that it was sent, as long as it has neither asked for
an episode nor been put on a spot since. -/
theorem lastFrame_eq {before later : List (Entry α)} {entry : Entry α} {f : Frame α}
    (hentry : entry.sentTo? viewer = some f) (hlater : ∀ y ∈ later, y.sentTo? viewer = none)
    (hstart : ∀ y ∈ entry :: later, ∀ x, y.exchange? viewer = some x →
      x.isConfigure = false ∧ x.started? = none) :
    (ofExchanges (exchanges viewer (before ++ entry :: later))).lastFrame = some f.number := by
  have hsince : sinceStart (exchanges viewer (before ++ entry :: later))
      = sinceStart (exchanges viewer before) ++ exchanges viewer (entry :: later) := by
    rw [exchanges_append, sinceStart, rtakeWhile_append_of_forall]
    · rfl
    · intro x hx
      obtain ⟨y, hy, hyx⟩ := List.mem_filterMap.mp hx
      simp [hstart y hy x hyx]
  have hnone : later.filterMap (·.sentTo? viewer) = [] := List.filterMap_eq_nil_iff.mpr hlater
  simp only [ofExchanges, hsince, List.filterMap_append, filterMap_frame?_exchanges,
    List.filterMap_cons_some hentry, hnone, List.getLast?_append, List.getLast?_singleton,
    Option.some_or, Option.map_some]

end Progress

namespace History

/-- The viewer has been sent the frame with a number since the latest episode began. -/
def Holds (viewer : Nat) (log : List (Entry α)) (number : UInt64) : Prop :=
  ∃ entry ∈ since log, ∃ f, entry.sentTo? viewer = some f ∧ f.number = number

/-- The entries since the viewer was last sent a frame. -/
def sinceFrame (viewer : Nat) (log : List (Entry α)) : List (Entry α) :=
  log.rtakeWhile fun entry => (entry.sentTo? viewer).isNone

/-- A viewer holds the frame it counts as having as long as no episode has begun since. -/
theorem holds_iff_of_lastFrame {viewer : Nat} {log : List (Entry α)} {number : UInt64}
    (h : (Progress.ofExchanges (exchanges viewer log)).lastFrame = some number) :
    Holds viewer log number ↔ ∀ y ∈ sinceFrame viewer log, y.configured? = none := by
  obtain ⟨before, entry, later, f, rfl, hentry, hnumber, hlater⟩ :=
    Progress.exists_sent_of_lastFrame h
  have hsince : sinceFrame viewer (before ++ entry :: later) = later :=
    rtakeWhile_append_cons (by simp [hentry]) fun y hy => by simp [hlater y hy]
  rw [hsince]
  constructor
  · rintro ⟨y, hy, g, hg, -⟩
    -- `y` stands before `later`, so the entries since the episode began include `later`.
    have hsuffix : later <:+ since (before ++ entry :: later) := by
      obtain hshort | hlong := List.suffix_or_suffix_of_suffix
        (List.rtakeWhile_suffix _ _ : since (before ++ entry :: later) <:+ _)
        (⟨before ++ [entry], by simp⟩ : later <:+ before ++ entry :: later)
      · simp [hlater y (hshort.mem hy)] at hg
      · exact hlong
    intro z hz
    simpa using List.mem_rtakeWhile_imp (hsuffix.mem hz)
  · intro hnone
    have hconf : entry.configured? = none :=
      Entry.configured?_of_frame (Entry.frame?_of_sentTo hentry)
    refine ⟨entry, ?_, f, hentry, hnumber⟩
    rw [since_append (List.forall_mem_cons.mpr ⟨hconf, hnone⟩)]
    simp

end History

/-! ## Frames go forward -/

variable [Scalar α]

/-- A frame is sent at a sound host only. -/
theorem Host.Move.sound_of_frame {h h' : Host α} {entry : Entry α} {f : Frame α}
    (move : h.Move entry h') (hframe : entry.frame? = some f) : h.simulator.spoiled = false := by
  cases move with
  | served _ sound => exact (Bool.or_eq_false_iff.mp sound).2
  | unreadable => simp [Entry.frame?, TownTraffic.unreadable] at hframe
  | _ => simp [Entry.frame?] at hframe

/-- Whenever a viewer is sent a frame, either the clock advances or the frame's number is not that
of the frame the viewer counts as having. -/
theorem Host.Move.clock_of_sentTo {h h' : Host α} {town : Town α} {log : List (Entry α)}
    {entry : Entry α} {viewer : Nat} {f : Frame α} (move : h.Move entry h')
    (plays : h.simulator.value.Plays town log) (hsent : entry.sentTo? viewer = some f) :
    clock (log ++ [entry]) = clock log + 1
      ∨ clock (log ++ [entry]) = clock log
        ∧ (h.progress viewer).value.lastFrame ≠ some (.ofNat (clock log)) := by
  obtain ⟨text, around, rfl⟩ := Entry.sentTo?_eq_some hsent
  cases move with
  | served read sound kept serves =>
    cases serves with
    | advanced hstage he hs =>
      exact .inl (clock_concat_of_synchronous rfl (plays.synchronous_eq.symm.trans hs))
    | shown hstage he hs hlast =>
      refine .inr ⟨clock_concat_of_asynchronous rfl (plays.synchronous_eq.symm.trans hs), ?_⟩
      rwa [plays.frameNumber_eq he] at hlast

/-- Within an episode, a viewer that was sent a frame counts as having a frame that was sent no
earlier. -/
theorem exists_clock_of_lastFrame {town : Town α} {events : List Event} {viewer : Nat}
    {before later : List (Entry α)} {entry : Entry α} {f : Frame α}
    (hlog : (Host.fresh town).log events = before ++ entry :: later)
    (unbroken : Host.Unbroken ((Host.fresh town).log events))
    (hf : entry.sentTo? viewer = some f) (hconf : ∀ y ∈ later, y.configured? = none)
    (hstart : ∀ y ∈ later, ∀ x, y.exchange? viewer = some x → x.started? = none) :
    ∃ steps, clock (before ++ [entry]) ≤ steps ∧ steps ≤ clock (before ++ entry :: later)
      ∧ (Progress.ofExchanges (exchanges viewer (before ++ entry :: later))).lastFrame
        = some (.ofNat steps) := by
  obtain ⟨first, y, rest, g, hsplit, hy, hrest⟩ := exists_last_sent hf later
  have hnone : ∀ z ∈ entry :: later, z.configured? = none :=
    List.forall_mem_cons.mpr ⟨Entry.configured?_of_frame (Entry.frame?_of_sentTo hf), hconf⟩
  have hquiet : ∀ z ∈ entry :: later, ∀ x, z.exchange? viewer = some x →
      x.isConfigure = false ∧ x.started? = none := by
    intro z hz x hx
    refine ⟨Host.isConfigure_eq_false_of_configured unbroken (hlog ▸ List.mem_append_right _ hz)
      (hnone z hz) hx, ?_⟩
    obtain rfl | hz := List.mem_cons.mp hz
    · exact Exchange.started?_of_sentTo hf hx
    · exact hstart z hz x hx
  rw [hsplit] at hnone hquiet
  have hlog' : before ++ entry :: later = (before ++ first) ++ y :: rest := by
    rw [hsplit, List.append_assoc]
  -- `y` is the last frame sent to the viewer; it lies between the two ends of the episode.
  refine ⟨clock (before ++ first ++ [y]), ?low, ?high, ?last⟩
  case low =>
    cases first with
    | nil =>
      obtain ⟨rfl, -⟩ := List.cons.inj hsplit
      simp
    | cons _ first =>
      obtain ⟨rfl, -⟩ := List.cons.inj hsplit
      have hrun : ∀ z ∈ first ++ [y], z.configured? = none := fun z hz => hnone z (by grind)
      simpa using clock_le_append (before ++ [entry]) hrun
  case high =>
    rw [hlog', List.append_cons _ y rest]
    exact clock_le_append _ fun z hz => hnone z (by simp [hz])
  case last =>
    rw [← number_eq_of_log_eq (hlog.trans hlog') (Entry.frame?_of_sentTo hy), hlog']
    exact Progress.lastFrame_eq hy hrest fun z hz => hquiet z (by simp [hz])

/-- Between two frames that a viewer is sent of one episode, the clock advances. -/
theorem clock_lt_of_frames {town : Town α} {events : List Event} {viewer : Nat}
    {before between later : List (Entry α)} {entry other : Entry α} {f g : Frame α}
    (hlog : (Host.fresh town).log events = before ++ entry :: (between ++ other :: later))
    (hf : entry.sentTo? viewer = some f) (hg : other.sentTo? viewer = some g)
    (hconf : ∀ y ∈ between, y.configured? = none)
    (hstart : ∀ y ∈ between, ∀ x, y.exchange? viewer = some x → x.started? = none) :
    clock (before ++ [entry]) < clock (before ++ entry :: between ++ [other]) := by
  have hlog' : (Host.fresh town).log events = (before ++ entry :: between) ++ other :: later := by
    rw [hlog, List.append_assoc, List.cons_append]
  obtain ⟨earlier, hearlier, -, move⟩ := Host.move_of_log_eq hlog'
  have sound := move.sound_of_frame (Entry.frame?_of_sentTo hg)
  have unbroken := (Host.sound_iff_unbroken earlier).mp sound
  have plays := plays_log earlier sound
  rw [hearlier] at plays
  obtain ⟨steps, hlow, hhigh, hlast⟩ :=
    exists_clock_of_lastFrame hearlier unbroken hf hconf hstart
  -- Either the look itself advances the clock, or the clock has advanced since the last look.
  obtain hadvanced | ⟨hsame, hother⟩ := move.clock_of_sentTo plays hg
  · omega
  · rw [Host.progress_log unbroken, hearlier] at hother
    have hne : steps ≠ clock (before ++ entry :: between) := by
      rintro rfl
      exact hother hlast
    omega

/-- **Within an episode, a viewer's frames go forward.** If nobody has begun an episode between two
frames that a viewer is sent, nor has the viewer been put on a spot, the second has the larger
number and the later time, whoever else has looked at the episode in between. -/
theorem number_lt_of_frames {town : Town α} {events : List Event} {viewer : Nat}
    {before between later : List (Entry α)} {entry other : Entry α} {f g : Frame α}
    (hlog : (Host.fresh town).log events = before ++ entry :: (between ++ other :: later))
    (hf : entry.sentTo? viewer = some f) (hg : other.sentTo? viewer = some g)
    (hconf : ∀ y ∈ between, y.configured? = none)
    (hstart : ∀ y ∈ between, ∀ x, y.exchange? viewer = some x → x.started? = none)
    (hclock : clock (before ++ entry :: between ++ [other]) < 2 ^ 59) :
    f.number < g.number ∧ f.gameTime < g.gameTime := by
  have hlt := clock_lt_of_frames hlog hf hg hconf hstart
  obtain ⟨_, e, hbegin, hf', hg', -⟩ := exists_episode_of_frames hlog
    (Entry.frame?_of_sentTo hf) (Entry.frame?_of_sentTo hg) hconf
  rw [UInt64.lt_iff_toNat_lt, UInt64.lt_iff_toNat_lt, hf', hg',
    Episode.toNat_number_played (hbegin default) (by omega),
    Episode.toNat_number_played (hbegin default) hclock,
    Episode.toNat_gameTime_played (hbegin default) (by omega),
    Episode.toNat_gameTime_played (hbegin default) hclock]
  exact ⟨hlt, by omega⟩

/-! ### Two viewers -/

section

variable {town : Town α} (p q : Staged town)

/-- The first viewer has only been sent a frame of its own episode when the second one asks for
another. -/
theorem sentTo?_reconfigured {entry : Entry α} (h : entry ∈ reconfigured p q) {f : Frame α}
    (hf : entry.sentTo? 0 = some f) : f = p.episode.frame 0 := by
  simp only [reconfigured, opened, List.cons_append, List.nil_append, List.mem_cons,
    List.not_mem_nil, or_false] at h
  rcases h with rfl | rfl | rfl | rfl
  all_goals
    simp_all [Entry.sentTo?, Entry.exchange?, answered, Request.ofLine_line, Except.toOption,
      Exchange.frame?]

/-- After the last frame that the first viewer is sent, only the second one is sent another. -/
theorem sinceFrame_shared : sinceFrame 0 (shared p q)
    = [answered 1 .readFrame (.frame ((q.episode.tick Simulator.step).frame 0))] := by
  simp [sinceFrame, List.rtakeWhile, shared, sharing, answered, Entry.sentTo?, Entry.exchange?,
    Request.ofLine_line, Except.toOption, Exchange.frame?]

end

/-- The first of two viewers is sent two frames of the second viewer's episode, with its two
vehicles, the pedestrian, the lights and the sign. -/
theorem number_lt_of_frames_shared :
    ∃ before between later entry other f g,
      (Host.fresh Town.served).log ((shared .pair .trio).map Entry.event)
          = before ++ entry :: (between ++ other :: later)
        ∧ entry.sentTo? 0 = some f ∧ other.sentTo? 0 = some g
        ∧ f.number < g.number ∧ f.gameTime < g.gameTime ∧ f.agents.length = 8 := by
  have hlog : (Host.fresh Town.served).log ((shared .pair .trio).map Entry.event)
      = (shared .pair .trio).take 7 ++ answered 0 .readFrame (.frame (Staged.trio.episode.frame 0))
        :: ([⟨.tick, none⟩] ++ answered 0 .readFrame
          (.frame ((Staged.trio.episode.tick Simulator.step).frame 0))
          :: [answered 1 .readFrame
            (.frame ((Staged.trio.episode.tick Simulator.step).frame 0))]) :=
    log_shared .pair .trio (by decide)
  obtain ⟨hnumber, htime⟩ :=
    number_lt_of_frames hlog (sentTo?_answered 0 _) (sentTo?_answered 0 _)
      (by simp [Entry.configured?]) (by simp [Entry.exchange?])
      ((clock_le_length _).trans_lt (by simp [shared, sharing, reconfigured, opened]))
  exact ⟨_, _, _, _, _, _, _, hlog, sentTo?_answered 0 _, sentTo?_answered 0 _, hnumber, htime,
    Episode.length_agents_played Staged.trio.begins rfl 0 0⟩

/-! ## Waiting -/

/-- A request for a frame is left waiting if the viewer counts as having the present frame of an
asynchronous episode. -/
theorem Served.readFrame_eq_wait_iff {around : Surroundings} {p p' : Progress} {s s' : Simulator α}
    {outcome : Outcome α} (serves : Served around p s .readFrame outcome p' s') :
    outcome = .wait ↔ (∃ spot, p.stage = .running spot) ∧ s.synchronous = false
      ∧ ∃ e, s.episode = some e ∧ p.lastFrame = some e.frameNumber := by
  cases serves with
  | readEarly hstage => simp [hstage]
  | unplayed hstage he => simp [he]
  | advanced hstage he hs => simp [hs]
  | shown hstage he hs hlast => simp [he, hlast]
  | waiting hstage he hs hlast => simp [hstage, he, hs, hlast]

/-- A request that needs something spoiled is refused. -/
theorem Host.receive_of_spoiled {h : Host α} {request : Request} {text : String}
    (read : Request.ofLine text = .ok request) (spoiled : h.simulator.spoiled = true)
    (viewer : Nat) (around : Surroundings) :
    (h.receive viewer text around).1 = .answer (.badRequest spoiledReason) := by
  simp [receive, route, read, spoiled]

/-- A viewer is made to wait if it counts as having the present frame of an asynchronous episode. -/
theorem Host.receive_eq_wait_iff {town : Town α} {events : List Event} {viewer : Nat}
    {text : String} (read : Request.ofLine text = .ok .readFrame) (around : Surroundings) :
    (((fresh town).after events).receive viewer text around).1 = .wait ↔
      Unbroken ((fresh town).log events)
        ∧ (∃ spot, Stage.ofExchanges (exchanges viewer ((fresh town).log events)) = .running spot)
        ∧ isSynchronous ((fresh town).log events) = false
        ∧ (Progress.ofExchanges (exchanges viewer ((fresh town).log events))).lastFrame
          = some (.ofNat (clock ((fresh town).log events))) := by
  by_cases unbroken : Unbroken ((fresh town).log events)
  · have sound := (sound_iff_unbroken events).mpr unbroken
    have plays := plays_log events sound
    obtain ⟨around', p, s, serves⟩ := served_receive unbroken read viewer around
    rw [serves.readFrame_eq_wait_iff, plays.synchronous_eq]
    simp only [unbroken, true_and]
    refine and_congr_right fun ⟨spot, hstage⟩ => and_congr_right fun _ => ?_
    obtain ⟨e, he, -⟩ := exists_episode_of_running unbroken hstage
    simp [he, plays.frameNumber_eq he]
  · have spoiled : ((fresh town).after events).simulator.spoiled = true := by
      simpa using mt (sound_iff_unbroken events).mp unbroken
    simp [receive_of_spoiled read spoiled, unbroken]

/-- **When a viewer is made to wait, and whether it holds the present frame.** It is made to wait
exactly if it counts as having a frame with the present number, which starts anew with every
episode. It has been sent the present frame exactly if nobody has configured the simulator since the
last frame that it was sent. -/
theorem holds_iff_of_wait {town : Town α} {events : List Event} {viewer : Nat} {text : String}
    (read : Request.ofLine text = .ok .readFrame) (around : Surroundings) :
    ((((Host.fresh town).after events).receive viewer text around).1 = .wait ↔
        Host.Unbroken ((Host.fresh town).log events)
          ∧ (∃ spot, Stage.ofExchanges (exchanges viewer ((Host.fresh town).log events))
            = .running spot)
          ∧ isSynchronous ((Host.fresh town).log events) = false
          ∧ (Progress.ofExchanges (exchanges viewer ((Host.fresh town).log events))).lastFrame
            = some (.ofNat (clock ((Host.fresh town).log events))))
      ∧ ((((Host.fresh town).after events).receive viewer text around).1 = .wait →
        ∃ e, ((Host.fresh town).after events).simulator.value.episode = some e
          ∧ (Holds viewer ((Host.fresh town).log events) e.frameNumber ↔
            ∀ entry ∈ sinceFrame viewer ((Host.fresh town).log events),
              entry.configured? = none)) := by
  refine ⟨Host.receive_eq_wait_iff read around, fun hwait => ?_⟩
  obtain ⟨unbroken, ⟨spot, hstage⟩, -, hlast⟩ := (Host.receive_eq_wait_iff read around).mp hwait
  obtain ⟨e, he, -⟩ := Host.exists_episode_of_running unbroken hstage
  have plays := plays_log events ((Host.sound_iff_unbroken events).mpr unbroken)
  refine ⟨e, he, ?_⟩
  rw [plays.frameNumber_eq he]
  exact holds_iff_of_lastFrame hlast

/-- The first of two viewers waits for the next frame of the second viewer's episode, and holds the
present one. -/
theorem holds_iff_of_wait_shared :
    (((Host.fresh Town.served).after ((shared .pair .trio).map Entry.event)).receive 0
        Request.readFrame.line ⟨0, ⟨0, 0⟩⟩).1 = .wait
      ∧ ∃ e, ((Host.fresh Town.served).after
          ((shared .pair .trio).map Entry.event)).simulator.value.episode = some e
        ∧ Holds 0 (shared .pair .trio) e.frameNumber := by
  have hlog : (Host.fresh Town.served).log ((shared .pair .trio).map Entry.event)
      = shared .pair .trio := log_shared .pair .trio (by decide)
  have hsession := Progress.ofExchanges_shared .pair .trio
  have hwait : (((Host.fresh Town.served).after ((shared .pair .trio).map Entry.event)).receive 0
      Request.readFrame.line ⟨0, ⟨0, 0⟩⟩).1 = .wait := by
    refine (holds_iff_of_wait (Request.ofLine_line _) _).1.mpr ⟨?_, ⟨0, ?_⟩, ?_, ?_⟩
    · rw [hlog]
      exact unbroken_shared .pair .trio
    · rw [hlog]
      simpa [Progress.ofExchanges] using congrArg Progress.stage hsession
    · rw [hlog]
      simp [isSynchronous, settings?_shared]
    · rw [hlog, hsession, clock_shared]
      rfl
  obtain ⟨e, he, hholds⟩ := (holds_iff_of_wait (Request.ofLine_line _) _).2 hwait
  rw [hlog] at hholds
  refine ⟨hwait, e, he, hholds.mpr ?_⟩
  -- Only the other viewer has been sent a frame since.
  rw [sinceFrame_shared]
  simp [answered, Entry.configured?]

/-- **A viewer can be made to wait for a frame that it does not hold.** The first viewer is sent the
first frame of its episode; then the second viewer's episode begins, with another first frame. -/
theorem not_holds_of_wait_reconfigured :
    (((Host.fresh Town.served).after ((reconfigured .pair .trio).map Entry.event)).receive 0
        Request.readFrame.line ⟨0, ⟨0, 0⟩⟩).1 = .wait
      ∧ ∃ e, ((Host.fresh Town.served).after
          ((reconfigured .pair .trio).map Entry.event)).simulator.value.episode = some e
        ∧ ¬ Holds 0 (reconfigured .pair .trio) e.frameNumber
        ∧ ∀ entry ∈ reconfigured .pair .trio, ∀ f, entry.sentTo? 0 = some f →
          f.agents ≠ e.agents := by
  have hlog : (Host.fresh Town.served).log ((reconfigured .pair .trio).map Entry.event)
      = reconfigured .pair .trio := log_reconfigured .pair .trio (by decide)
  have hsession := Progress.ofExchanges_reconfigured .pair .trio
  have unbroken : Host.Unbroken ((Host.fresh Town.served).log
      ((reconfigured .pair .trio).map Entry.event)) := by
    rw [hlog]
    exact unbroken_reconfigured .pair .trio
  have plays := plays_log _ ((Host.sound_iff_unbroken _).mpr unbroken)
  rw [hlog] at plays
  have hclock : clock (reconfigured .pair .trio) = 0 := by
    simp [clock, isSynchronous, settings?_reconfigured, since_reconfigured]
  obtain ⟨e, hbegin, he⟩ := plays.playing _ (settings?_reconfigured .pair .trio)
  rw [hclock, Episode.played_zero] at he
  refine ⟨?wait, _, he, ?holds, ?agents⟩
  case wait =>
    rw [Host.receive_eq_wait_iff (Request.ofLine_line _)]
    refine ⟨unbroken, ⟨0, ?_⟩, ?_, ?_⟩
    · rw [hlog]
      simpa [Progress.ofExchanges] using congrArg Progress.stage hsession
    · rw [hlog]
      simp [isSynchronous, settings?_reconfigured]
    · rw [hlog, hsession, hclock]
      rfl
  case holds => simp [Holds, since_reconfigured]
  case agents =>
    intro entry hentry f hf hagents
    -- The frame that was sent has a vehicle less.
    have hpair := Episode.length_agents_played Staged.pair.begins rfl 0 0
    have htrio := Episode.length_agents_played (hbegin default) rfl 0 0
    rw [Episode.played_zero] at hpair htrio
    rw [sentTo?_reconfigured .pair .trio hentry hf] at hagents
    have hlength := congrArg List.length hagents
    rw [hpair] at hlength
    exact absurd (hlength.trans htrio) (by decide)

end TownTraffic
