import TownTraffic.Proofs.Replay

/-!
# A session is its own history

Viewers share the simulator, but how far a session has come follows from the viewer's own requests
and their outcomes alone, as long as no service has broken off.

* **`Exchange.isConfigure`**, **`Exchange.started?`**, **`Exchange.frame?`**,
  **`Exchange.described?`** — what an exchange was.
* **`Progress.ofExchanges`** — how far a session has come, read off its exchanges.
* **`Host.Unbroken`** — no service has broken off; **`progress_log`** then every progress is the one
  read off the viewer's exchanges.
* **`session_of_exchanges`** — and so are the answers that depend on it.
-/

namespace TownTraffic

open History

variable {α : Type}

/-! ## Exchanges -/

namespace Exchange

/-- Whether the viewer asked for an episode. -/
def isConfigure (x : Exchange α) : Bool :=
  match x.request with
  | .configure _ => true
  | _ => false

/-- The spot on which the player was put. -/
def started? (x : Exchange α) : Option UInt64 :=
  match x.request, x.outcome with
  | .startEpisode spot, .answer (.episodeReady true) => some spot
  | _, _ => none

/-- The frame that was sent. -/
def frame? (x : Exchange α) : Option (Frame α) :=
  match x.outcome with
  | .answer (.frame f) => some f
  | _ => none

/-- The town that was described. -/
def described? (x : Exchange α) : Option (TownDescription α) :=
  match x.outcome with
  | .answer (.town description) => some description
  | _ => none

end Exchange

/-! ## Reading a session off its exchanges -/

/-- The stage after some exchanges: the last spot on which the player was put since the viewer last
asked for an episode. -/
def Stage.ofExchanges (xs : List (Exchange α)) : Stage :=
  if xs.any Exchange.isConfigure then
    match ((xs.rtakeWhile fun x => !x.isConfigure).filterMap Exchange.started?).getLast? with
    | some spot => .running spot
    | none => .configured
  else .connected

/-- The exchanges since the viewer last asked for an episode or was put on a spot. -/
def History.sinceStart (xs : List (Exchange α)) : List (Exchange α) :=
  xs.rtakeWhile fun x => !x.isConfigure && x.started?.isNone

/-- **How far a session has come**, read off its exchanges: the stage, the number of all frames
sent, and the number of the last frame sent since the viewer last asked for an episode or was put on
a spot. -/
def Progress.ofExchanges (xs : List (Exchange α)) : Progress where
  stage := .ofExchanges xs
  framesSent := .ofNat (xs.countP (·.frame?.isSome))
  lastFrame := ((sinceStart xs).filterMap Exchange.frame?).getLast?.map (·.number)

section

variable {xs : List (Exchange α)} {x : Exchange α}

/-- A viewer that never asked for an episode has just connected. -/
theorem Stage.ofExchanges_eq_connected_iff :
    Stage.ofExchanges xs = .connected ↔ ∀ x ∈ xs, x.isConfigure = false := by
  unfold ofExchanges
  split
  next h =>
    simp only [List.any_eq_true] at h
    obtain ⟨x, hx, hconf⟩ := h
    constructor
    · split <;> simp
    · intro hall
      simp [hall x hx] at hconf
  next h => simpa using h

/-- A player stands on a spot on which it was put. -/
theorem Stage.exists_started_of_running {spot : UInt64}
    (h : Stage.ofExchanges xs = .running spot) : ∃ x ∈ xs, x.started? = some spot := by
  unfold ofExchanges at h
  split at h
  next =>
    split at h
    next other hlast =>
      obtain ⟨x, hx, hstart⟩ := List.mem_filterMap.mp (List.mem_of_getLast? hlast)
      obtain rfl := Stage.running.inj h
      exact ⟨x, (List.rtakeWhile_suffix _ _).mem hx, hstart⟩
    next => simp at h
  next => simp at h

/-- A session whose latest exchange made an episode is waiting for a spot. -/
theorem Stage.ofExchanges_concat_of_configure (h : x.isConfigure = true) :
    Stage.ofExchanges (xs ++ [x]) = .configured := by
  simp [ofExchanges, h]

/-- A session that has an episode and whose latest exchange put it on a spot runs from there. -/
theorem Stage.ofExchanges_concat_of_started {spot : UInt64}
    (hstage : Stage.ofExchanges xs ≠ .connected) (hconf : x.isConfigure = false)
    (h : x.started? = some spot) : Stage.ofExchanges (xs ++ [x]) = .running spot := by
  have hany : xs.any Exchange.isConfigure = true := by
    by_contra hnone
    exact hstage (by simp [ofExchanges, hnone])
  simp [ofExchanges, hany, hconf, h, List.filterMap_append]

/-- Any other exchange leaves a session where it is. -/
theorem Stage.ofExchanges_concat (hconf : x.isConfigure = false) (h : x.started? = none) :
    Stage.ofExchanges (xs ++ [x]) = Stage.ofExchanges xs := by
  simp [ofExchanges, hconf, h, List.filterMap_append]

namespace Progress

/-- Asking for an episode. -/
theorem ofExchanges_concat_of_configure (h : x.isConfigure = true) (hframe : x.frame? = none) :
    ofExchanges (xs ++ [x]) = (ofExchanges xs).configured := by
  simp [ofExchanges, configured, Stage.ofExchanges_concat_of_configure h, sinceStart, h, hframe,
    List.countP_append]

/-- Being put on a spot. -/
theorem ofExchanges_concat_of_started {spot : UInt64}
    (hstage : Stage.ofExchanges xs ≠ .connected) (hconf : x.isConfigure = false)
    (h : x.started? = some spot) (hframe : x.frame? = none) :
    ofExchanges (xs ++ [x]) = (ofExchanges xs).started spot := by
  simp [ofExchanges, started, Stage.ofExchanges_concat_of_started hstage hconf h, sinceStart, h,
    hframe, List.countP_append]

/-- Being sent a frame. -/
theorem ofExchanges_concat_frame (xs : List (Exchange α)) (f : Frame α) :
    ofExchanges (xs ++ [⟨.readFrame, .answer (.frame f)⟩]) = (ofExchanges xs).sent f.number := by
  have hstage : Stage.ofExchanges (xs ++ [⟨.readFrame, .answer (.frame f)⟩])
      = Stage.ofExchanges xs := Stage.ofExchanges_concat rfl rfl
  simp [ofExchanges, sent, hstage, sinceStart, Exchange.isConfigure, Exchange.started?,
    Exchange.frame?, List.countP_append, List.filterMap_append, UInt64.ofNat_add]

/-- Any other exchange changes nothing. -/
theorem ofExchanges_concat (hconf : x.isConfigure = false) (hstart : x.started? = none)
    (h : x.frame? = none) : ofExchanges (xs ++ [x]) = ofExchanges xs := by
  simp [ofExchanges, Stage.ofExchanges_concat hconf hstart, sinceStart, hconf, hstart, h,
    List.countP_append, List.filterMap_append]

end Progress

/-- A service leads from the progress read off the exchanges before it to the one read off them and
itself. -/
theorem Served.progress_eq [Scalar α] {around : Surroundings} {s s' : Simulator α} {p' : Progress}
    {request : Request} {outcome : Outcome α} (kept : outcome ≠ .brokenOff)
    (serves : Served around (Progress.ofExchanges xs) s request outcome p' s') :
    p' = Progress.ofExchanges (xs ++ [⟨request, outcome⟩]) := by
  cases serves with
  | configured => exact (Progress.ofExchanges_concat_of_configure rfl rfl).symm
  | brokenOff => exact absurd rfl kept
  | started hstage => exact (Progress.ofExchanges_concat_of_started hstage rfl rfl rfl).symm
  | @advanced _ e => exact (Progress.ofExchanges_concat_frame xs ((e.tick _).frame _)).symm
  | @shown _ e => exact (Progress.ofExchanges_concat_frame xs (e.frame _)).symm
  | ping => exact (Progress.ofExchanges_concat rfl rfl rfl).symm
  | startedEarly => exact (Progress.ofExchanges_concat rfl rfl rfl).symm
  | notStarted => exact (Progress.ofExchanges_concat rfl rfl rfl).symm
  | readEarly => exact (Progress.ofExchanges_concat rfl rfl rfl).symm
  | unplayed => exact (Progress.ofExchanges_concat rfl rfl rfl).symm
  | waiting => exact (Progress.ofExchanges_concat rfl rfl rfl).symm

end

/-! ## Sessions at a host -/

namespace Host

/-- No service has broken off. -/
def Unbroken (log : List (Entry α)) : Prop := ∀ entry ∈ log, entry.outcome ≠ some .brokenOff

/-- The beginning of an unbroken log is unbroken. -/
theorem Unbroken.of_append {log later : List (Entry α)} (unbroken : Unbroken (log ++ later)) :
    Unbroken log := fun entry hentry => unbroken entry (by simp [hentry])

variable [Scalar α]

/-- A move leaves a sound simulator sound unless it breaks off, and mends no spoiled one. -/
theorem Move.sound_iff {h h' : Host α} {entry : Entry α} (move : h.Move entry h') :
    h'.simulator.spoiled = false ↔
      h.simulator.spoiled = false ∧ entry.outcome ≠ some .brokenOff := by
  cases move with
  | tick before => simp [before, Guarded.sound]
  | still => simp
  | unreadable => simp [TownTraffic.unreadable]
  | refused => simp
  | served _ before kept =>
    rw [Bool.or_eq_false_iff] at before
    simp [before.2, kept, Guarded.sound]
  | brokenOff => simp

/-- The simulator is sound as long as no service has broken off. -/
theorem sound_iff_unbroken {town : Town α} (events : List Event) :
    ((fresh town).after events).simulator.spoiled = false ↔
      Unbroken ((fresh town).log events) := by
  refine log_induction town
    (motive := fun log h => h.simulator.spoiled = false ↔ Unbroken log) ?fresh ?move events
  case fresh => exact ⟨fun _ => by simp [Unbroken], fun _ => rfl⟩
  case move =>
    intro log h entry h' ih move
    rw [move.sound_iff, ih]
    simp [Unbroken, or_imp, forall_and]

/-- A move from which the simulator comes out sound keeps every viewer's progress to the viewer's
exchanges. -/
theorem Move.progress_eq {h h' : Host α} {log : List (Entry α)} {entry : Entry α}
    (move : h.Move entry h')
    (ih : h.simulator.spoiled = false →
      ∀ viewer, h.progress viewer = .sound (.ofExchanges (exchanges viewer log)))
    (sound : h'.simulator.spoiled = false) (viewer : Nat) :
    h'.progress viewer = .sound (.ofExchanges (exchanges viewer (log ++ [entry]))) := by
  have unread (hnone : entry.exchange? viewer = none) :
      exchanges viewer (log ++ [entry]) = exchanges viewer log := by
    simp [exchanges, hnone]
  cases move with
  | tick before => rw [unread rfl]; exact ih before viewer
  | still spoiled => simp [spoiled] at sound
  | brokenOff => simp at sound
  | unreadable hread =>
    rw [unread (by simp [Entry.exchange?, hread, Except.toOption])]
    exact ih sound viewer
  -- At a sound host nobody is refused, as no progress is spoiled either.
  | refused _ spoiled => simp [ih sound, sound, Guarded.sound] at spoiled
  | @served who text around request outcome p s read before kept serves =>
    rw [Bool.or_eq_false_iff] at before
    have hprogress := ih before.2
    by_cases hwho : viewer = who
    -- Only the viewer who was served has another exchange and another progress.
    · subst hwho
      rw [hprogress viewer] at serves
      rw [progress_settle_self, serves.progress_eq kept]
      simp [exchanges, Entry.exchange?, read, Except.toOption]
    · rw [progress_settle_of_ne h hwho, unread (by simp [Entry.exchange?, Ne.symm hwho])]
      exact hprogress viewer

/-- **As long as no service has broken off, every progress is the one read off the viewer's
exchanges.** -/
theorem progress_log {town : Town α} {events : List Event}
    (unbroken : Unbroken ((fresh town).log events)) (viewer : Nat) :
    ((fresh town).after events).progress viewer
      = .sound (.ofExchanges (exchanges viewer ((fresh town).log events))) := by
  refine log_induction town
    (motive := fun log h => h.simulator.spoiled = false →
      ∀ viewer, h.progress viewer = .sound (.ofExchanges (exchanges viewer log)))
    ?fresh ?move events ((sound_iff_unbroken events).mpr unbroken) viewer
  case fresh => exact fun _ _ => rfl
  case move => exact fun ih move sound viewer => move.progress_eq ih sound viewer

/-! ## What viewers are told -/

/-- At a sound host every exchange is a service. -/
theorem Move.served_of_exchange {h h' : Host α} {entry : Entry α} {viewer : Nat} {x : Exchange α}
    (move : h.Move entry h') (hx : entry.exchange? viewer = some x)
    (sound : h.simulator.spoiled = false) (sound' : (h.progress viewer).spoiled = false) :
    ∃ around p s, Served around (h.progress viewer).value h.simulator.value x.request x.outcome
      p s := by
  obtain ⟨text, around, hread, rfl⟩ := Entry.exchange?_eq_some_iff.mp hx
  obtain ⟨request, outcome⟩ := x
  cases move with
  | unreadable unread => simp [hread] at unread
  | refused _ spoiled => simp [sound, sound'] at spoiled
  | served read _ _ serves =>
    obtain rfl := Except.ok.inj (hread.symm.trans read)
    exact ⟨around, _, _, serves⟩
  | brokenOff read _ hbegin =>
    rw [Except.ok.inj (hread.symm.trans read)]
    exact ⟨around, _, _, .brokenOff hbegin⟩

/-- As long as no service has broken off, every exchange is a service in the host's town. -/
theorem served_of_mem_exchanges {town : Town α} {events : List Event}
    (unbroken : Unbroken ((fresh town).log events)) {viewer : Nat} {x : Exchange α}
    (hx : x ∈ exchanges viewer ((fresh town).log events)) :
    ∃ around p s p' s', s.town = town ∧ x.outcome ≠ .brokenOff
      ∧ Served around p s x.request x.outcome p' s' := by
  obtain ⟨entry, hmem, hentry⟩ := List.mem_filterMap.mp hx
  obtain ⟨before, later, hlog⟩ := List.append_of_mem hmem
  obtain ⟨earlier, rfl, -, move⟩ := move_of_log_eq hlog
  have unbroken' : Unbroken ((fresh town).log earlier) := by
    rw [hlog] at unbroken
    exact unbroken.of_append
  have sound := (sound_iff_unbroken earlier).mpr unbroken'
  obtain ⟨around, p', s', serves⟩ := move.served_of_exchange hentry sound
    (by rw [progress_log unbroken']; rfl)
  refine ⟨around, _, _, p', s', (plays_log earlier sound).town_eq, ?_, serves⟩
  obtain ⟨text, _, -, rfl⟩ := Entry.exchange?_eq_some_iff.mp hentry
  exact fun h => unbroken _ hmem (congrArg some h)

/-- Whoever asks for an episode is told about the town. -/
theorem outcome_of_isConfigure {town : Town α} {events : List Event}
    (unbroken : Unbroken ((fresh town).log events)) {viewer : Nat} {x : Exchange α}
    (hx : x ∈ exchanges viewer ((fresh town).log events)) (hconf : x.isConfigure = true) :
    x.outcome = .answer (.town town.description) := by
  obtain ⟨around, p, s, p', s', rfl, kept, serves⟩ := served_of_mem_exchanges unbroken hx
  obtain ⟨request, outcome⟩ := x
  cases serves with
  | configured => rfl
  | brokenOff => exact absurd rfl kept
  | _ => simp [Exchange.isConfigure] at hconf

/-- All that viewers are told is about the town. -/
theorem eq_description_of_described {town : Town α} {events : List Event}
    (unbroken : Unbroken ((fresh town).log events)) {viewer : Nat} {x : Exchange α}
    (hx : x ∈ exchanges viewer ((fresh town).log events)) {description : TownDescription α}
    (h : x.described? = some description) : description = town.description := by
  obtain ⟨around, p, s, p', s', rfl, kept, serves⟩ := served_of_mem_exchanges unbroken hx
  obtain ⟨request, outcome⟩ := x
  cases serves with
  | configured => exact (Option.some.inj h).symm
  | _ => simp [Exchange.described?] at h

/-- A player is put on a spot only if the town has it. -/
theorem lt_spotCount_of_started {town : Town α} {events : List Event}
    (unbroken : Unbroken ((fresh town).log events)) {viewer : Nat} {x : Exchange α}
    (hx : x ∈ exchanges viewer ((fresh town).log events)) {spot : UInt64}
    (h : x.started? = some spot) : spot.toNat < town.spotCount := by
  obtain ⟨around, p, s, p', s', rfl, kept, serves⟩ := served_of_mem_exchanges unbroken hx
  obtain ⟨request, outcome⟩ := x
  cases serves with
  | started hstage hspot =>
    obtain rfl := Option.some.inj h
    exact hspot
  | _ => simp [Exchange.started?] at h

/-- Where a viewer asks for an episode, one begins. -/
theorem isConfigure_eq_false_of_configured {town : Town α} {events : List Event}
    (unbroken : Unbroken ((fresh town).log events)) {viewer : Nat} {entry : Entry α}
    {x : Exchange α} (hmem : entry ∈ (fresh town).log events)
    (hconf : entry.configured? = none) (hx : entry.exchange? viewer = some x) :
    x.isConfigure = false := by
  by_contra h
  have hasked : x.isConfigure = true := by simpa using h
  have houtcome := outcome_of_isConfigure unbroken
    (List.mem_filterMap.mpr ⟨entry, hmem, hx⟩) hasked
  obtain ⟨text, around, hread, rfl⟩ := Entry.exchange?_eq_some_iff.mp hx
  cases hrequest : x.request with
  | configure settings => simp [Entry.configured?, houtcome, hread, hrequest] at hconf
  | _ => simp [Exchange.isConfigure, hrequest] at hasked

/-- Once a viewer has asked for an episode, there is one. -/
theorem settings?_ne_none {town : Town α} {events : List Event}
    (unbroken : Unbroken ((fresh town).log events)) {viewer : Nat}
    (hstage : Stage.ofExchanges (exchanges viewer ((fresh town).log events)) ≠ .connected) :
    settings? ((fresh town).log events) ≠ none := by
  intro hnone
  rw [ne_eq, Stage.ofExchanges_eq_connected_iff] at hstage
  refine hstage fun x hx => ?_
  obtain ⟨entry, hmem, hentry⟩ := List.mem_filterMap.mp hx
  exact isConfigure_eq_false_of_configured unbroken hmem
    (settings?_eq_none_iff.mp hnone entry hmem) hentry

/-- A viewer that has asked for an episode was last told about the town. -/
theorem getLast?_described {town : Town α} {events : List Event}
    (unbroken : Unbroken ((fresh town).log events)) {viewer : Nat}
    (hstage : Stage.ofExchanges (exchanges viewer ((fresh town).log events)) ≠ .connected) :
    ((exchanges viewer ((fresh town).log events)).filterMap Exchange.described?).getLast?
      = some town.description := by
  rw [ne_eq, Stage.ofExchanges_eq_connected_iff] at hstage
  push Not at hstage
  obtain ⟨x, hx, hconf⟩ := hstage
  -- There has been a description, and all that there have been are of the same town.
  have houtcome := outcome_of_isConfigure unbroken hx (by simpa using hconf)
  cases hlast : ((exchanges viewer ((fresh town).log events)).filterMap
      Exchange.described?).getLast? with
  | none =>
    rw [List.getLast?_eq_none_iff, List.filterMap_eq_nil_iff] at hlast
    simpa [Exchange.described?, houtcome] using hlast x hx
  | some description =>
    obtain ⟨y, hy, hdescribed⟩ := List.mem_filterMap.mp (List.mem_of_getLast? hlast)
    rw [eq_description_of_described unbroken hy hdescribed]

end Host

/-! ## Sessions -/

section

variable [Scalar α] {town : Town α} {events : List Event} {viewer : Nat}

/-- The answer to a request for a start spot. -/
theorem Served.startEpisode_eq {around : Surroundings} {p p' : Progress} {s s' : Simulator α}
    {spot : UInt64} {outcome : Outcome α}
    (serves : Served around p s (.startEpisode spot) outcome p' s') :
    outcome = if p.stage = .connected then .answer .badState
      else .answer (.episodeReady (decide (spot.toNat < s.town.spotCount))) := by
  cases serves with
  | startedEarly hstage => rw [if_pos hstage]
  | started hstage hspot => rw [if_neg hstage, decide_eq_true hspot]
  | notStarted hstage hspot => rw [if_neg hstage, decide_eq_false hspot]

/-- A request for a frame comes at the wrong time unless the player stands on a spot. -/
theorem Served.readFrame_eq_badState_iff {around : Surroundings} {p p' : Progress}
    {s s' : Simulator α} {outcome : Outcome α}
    (serves : Served around p s .readFrame outcome p' s')
    (hplays : ∀ spot, p.stage = .running spot → s.episode ≠ none) :
    outcome = .answer .badState ↔ ∀ spot, p.stage ≠ .running spot := by
  cases serves with
  | readEarly hstage => simpa using hstage
  | unplayed hstage he => exact absurd he (hplays _ hstage)
  | advanced hstage => simp [hstage]
  | shown hstage => simp [hstage]
  | waiting hstage => simp [hstage]

/-- As long as no service has broken off, a line that can be read is served. -/
theorem Host.served_receive (unbroken : Unbroken ((fresh town).log events)) {request : Request}
    {text : String} (read : Request.ofLine text = .ok request) (viewer : Nat)
    (around : Surroundings) :
    ∃ around' p s, Served around' (.ofExchanges (exchanges viewer ((fresh town).log events)))
      ((fresh town).after events).simulator.value request
      (((fresh town).after events).receive viewer text around).1 p s := by
  have hprogress := progress_log unbroken viewer
  have move := ((fresh town).after events).move_receive viewer text around
  obtain ⟨around', p, s, serves⟩ := move.served_of_exchange
    (Entry.exchange?_eq_some_iff (x := ⟨request, _⟩).mpr ⟨text, around, read, rfl⟩)
    ((sound_iff_unbroken _).mpr unbroken) (by rw [hprogress]; rfl)
  rw [hprogress] at serves
  exact ⟨around', p, s, serves⟩

/-- A running session has an episode to look at. -/
theorem Host.exists_episode_of_running (unbroken : Unbroken ((fresh town).log events))
    {spot : UInt64}
    (hstage : Stage.ofExchanges (exchanges viewer ((fresh town).log events)) = .running spot) :
    ∃ e, ((fresh town).after events).simulator.value.episode = some e
      ∧ spot.toNat < e.town.startSpots.length := by
  have plays := plays_log events ((sound_iff_unbroken _).mpr unbroken)
  have hspot : spot.toNat < town.spotCount := by
    obtain ⟨x, hx, hstart⟩ := Stage.exists_started_of_running hstage
    exact lt_spotCount_of_started unbroken hx hstart
  cases hsettings : settings? ((fresh town).log events) with
  | none =>
    have hconnected : Stage.ofExchanges (exchanges viewer ((fresh town).log events))
        ≠ .connected := by simp [hstage]
    exact absurd hsettings (settings?_ne_none unbroken hconnected)
  | some settings =>
    obtain ⟨e, hbegin, he⟩ := plays.playing settings hsettings
    refine ⟨_, he, ?_⟩
    rw [Episode.town_played, (Episode.of_begin (hbegin default)).1, Town.length_startSpots]
    exact hspot

/-- **A session is its own history.** As long as no service has broken off, the progress is the one
read off the viewer's own exchanges. A request for a start spot comes at the wrong time exactly if
the viewer never asked for an episode, and is otherwise granted exactly if the spot is among those
the viewer was last told about; a request for a frame comes at the wrong time exactly if the player
stands on no spot; and if it stands on one, there is an episode, and its town has the spot. -/
theorem session_of_exchanges (unbroken : Host.Unbroken ((Host.fresh town).log events)) :
    ((Host.fresh town).after events).progress viewer
        = .sound (.ofExchanges (exchanges viewer ((Host.fresh town).log events)))
      ∧ (∀ text around spot, Request.ofLine text = .ok (.startEpisode spot) →
        ((((Host.fresh town).after events).receive viewer text around).1 = .answer .badState ↔
            Stage.ofExchanges (exchanges viewer ((Host.fresh town).log events)) = .connected)
          ∧ (Stage.ofExchanges (exchanges viewer ((Host.fresh town).log events)) ≠ .connected →
            ∃ description, ((exchanges viewer ((Host.fresh town).log events)).filterMap
                Exchange.described?).getLast? = some description
              ∧ (((Host.fresh town).after events).receive viewer text around).1
                = .answer (.episodeReady (decide (spot.toNat < description.startSpots.length)))))
      ∧ (∀ text around, Request.ofLine text = .ok .readFrame →
        ((((Host.fresh town).after events).receive viewer text around).1 = .answer .badState ↔
          ∀ spot, Stage.ofExchanges (exchanges viewer ((Host.fresh town).log events))
            ≠ .running spot))
      ∧ ∀ spot, Stage.ofExchanges (exchanges viewer ((Host.fresh town).log events))
          = .running spot →
        ∃ e, ((Host.fresh town).after events).simulator.value.episode = some e
          ∧ spot.toNat < e.town.startSpots.length := by
  refine ⟨Host.progress_log unbroken viewer, ?start, ?read, fun spot =>
    Host.exists_episode_of_running unbroken⟩
  case start =>
    intro text around spot read
    obtain ⟨around', p, s, serves⟩ := Host.served_receive unbroken read viewer around
    -- The episode that the viewer knows may be replaced by then, but not its town.
    have htown := (plays_log events ((Host.sound_iff_unbroken events).mpr unbroken)).town_eq
    rw [serves.startEpisode_eq, htown]
    refine ⟨by simp [Progress.ofExchanges], fun hstage =>
      ⟨town.description, Host.getLast?_described unbroken hstage, ?_⟩⟩
    simp [Progress.ofExchanges, hstage, Town.description]
  case read =>
    intro text around read
    obtain ⟨around', p, s, serves⟩ := Host.served_receive unbroken read viewer around
    refine serves.readFrame_eq_badState_iff fun spot hstage => ?_
    obtain ⟨e, he, -⟩ := Host.exists_episode_of_running unbroken hstage
    simp [he]

end

/-! ## Two viewers -/

section

variable [Scalar α] {town : Town α} (p q : Staged town)

/-- Nothing breaks off when the second viewer asks for an episode. -/
theorem History.unbroken_reconfigured : Host.Unbroken (reconfigured p q) := by
  simp [Host.Unbroken, reconfigured, opened, answered]

/-- Nothing breaks off later either. -/
theorem History.unbroken_shared : Host.Unbroken (shared p q) := by
  simp [Host.Unbroken, shared, sharing, reconfigured, opened, answered]

/-- The first viewer has been sent a frame when the second asks for an episode. -/
theorem Progress.ofExchanges_reconfigured :
    ofExchanges (exchanges 0 (reconfigured p q)) = ⟨.running 0, 1, some 0⟩ := by
  rw [exchanges_reconfigured]
  show (⟨.running 0, 1, some p.episode.frameNumber⟩ : Progress) = _
  rw [p.frameNumber_episode]

/-- In the end it has been sent three, the last one after a tick. -/
theorem Progress.ofExchanges_shared :
    ofExchanges (exchanges 0 (shared p q)) = ⟨.running 0, 3, some 1⟩ := by
  rw [exchanges_shared, exchanges_reconfigured]
  show (⟨.running 0, 3, some (q.episode.frameNumber + 1)⟩ : Progress) = _
  rw [q.frameNumber_episode]
  rfl

end

/-- The first of two viewers stands on a spot and has been sent a frame of each of two episodes, and
the one after a tick. -/
theorem session_of_exchanges_shared :
    Host.Unbroken ((Host.fresh Town.served).log ((shared .pair .trio).map Entry.event))
      ∧ ((Host.fresh Town.served).after ((shared .pair .trio).map Entry.event)).progress 0
        = .sound ⟨.running 0, 3, some 1⟩ := by
  have hlog : (Host.fresh Town.served).log ((shared .pair .trio).map Entry.event)
      = shared .pair .trio := log_shared .pair .trio (by decide)
  have unbroken : Host.Unbroken ((Host.fresh Town.served).log
      ((shared .pair .trio).map Entry.event)) := by
    rw [hlog]
    exact unbroken_shared .pair .trio
  refine ⟨unbroken, ?_⟩
  rw [(session_of_exchanges unbroken).1, hlog, Progress.ofExchanges_shared]

end TownTraffic
