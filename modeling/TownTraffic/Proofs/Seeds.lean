import TownTraffic.Proofs.Replay

/-!
# Where agents come from

Vehicles and pedestrians are drawn from one seed each, so that the vehicles of an episode do not
depend on the seed of the pedestrians, nor the pedestrians on that of the vehicles. Settings that
give only one of the two seeds are treated like settings that give none: both are drawn.

* **`Episode.vehicles_frame`**, **`Episode.pedestrians_frame`** — the moving agents of a frame.
* **`Episode.vehicles_congr`**, **`Episode.pedestrians_congr`** — what they depend on.
* **`Simulator.frames`** — the frames that a simulator shows until it is configured again.
* **`Settings.used`** — the seeds an episode is played with.
* **`Simulator.shows_used_of_configure`** — agents are drawn from these seeds, and a seed given
  alone has no influence.
-/

namespace TownTraffic

open Chance (Keystream)

variable {α : Type}

namespace Episode

variable [Scalar α]

/-! ## Moving agents of a frame -/

/-- Lights and the sign do not move. -/
theorem still_of_mem {e : Episode α} {kind : AgentKind α}
    (h : kind ∈ e.lightKinds ++ [e.town.sign]) :
    kind.isVehicle = false ∧ kind.isPedestrian = false := by
  obtain hlight | hsign := List.mem_append.mp h
  · obtain ⟨corner, -, rfl⟩ := List.mem_mapIdx.mp hlight
    exact ⟨rfl, rfl⟩
  · obtain rfl := List.mem_singleton.mp hsign
    exact ⟨rfl, rfl⟩

/-- The vehicles of a frame are numbered in the order in which they have been drawn. -/
theorem vehicles_frame {e : Episode α} (h : e.InOrder) (now : Int64) :
    (e.frame now).vehicles = if e.reportsAgents then
      Agent.numbered 0 (e.vehicles.map fun c => .vehicle c.pose c.speed) else [] := by
  rw [Frame.vehicles, agents_frame h]
  split
  · rw [List.filter_append, List.filter_append,
      Agent.filter_numbered_of_all (by simp [AgentKind.isVehicle]),
      Agent.filter_numbered_of_none (by simp [AgentKind.isVehicle]),
      Agent.filter_numbered_of_none (fun _ h => (still_of_mem h).1),
      List.append_nil, List.append_nil]
  · rfl

/-- The pedestrians of a frame are numbered on from the vehicles. -/
theorem pedestrians_frame {e : Episode α} (h : e.InOrder) (now : Int64) :
    (e.frame now).pedestrians = if e.reportsAgents then
      Agent.numbered e.vehicles.length (e.pedestrians.map fun c => .pedestrian c.pose c.speed)
      else [] := by
  rw [Frame.pedestrians, agents_frame h]
  split
  · rw [List.filter_append, List.filter_append,
      Agent.filter_numbered_of_none (by simp [AgentKind.isPedestrian]),
      Agent.filter_numbered_of_all (by simp [AgentKind.isPedestrian]),
      Agent.filter_numbered_of_none (fun _ h => (still_of_mem h).2),
      List.append_nil, List.nil_append]
  · rfl

/-! ## What moving agents depend on -/

section

variable {town : Town α} {settings other : Settings} {drawn spare : Seeds} {e e' : Episode α}

/-- Vehicles keep their speeds. -/
theorem speeds_played (e : Episode α) (steps : Nat) :
    (e.played steps).vehicles.map (·.speed) = e.vehicles.map (·.speed) := by
  rw [played_eq_after, vehicles_after, List.map_map]
  exact List.map_congr_left fun c _ => c.speed_after _

/-- The speed of a vehicle. -/
def speedOf? : AgentKind α → Option α
  | .vehicle _ speed => some speed
  | _ => none

/-- Frames with the same vehicles show the same speeds. -/
theorem speeds_eq_of_vehicles_eq (horder : e.InOrder) (horder' : e'.InOrder) {now : Int64}
    (hreports : e.reportsAgents = true) (hreports' : e'.reportsAgents = true)
    (h : (e.frame now).vehicles = (e'.frame now).vehicles) :
    e.vehicles.map (·.speed) = e'.vehicles.map (·.speed) := by
  rw [vehicles_frame horder, vehicles_frame horder', if_pos hreports, if_pos hreports'] at h
  have hkinds := congrArg (List.map (·.kind)) h
  rw [Agent.map_kind_numbered, Agent.map_kind_numbered] at hkinds
  simpa [List.filterMap_map, Function.comp_def, speedOf?]
    using congrArg (List.filterMap speedOf?) hkinds

/-- **Vehicles depend on their own seed and number only.** -/
theorem vehicles_congr (hbegin : begin town settings drawn = some e)
    (hother : begin town other spare = some e')
    (reports : other.reportsAgents = settings.reportsAgents)
    (vehicles : other.vehicles = settings.vehicles)
    (seed : (other.seeds spare).vehicles = (settings.seeds drawn).vehicles)
    (steps : Nat) (now : Int64) :
    ((e.played steps).frame now).vehicles = ((e'.played steps).frame now).vehicles := by
  obtain ⟨hv, -, hreports⟩ := drawn_of_begin hbegin
  obtain ⟨hv', -, hreports'⟩ := drawn_of_begin hother
  rw [vehicles, seed, hv, Option.some.injEq] at hv'
  rw [vehicles_frame ((inOrder_of_begin hbegin).played steps),
    vehicles_frame ((inOrder_of_begin hother).played steps), reportsAgents_played,
    reportsAgents_played, hreports, hreports', reports, played_eq_after, played_eq_after,
    vehicles_after, vehicles_after, hv']

/-- **Pedestrians depend on their own seed and number only**, apart from their numbers, which go on
from those of the vehicles. -/
theorem pedestrians_congr (hbegin : begin town settings drawn = some e)
    (hother : begin town other spare = some e')
    (reports : other.reportsAgents = settings.reportsAgents)
    (vehicles : other.vehicles = settings.vehicles)
    (pedestrians : other.pedestrians = settings.pedestrians)
    (seed : (other.seeds spare).pedestrians = (settings.seeds drawn).pedestrians)
    (steps : Nat) (now : Int64) :
    ((e.played steps).frame now).pedestrians = ((e'.played steps).frame now).pedestrians := by
  obtain ⟨hv, hp, hreports⟩ := drawn_of_begin hbegin
  obtain ⟨hv', hp', hreports'⟩ := drawn_of_begin hother
  rw [pedestrians, seed, hp, Option.some.injEq] at hp'
  have hlength : e'.vehicles.length = e.vehicles.length := by
    rw [length_vehicles_of_begin hbegin, length_vehicles_of_begin hother, vehicles]
  rw [pedestrians_frame ((inOrder_of_begin hbegin).played steps),
    pedestrians_frame ((inOrder_of_begin hother).played steps), reportsAgents_played,
    reportsAgents_played, hreports, hreports', reports, length_vehicles_played,
    length_vehicles_played, hlength, played_eq_after, played_eq_after, pedestrians_after,
    pedestrians_after, hp']

end

end Episode

/-! ## Frames until the next configuration -/

namespace Simulator

/-- What goes on at a simulator between configurations. -/
inductive Action where
  | tick
  /-- A viewer, who had a certain frame last, looks at a certain time. -/
  | look (had : Option UInt64) (now : Int64)
deriving Repr, DecidableEq

variable [Scalar α]

/-- One action, with the frame that is shown if there is one. -/
def act (s : Simulator α) : Action → Option (Frame α) × Simulator α
  | .tick => (none, s.tick)
  | .look had now =>
    match s.look had now with
    | (.fresh f, s) => (some f, s)
    | (_, s) => (none, s)

/-- The frames that are shown. -/
def frames (s : Simulator α) : List Action → List (Frame α)
  | [] => []
  | a :: actions => (s.act a).1.toList ++ (s.act a).2.frames actions

variable {s : Simulator α} {e : Episode α}

/-- An action goes on with the episode that is played, and shows the frame that comes of it. -/
theorem exists_played_of_act (h : s.episode = some e) (a : Action) :
    ∃ steps, (s.act a).2.episode = some (e.played steps)
      ∧ ∀ f ∈ (s.act a).1, f = (e.played steps).frame f.reportedAt := by
  cases a with
  | tick =>
    by_cases hs : s.synchronous = true
    · exact ⟨0, by simp [act, tick, hs, h], by simp [act]⟩
    · exact ⟨1, by simp [act, tick, hs, h, publish, Episode.played], by simp [act]⟩
  | look had now =>
    by_cases hs : s.synchronous = true
    · exact ⟨1, by simp [act, look, hs, h, publish, Episode.played],
        by simp [act, look, hs, h, Episode.played, Episode.frame]⟩
    · refine ⟨0, ?_⟩
      by_cases had_present : had = some e.frameNumber
      · simp [act, look, hs, h, had_present]
      · simp [act, look, hs, h, had_present, Episode.frame]

/-- **Every frame until the next configuration is of the episode that is played.** -/
theorem exists_played_of_mem_frames (h : s.episode = some e) {actions : List Action} {f : Frame α}
    (hf : f ∈ s.frames actions) : ∃ steps, f = (e.played steps).frame f.reportedAt := by
  induction actions generalizing s e with
  | nil => simp [frames] at hf
  | cons a actions ih =>
    obtain ⟨steps, hepisode, hframe⟩ := exists_played_of_act h a
    obtain here | later := List.mem_append.mp hf
    · exact ⟨steps, hframe f (by simpa using here)⟩
    · obtain ⟨more, heq⟩ := ih hepisode later
      exact ⟨more + steps, Episode.played_played e steps more ▸ heq⟩

/-- **Whether the vehicles are those of a seed**: in every frame until the next configuration, they
are those of any episode with this seed, as many vehicles and the same choice of what is reported,
at the moment of the frame's number. -/
def ShowsVehicles (s : Simulator α) (settings : Settings) (seed : UInt64) : Prop :=
  ∀ actions, ∀ f ∈ s.frames actions, ∃ steps, f.number = .ofNat steps
    ∧ ∀ other spare e, Episode.begin s.town other spare = some e →
      other.reportsAgents = settings.reportsAgents → other.vehicles = settings.vehicles →
      (other.seeds spare).vehicles = seed →
      f.vehicles = ((e.played steps).frame f.reportedAt).vehicles

/-- **Whether the pedestrians are those of a seed**, likewise. -/
def ShowsPedestrians (s : Simulator α) (settings : Settings) (seed : UInt64) : Prop :=
  ∀ actions, ∀ f ∈ s.frames actions, ∃ steps, f.number = .ofNat steps
    ∧ ∀ other spare e, Episode.begin s.town other spare = some e →
      other.reportsAgents = settings.reportsAgents → other.vehicles = settings.vehicles →
      other.pedestrians = settings.pedestrians → (other.seeds spare).pedestrians = seed →
      f.pedestrians = ((e.played steps).frame f.reportedAt).pedestrians

/-- A configuration that is answered has made its own episode begin. -/
theorem configure_eq_some {s' : Simulator α} {settings : Settings} {drawn : Seeds}
    {description : TownDescription α} (h : s.configure settings drawn = (some description, s')) :
    ∃ e, Episode.begin s.town (settings.settled drawn) drawn = some e
      ∧ s'.town = s.town ∧ s'.episode = some e
      ∧ s'.synchronous = (settings.settled drawn).synchronous := by
  cases hbegin : Episode.begin s.town (settings.settled drawn) drawn with
  | none => simp [configure_of_begin_eq_none hbegin] at h
  | some e =>
    rw [configure_of_begin hbegin, Prod.mk.injEq] at h
    obtain ⟨-, rfl⟩ := h
    exact ⟨e, rfl, rfl, rfl, rfl⟩

end Simulator

/-! ## Seeds -/

namespace Settings

variable {settings : Settings} {drawn : Seeds}

/-- The seeds an episode is played with. -/
def used (settings : Settings) (drawn : Seeds) : Seeds := (settings.settled drawn).seeds drawn

/-- Settling the seeds does not change whether agents are reported. -/
@[simp] theorem reportsAgents_settled (settings : Settings) (drawn : Seeds) :
    (settings.settled drawn).reportsAgents = settings.reportsAgents := by
  unfold settled seeded; split <;> rfl

/-- Settling the seeds does not change the number of vehicles. -/
@[simp] theorem vehicles_settled (settings : Settings) (drawn : Seeds) :
    (settings.settled drawn).vehicles = settings.vehicles := by
  unfold settled seeded; split <;> rfl

/-- Settling the seeds does not change the number of pedestrians. -/
@[simp] theorem pedestrians_settled (settings : Settings) (drawn : Seeds) :
    (settings.settled drawn).pedestrians = settings.pedestrians := by
  unfold settled seeded; split <;> rfl

/-- **Which seeds are used**: those of the settings if both are given, and drawn ones otherwise. -/
theorem used_eq (settings : Settings) (drawn : Seeds) :
    settings.used drawn = if settings.isSeeded then settings.seeds drawn else drawn := by
  unfold used settled
  split <;> rfl

/-- A vehicle seed is used if a pedestrian seed is given too, or else by chance. -/
theorem used_vehicles_eq_iff {seed : UInt64} (h : settings.vehicleSeed = some seed) :
    (settings.used drawn).vehicles = seed
      ↔ settings.pedestrianSeed.isSome ∨ drawn.vehicles = seed := by
  rw [used_eq]
  cases hother : settings.pedestrianSeed <;> simp [isSeeded, seeds, h, hother]

/-- A pedestrian seed is used if a vehicle seed is given too, or else by chance. -/
theorem used_pedestrians_eq_iff {seed : UInt64} (h : settings.pedestrianSeed = some seed) :
    (settings.used drawn).pedestrians = seed
      ↔ settings.vehicleSeed.isSome ∨ drawn.pedestrians = seed := by
  rw [used_eq]
  cases hother : settings.vehicleSeed <;> simp [isSeeded, seeds, h, hother]

/-- The settings without seeds. -/
def unseeded (s : Settings) : Settings := { s with vehicleSeed := none, pedestrianSeed := none }

/-- Settings that leave a seed open are completed like settings that leave both open. -/
theorem settled_unseeded (h : settings.isSeeded = false) (drawn : Seeds) :
    settings.unseeded.settled drawn = settings.settled drawn := by
  have hunseeded : settings.unseeded.isSeeded = false := rfl
  rw [settled, settled, h, hunseeded]
  rfl

/-- Settings for one vehicle, with a seed for it but none for pedestrians. -/
def halfSeeded : Settings :=
  { standard with vehicles := 1, pedestrians := 0, vehicleSeed := some 1 }

end Settings

namespace Simulator

variable [Scalar α] {s s' : Simulator α} {settings : Settings} {drawn : Seeds}
  {description : TownDescription α}

/-- **The agents of an episode are drawn from the seeds that are used.** These are the given ones if
both are given. Settings that give one seed only come to the same as settings that give none, so
that the given one is used by chance only. -/
theorem shows_used_of_configure (h : s.configure settings drawn = (some description, s')) :
    s'.ShowsVehicles settings (settings.used drawn).vehicles
      ∧ s'.ShowsPedestrians settings (settings.used drawn).pedestrians
      ∧ (∀ seed, settings.vehicleSeed = some seed →
        ((settings.used drawn).vehicles = seed
          ↔ settings.pedestrianSeed.isSome ∨ drawn.vehicles = seed))
      ∧ (∀ seed, settings.pedestrianSeed = some seed →
        ((settings.used drawn).pedestrians = seed
          ↔ settings.vehicleSeed.isSome ∨ drawn.pedestrians = seed))
      ∧ (settings.isSeeded = false →
        s.configure settings.unseeded drawn = (some description, s')) := by
  obtain ⟨e, hbegin, htown, hepisode, -⟩ := configure_eq_some h
  -- Every frame shows the episode that was configured, at some moment of its play.
  have moments : ∀ actions, ∀ f ∈ s'.frames actions, ∃ steps,
      f.number = .ofNat steps ∧ f = (e.played steps).frame f.reportedAt := by
    intro actions f hf
    obtain ⟨steps, heq⟩ := exists_played_of_mem_frames hepisode hf
    refine ⟨steps, ?_, heq⟩
    rw [heq, Episode.number_frame, Episode.frameNumber_played, (Episode.of_begin hbegin).2.1,
      UInt64.zero_add]
  refine ⟨?vehicles, ?pedestrians, fun _ => Settings.used_vehicles_eq_iff,
    fun _ => Settings.used_pedestrians_eq_iff, ?unseeded⟩
  case vehicles =>
    intro actions f hf
    obtain ⟨steps, hnumber, heq⟩ := moments actions f hf
    refine ⟨steps, hnumber, fun other spare e' hother reports vehicles seed => ?_⟩
    rw [htown] at hother
    rw [heq]
    exact Episode.vehicles_congr hbegin hother (by simpa using reports) (by simpa using vehicles)
      seed steps _
  case pedestrians =>
    intro actions f hf
    obtain ⟨steps, hnumber, heq⟩ := moments actions f hf
    refine ⟨steps, hnumber, fun other spare e' hother reports vehicles pedestrians seed => ?_⟩
    rw [htown] at hother
    rw [heq]
    exact Episode.pedestrians_congr hbegin hother (by simpa using reports)
      (by simpa using vehicles) (by simpa using pedestrians) seed steps _
  case unseeded =>
    intro open_
    rw [← h]
    simp only [configure, Settings.settled_unseeded open_]

/-! ### A seed given alone -/

/-- A vehicle seed that is given alone is replaced by the one that is drawn. -/
theorem shows_used_of_configure_halfSeeded : ∃ description s',
    (idle Town.served).configure .halfSeeded ⟨3, 2⟩ = (some description, s')
      ∧ s'.ShowsVehicles .halfSeeded 3 ∧ s'.ShowsPedestrians .halfSeeded 2
      ∧ (idle Town.served).configure Settings.halfSeeded.unseeded ⟨3, 2⟩
        = (some description, s') := by
  have begins : (Episode.begin Town.served (Settings.halfSeeded.settled ⟨3, 2⟩) ⟨3, 2⟩).isSome := by
    decide +kernel
  obtain ⟨e, hbegin⟩ := Option.isSome_iff_exists.mp begins
  have hconfigure := configure_of_begin (s := idle Town.served) hbegin
  obtain ⟨vehicles, pedestrians, -, -, unseeded⟩ := shows_used_of_configure hconfigure
  exact ⟨_, _, hconfigure, vehicles, pedestrians, unseeded rfl⟩

/-- **A seed that is given is not always used.** -/
theorem not_shows_given :
    ¬ ∀ (s s' : Simulator Float32) (settings : Settings) (drawn : Seeds)
        (description : TownDescription Float32),
      s.configure settings drawn = (some description, s') →
      (∀ seed, settings.vehicleSeed = some seed → s'.ShowsVehicles settings seed)
        ∧ (∀ seed, settings.pedestrianSeed = some seed → s'.ShowsPedestrians settings seed) := by
  intro always
  -- Vehicles drawn with the seed that is given have other speeds than those in the episode.
  have differ : ((Episode.begin Town.served (Settings.halfSeeded.settled ⟨3, 2⟩) ⟨3, 2⟩).bind
      fun e => (Episode.begin Town.served .halfSeeded ⟨3, 2⟩).map
        fun e' => decide (e.vehicles.map (·.speed) = e'.vehicles.map (·.speed))) = some false := by
    decide +kernel
  simp only [Option.bind_eq_some_iff, Option.map_eq_some_iff, decide_eq_false_iff_not] at differ
  obtain ⟨e, hbegin, e', hbegin', differ⟩ := differ
  have hconfigure : (idle Town.served).configure .halfSeeded ⟨3, 2⟩
      = (some Town.served.description,
        (idle Town.served).play (Settings.halfSeeded.settled ⟨3, 2⟩) e) :=
    configure_of_begin hbegin
  have hasynchronous : (Settings.halfSeeded.settled ⟨3, 2⟩).synchronous = false := rfl
  -- Speeds never change, so the first frame already tells the two apart.
  have hframe : e.frame 0 ∈ ((idle Town.served).play (Settings.halfSeeded.settled ⟨3, 2⟩) e).frames
      [.look none 0] := by
    simp [frames, act, look, play, publish, idle, hasynchronous]
  obtain ⟨steps, -, same⟩ := (always _ _ _ _ _ hconfigure).1 1 rfl _ _ hframe
  have hvehicles := same .halfSeeded ⟨3, 2⟩ e' hbegin' rfl rfl rfl
  rw [← Episode.speeds_played e' steps] at differ
  refine differ (Episode.speeds_eq_of_vehicles_eq (Episode.inOrder_of_begin hbegin)
    ((Episode.inOrder_of_begin hbegin').played steps) ?_ ?_ hvehicles)
  · exact (Episode.drawn_of_begin hbegin).2.2
  · rw [Episode.reportsAgents_played]
    exact (Episode.drawn_of_begin hbegin').2.2

end Simulator

end TownTraffic
