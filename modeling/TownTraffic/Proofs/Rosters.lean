import TownTraffic.Proofs.Seeds
import Mathlib.Data.List.Forall2
import Mathlib.Data.List.Nodup

/-!
# The roster of an episode never changes

Vehicles, pedestrians, lights and the sign are numbered once, in this order, and keep their numbers:
whatever time passes, only the poses of what moves and the signals of lights change.

* **`Species`** — the four kinds of agents; **`Agent.Persists`** what an agent is at another time.
* **`Episode.persists_agents`** — agents keep their numbers and stay what they are.
* **`Frame.IsFull`** — frames with a full roster; **`Episode.isFull_frame`** an episode in order has
  no other frames.
* **`Episode.isFull_of_begin`** — every frame of an episode has one, and its agents persist.
-/

namespace TownTraffic

variable {α : Type}

/-! ## Kinds of agents -/

/-- The four kinds of agents. -/
inductive Species where
  | vehicle
  | pedestrian
  | trafficLight
  | speedLimitSign
deriving Repr, DecidableEq

namespace AgentKind

/-- The kind of an agent, without what is known about it. -/
def species : AgentKind α → Species
  | vehicle .. => .vehicle
  | pedestrian .. => .pedestrian
  | trafficLight .. => .trafficLight
  | speedLimitSign .. => .speedLimitSign

/-- Vehicles are told by their species. -/
theorem isVehicle_eq (kind : AgentKind α) : kind.isVehicle = (kind.species == .vehicle) := by
  cases kind <;> rfl

/-- Pedestrians are told by their species. -/
theorem isPedestrian_eq (kind : AgentKind α) :
    kind.isPedestrian = (kind.species == .pedestrian) := by
  cases kind <;> rfl

/-- **What an agent is at another time.** -/
inductive Persists : AgentKind α → AgentKind α → Prop
  /-- A vehicle moves, at its own speed. -/
  | vehicle (here there : Pose α) (speed : α) :
    Persists (.vehicle here speed) (.vehicle there speed)
  /-- A pedestrian moves, at its own speed. -/
  | pedestrian (here there : Pose α) (speed : α) :
    Persists (.pedestrian here speed) (.pedestrian there speed)
  /-- A light stays where it is, and may show another signal. -/
  | trafficLight (pose : Pose α) (before after : Signal) :
    Persists (.trafficLight pose before) (.trafficLight pose after)
  /-- The sign stays where it is, and says what it said. -/
  | speedLimitSign (pose : Pose α) (limit : α) :
    Persists (.speedLimitSign pose limit) (.speedLimitSign pose limit)

/-- Every agent is at every time what it is. -/
theorem Persists.refl (kind : AgentKind α) : kind.Persists kind := by
  cases kind with
  | vehicle pose speed => exact .vehicle pose pose speed
  | pedestrian pose speed => exact .pedestrian pose pose speed
  | trafficLight pose signal => exact .trafficLight pose signal signal
  | speedLimitSign pose limit => exact .speedLimitSign pose limit

end AgentKind

/-- **Whether two reports are about one agent**, at times of one episode. -/
def Agent.Persists (a b : Agent α) : Prop := a.id = b.id ∧ a.kind.Persists b.kind

/-- A light persists, whatever the time. -/
theorem Light.persists_report (l : Light α) (time later : UInt64) :
    (l.report time).Persists (l.report later) :=
  ⟨rfl, .trafficLight _ _ _⟩

section

variable [Scalar α]

/-- Agents of one role and speed are one agent, wherever they are on their course. -/
theorem Role.persists_kind (role : Role) {c c' : Course α} (h : c.speed = c'.speed) :
    (role.kind c).Persists (role.kind c') := by
  cases role with
  | vehicle => rw [Role.kind, Role.kind, h]; exact .vehicle _ _ _
  | pedestrian => rw [Role.kind, Role.kind, h]; exact .pedestrian _ _ _

/-- A moving agent persists, whatever time passes. -/
theorem Mover.persists_report (m : Mover α) (ticks later : List Duration) :
    (m.after ticks).report.Persists (m.after later).report :=
  ⟨rfl, m.role.persists_kind (by rw [Mover.after, Mover.after, Course.speed_after,
    Course.speed_after])⟩

end

/-! ## Frames with a full roster -/

/-- **Whether a frame has a full roster**: so many vehicles, so many pedestrians, the four lights
and the sign, numbered in this order. -/
structure Frame.IsFull (f : Frame α) (vehicles pedestrians : Nat) : Prop where
  species : f.agents.map (·.kind.species)
    = List.replicate vehicles .vehicle ++ List.replicate pedestrians .pedestrian
      ++ List.replicate 4 .trafficLight ++ [.speedLimitSign]
  ids : f.agents.map (·.id.toNat) = List.range (vehicles + pedestrians + 5)
  distinct : (f.agents.map (·.id)).Nodup
  vehicleCount : f.vehicleCount = vehicles
  pedestrianCount : f.pedestrianCount = pedestrians
  drawnVehicles : f.partition.vehicles.length = vehicles
  drawnPedestrians : f.partition.pedestrians.length = pedestrians

namespace Frame

variable {f : Frame α} {vehicles pedestrians : Nat}

/-- The kinds and the numbers determine how many there are of each kind. -/
theorem IsFull.of_species
    (species : f.agents.map (·.kind.species)
      = List.replicate vehicles .vehicle ++ List.replicate pedestrians .pedestrian
        ++ List.replicate 4 .trafficLight ++ [.speedLimitSign])
    (ids : f.agents.map (·.id.toNat) = List.range (vehicles + pedestrians + 5)) :
    f.IsFull vehicles pedestrians := by
  -- All counts can be read off the species.
  have count (s : Species) : f.agents.countP (·.kind.species == s)
      = (f.agents.map (·.kind.species)).count s := by
    rw [List.count, List.countP_map]
    rfl
  have hvehicles : f.vehicleCount = vehicles := by
    rw [Frame.vehicleCount]
    simp only [AgentKind.isVehicle_eq, count, species]
    simp [List.count_replicate]
  have hpedestrians : f.pedestrianCount = pedestrians := by
    rw [Frame.pedestrianCount]
    simp only [AgentKind.isPedestrian_eq, count, species]
    simp [List.count_replicate]
  have hdistinct : (f.agents.map (·.id)).Nodup := by
    refine List.Nodup.of_map UInt32.toNat ?_
    rw [List.map_map]
    exact ids ▸ List.nodup_range
  exact {
    species, ids
    distinct := hdistinct
    vehicleCount := hvehicles
    pedestrianCount := hpedestrians
    drawnVehicles := by rw [length_partition_vehicles, hvehicles]
    drawnPedestrians := by rw [length_partition_pedestrians, hpedestrians] }

end Frame

namespace Episode

variable [Scalar α] {town : Town α} {settings : Settings} {drawn : Seeds} {e : Episode α}

/-- **Agents keep their numbers**, and stay what they are, whatever time passes. -/
theorem persists_agents (e : Episode α) (ticks later : List Duration) :
    List.Forall₂ Agent.Persists (e.after ticks).agents (e.after later).agents := by
  simp only [agents, reportsAgents_after, movers_after, lights_after, signs_after, List.map_map]
  split
  case isFalse => exact .nil
  case isTrue =>
    refine List.rel_append (List.rel_append ?movers ?lights) ?signs
    case movers =>
      rw [List.forall₂_map_left_iff, List.forall₂_map_right_iff]
      exact List.forall₂_same.mpr fun m _ => m.persists_report ticks later
    case lights =>
      rw [List.forall₂_map_left_iff, List.forall₂_map_right_iff]
      exact List.forall₂_same.mpr fun l _ => l.persists_report _ _
    case signs => exact List.forall₂_same.mpr fun a _ => ⟨rfl, .refl a.kind⟩

/-- What the agents of an episode are, in the order of their numbers. -/
def roster (e : Episode α) : List (AgentKind α) :=
  e.vehicles.map Role.vehicle.kind ++ e.pedestrians.map Role.pedestrian.kind
    ++ (e.lightKinds ++ [e.town.sign])

/-- The agents of an episode in order are its roster, numbered from zero on. -/
theorem agents_frame_eq_numbered (h : e.InOrder) (reports : e.reportsAgents = true) (now : Int64) :
    (e.frame now).agents = Agent.numbered 0 e.roster := by
  rw [agents_frame h, if_pos reports, roster, Agent.numbered_append 0,
    Agent.numbered_append 0 (e.vehicles.map _), List.length_append, List.length_map,
    List.length_map, Nat.zero_add, Nat.zero_add]
  rfl

/-- The roster has the vehicles, the pedestrians, four lights and the sign. -/
theorem species_roster (e : Episode α) :
    e.roster.map (·.species)
      = List.replicate e.vehicles.length .vehicle
        ++ List.replicate e.pedestrians.length .pedestrian
        ++ List.replicate 4 .trafficLight ++ [.speedLimitSign] := by
  have hlights : e.lightKinds.map (·.species) = List.replicate 4 .trafficLight := rfl
  simp only [roster, List.map_append, hlights, List.map_map, List.map_cons, List.map_nil,
    ← List.append_assoc]
  congr 2
  rw [← List.map_const', ← List.map_const']
  rfl

/-- The roster has five agents besides those that move. -/
theorem length_roster (e : Episode α) :
    e.roster.length = e.vehicles.length + e.pedestrians.length + 5 := by
  rw [← List.length_map (·.species), species_roster]
  simp [Nat.add_assoc]

/-- Every frame of an episode in order that reports its agents has a full roster, if the numbers
fit. -/
theorem isFull_frame (h : e.InOrder) (reports : e.reportsAgents = true)
    (few : e.vehicles.length + e.pedestrians.length + 5 < UInt32.size) (now : Int64) :
    (e.frame now).IsFull e.vehicles.length e.pedestrians.length := by
  have hagents := agents_frame_eq_numbered h reports now
  refine .of_species ?species ?ids
  case species =>
    rw [hagents, ← species_roster, ← Agent.map_kind_numbered 0 e.roster, List.map_map,
      Agent.map_kind_numbered]
    rfl
  case ids =>
    rw [hagents, ← length_roster]
    exact Agent.ids_numbered (by rwa [length_roster])

/-- **The roster never changes.** Every frame of an episode that reports its agents has the vehicles
and pedestrians that were asked for, the four lights and the sign, numbered in this order; and in
any two frames, agents with the same place in the list have the same number and are the same but
for the poses of what moves and the signals of lights. An episode that does not report its agents
never reports any. -/
theorem isFull_of_begin (hbegin : begin town settings drawn = some e)
    (few : settings.vehicles.toNat + settings.pedestrians.toNat + 5 < 2 ^ 32) :
    (settings.reportsAgents = true → ∀ ticks now,
      ((e.after ticks).frame now).IsFull settings.vehicles.toNat settings.pedestrians.toNat
        ∧ ∀ later again, List.Forall₂ (fun a b => a.id = b.id ∧ a.kind.Persists b.kind)
          ((e.after ticks).frame now).agents ((e.after later).frame again).agents)
    ∧ (settings.reportsAgents = false → ∀ ticks now,
      ((e.after ticks).frame now).agents = []) := by
  obtain ⟨-, -, hreports⟩ := drawn_of_begin hbegin
  -- Ticks move the cast of the episode and change nobody's number.
  have hvehicles (ticks : List Duration) :
      (e.after ticks).vehicles.length = settings.vehicles.toNat := by
    rw [vehicles_after, List.length_map, length_vehicles_of_begin hbegin]
  have hpedestrians (ticks : List Duration) :
      (e.after ticks).pedestrians.length = settings.pedestrians.toNat := by
    rw [pedestrians_after, List.length_map, length_pedestrians_of_begin hbegin]
  constructor
  · intro reports ticks now
    refine ⟨?full, fun later again => persists_agents e ticks later⟩
    rw [← hvehicles ticks, ← hpedestrians ticks]
    refine isFull_frame ((inOrder_of_begin hbegin).after ticks) ?_ ?_ now
    · rw [reportsAgents_after, hreports, reports]
    · rwa [hvehicles, hpedestrians]
  · intro silent ticks now
    show (e.after ticks).agents = []
    rw [agents, reportsAgents_after, hreports, silent]
    rfl

/-! ### Two vehicles and a pedestrian -/

/-- An episode with two vehicles and a pedestrian can begin. -/
theorem exists_begin_peopled : ∃ e, begin Town.served (.peopled 2 1) default = some e :=
  ⟨_, Staged.trio.begins⟩

/-- Two vehicles, a pedestrian, four lights and the sign keep the numbers from zero to seven. -/
theorem isFull_of_begin_peopled : ∃ e,
    begin Town.served (.peopled 2 1) default = some e ∧ 2 + 1 + 5 < 2 ^ 32
      ∧ ∀ ticks now, ((e.after ticks).frame now).IsFull 2 1
        ∧ ∀ later again, List.Forall₂ (fun a b => a.id = b.id ∧ a.kind.Persists b.kind)
          ((e.after ticks).frame now).agents ((e.after later).frame again).agents := by
  obtain ⟨e, hbegin⟩ := exists_begin_peopled
  exact ⟨e, hbegin, by decide, (isFull_of_begin hbegin (by decide)).1 rfl⟩

end Episode

end TownTraffic
