import TownTraffic.Traffic.Episode

/-!
# The cast of an episode is in order

All agents are numbered from one counter, when their turn comes: the vehicles first, then the
pedestrians, the lights and the sign. Nobody joins or leaves afterwards, and nobody is numbered
anew. So the numbers of every later frame still count up from zero, in the order of the frame.

* **`Mover.drawMany_eq`**, **`Light.setUp_eq`** — what is set up is numbered on, and the counter has
  passed just these numbers by then.
* **`Episode.InOrder`** — the agents of an episode are numbered in order;
  **`Episode.inOrder_of_begin`** they are at the start, and **`Episode.InOrder.tick`** remain so.
* **`Episode.after`** — an episode after ticks of any lengths; **`Mover.after`** a moving agent
  then.
* **`Episode.agents_frame`** — what frames of such an episode report.
-/

namespace TownTraffic

open Chance (Keystream)

variable {α : Type}

/-! ## The counter -/

namespace Numbers

/-- The numbers from a number on, as long as they fit. -/
def startingAt (first : Nat) : Numbers := ⟨first.toUInt32⟩

/-- The first of all numbers is zero. -/
theorem all_eq : all = startingAt 0 := rfl

/-- Every number is given once. -/
@[simp] theorem take_startingAt (first : Nat) :
    (startingAt first).take = (first.toUInt32, startingAt (first + 1)) := by
  simp [take, startingAt]

end Numbers

/-! ## Agents in a row -/

/-- Agents of some kinds, numbered from a number on. -/
def Agent.numbered (first : Nat) (kinds : List (AgentKind α)) : List (Agent α) :=
  kinds.mapIdx fun i kind => ⟨(first + i).toUInt32, kind⟩

namespace Agent

/-- The first agent has the first number, and the others go on from there. -/
@[simp] theorem numbered_cons (first : Nat) (kind : AgentKind α) (kinds : List (AgentKind α)) :
    numbered first (kind :: kinds) = ⟨first.toUInt32, kind⟩ :: numbered (first + 1) kinds := by
  simp [numbered, List.mapIdx_cons, Nat.add_assoc, Nat.add_comm 1]

variable {p : AgentKind α → Bool} {kinds : List (AgentKind α)} {first : Nat}

/-- Agents are numbered on over two lists as over one. -/
theorem numbered_append (first : Nat) (kinds others : List (AgentKind α)) :
    numbered first (kinds ++ others)
      = numbered first kinds ++ numbered (first + kinds.length) others := by
  simp [numbered, List.mapIdx_append, Nat.add_left_comm, Nat.add_comm]

/-- The kinds of numbered agents are those that have been numbered. -/
theorem kind_mem_of_mem_numbered {a : Agent α} (h : a ∈ numbered first kinds) :
    a.kind ∈ kinds := by
  obtain ⟨i, hi, rfl⟩ := List.mem_mapIdx.mp h
  exact List.getElem_mem hi

/-- Numbering agents leaves their kinds alone. -/
theorem map_kind_numbered (first : Nat) (kinds : List (AgentKind α)) :
    (numbered first kinds).map (·.kind) = kinds :=
  List.ext_getElem (by simp [numbered]) fun i _ _ => by simp [numbered]

/-- Agents that are all of the kind looked for are all found. -/
theorem filter_numbered_of_all (h : ∀ kind ∈ kinds, p kind = true) :
    (numbered first kinds).filter (p ·.kind) = numbered first kinds :=
  List.filter_eq_self.mpr fun _ ha => h _ (kind_mem_of_mem_numbered ha)

/-- Agents none of which is of the kind looked for are passed over. -/
theorem filter_numbered_of_none (h : ∀ kind ∈ kinds, p kind = false) :
    (numbered first kinds).filter (p ·.kind) = [] :=
  List.filter_eq_nil_iff.mpr fun _ ha => by simp [h _ (kind_mem_of_mem_numbered ha)]

/-- Numbers count up as long as they fit. -/
theorem ids_numbered (h : kinds.length < UInt32.size) :
    (numbered 0 kinds).map (·.id.toNat) = List.range kinds.length := by
  refine List.ext_getElem (by simp [numbered]) fun i hi hi' => ?_
  rw [List.length_range] at hi'
  simp only [numbered, List.getElem_map, List.getElem_mapIdx, List.getElem_range, Nat.zero_add]
  exact UInt32.toNat_ofNat_of_lt (Nat.lt_trans hi' h)

end Agent

/-! ## Moving agents in a row -/

namespace Mover

/-- Moving agents of a role, numbered from a number on. -/
def numbered (role : Role) (first : Nat) (courses : List (Course α)) : List (Mover α) :=
  courses.mapIdx fun i course => ⟨(first + i).toUInt32, role, course⟩

/-- The courses of the moving agents of a role. -/
def courses (role : Role) (movers : List (Mover α)) : List (Course α) :=
  (movers.filter (·.role = role)).map (·.course)

variable (role : Role) (first : Nat) (c : Course α) (cs : List (Course α))

/-- The first moving agent has the first number, and the others go on from there. -/
@[simp] theorem numbered_cons :
    numbered role first (c :: cs) = ⟨first.toUInt32, role, c⟩ :: numbered role (first + 1) cs := by
  simp [numbered, List.mapIdx_cons, Nat.add_assoc, Nat.add_comm 1]

/-- Moving agents have the courses they have been numbered with. -/
@[simp] theorem courses_numbered : courses role (numbered role first cs) = cs := by
  induction cs generalizing first with
  | nil => rfl
  | cons c cs ih =>
    have ih := ih (first + 1)
    rw [courses] at ih ⊢
    simp [ih]

/-- Moving agents of one role have no courses of the other. -/
theorem courses_numbered_of_ne {other : Role} (ne : role ≠ other) :
    courses other (numbered role first cs) = [] := by
  rw [courses, List.filter_eq_nil_iff.mpr, List.map_nil]
  intro m hm
  obtain ⟨i, hi, rfl⟩ := List.mem_mapIdx.mp hm
  simpa using ne

/-- The courses of a role are those in the front and those in the back. -/
theorem courses_append (movers others : List (Mover α)) :
    courses role (movers ++ others) = courses role movers ++ courses role others := by
  simp [courses]

/-- A change of all courses is one of the courses of each role. -/
theorem courses_map (f : Course α → Course α) (movers : List (Mover α)) :
    courses role (movers.map fun m => { m with course := f m.course })
      = (courses role movers).map f := by
  simp only [courses, List.filter_map, List.map_map]
  rfl

/-- **Moving agents that are drawn are numbered on**, and the counter has passed them by then. -/
theorem drawMany_eq (draw : Keystream → Option (Course α × Keystream)) (n : Nat) (s : Keystream) :
    drawMany role draw n s (.startingAt first)
      = (Keystream.many draw n s).map fun courses =>
          (numbered role first courses, .startingAt (first + n)) := by
  induction n generalizing s first with
  | zero => rfl
  | succ n ih =>
    rw [drawMany, Keystream.many]
    cases draw s with
    | none => rfl
    | some drawn =>
      simp only [Numbers.take_startingAt, Option.bind_eq_bind, Option.bind_some, ih]
      cases Keystream.many draw n drawn.2 with
      | none => rfl
      | some others => simp [Nat.add_assoc, Nat.add_comm 1]

variable [Scalar α]

/-- Going on changes neither the role nor the number. -/
theorem map_advance_numbered (seconds : α) :
    (numbered role first cs).map (·.advance seconds)
      = numbered role first (cs.map (·.advance seconds)) := by
  induction cs generalizing first with
  | nil => rfl
  | cons c cs ih =>
    rw [numbered_cons, List.map_cons, ih, List.map_cons, numbered_cons]
    rfl

/-- Moving agents are reported under their own numbers. -/
theorem map_report_numbered :
    (numbered role first cs).map report = Agent.numbered first (cs.map role.kind) := by
  induction cs generalizing first with
  | nil => rfl
  | cons c cs ih =>
    rw [numbered_cons, List.map_cons, ih, List.map_cons, Agent.numbered_cons]
    rfl

end Mover

/-! ## Lights in a row -/

namespace Light

variable [Scalar α]

/-- Lights at corners, numbered from a number on. -/
def numbered (corner first : Nat) (places : List (Vec2 α)) : List (Light α) :=
  places.mapIdx fun i place =>
    ⟨(first + i).toUInt32, .upright (.onGround place) (Scalar.ofNat 0), Signal.lead (corner + i)⟩

/-- **Lights that are set up are numbered on**, and the counter has passed them by then. -/
theorem setUp_eq (corner first : Nat) (places : List (Vec2 α)) :
    setUp corner places (.startingAt first)
      = (numbered corner first places, .startingAt (first + places.length)) := by
  induction places generalizing corner first with
  | nil => rfl
  | cons place places ih =>
    simp [setUp, ih, numbered, List.mapIdx_cons, Nat.add_assoc, Nat.add_comm 1]

/-- Lights are reported under their own numbers. -/
theorem map_report_numbered (time : UInt64) (corner first : Nat) (places : List (Vec2 α)) :
    (numbered corner first places).map (report time)
      = Agent.numbered first (places.mapIdx fun i place =>
          .trafficLight (.upright (.onGround place) (Scalar.ofNat 0))
            (.shown time (Signal.lead (corner + i)))) := by
  refine List.ext_getElem (by simp [numbered, Agent.numbered]) fun i _ _ => ?_
  simp [numbered, Agent.numbered, report]

end Light

namespace Frame

/-- The vehicles of a frame. -/
def vehicles (f : Frame α) : List (Agent α) := f.agents.filter (·.kind.isVehicle)

/-- The pedestrians of a frame. -/
def pedestrians (f : Frame α) : List (Agent α) := f.agents.filter (·.kind.isPedestrian)

end Frame

/-! ## Agents as time passes -/

section

variable [Scalar α]

/-- A course after the time of some ticks. -/
def Course.after (c : Course α) (ticks : List Duration) : Course α :=
  ticks.foldl (fun c d => c.advance d.inSeconds) c

namespace Course

/-- The time of a tick passes first, then that of the others. -/
theorem after_cons (c : Course α) (d : Duration) (ticks : List Duration) :
    c.after (d :: ticks) = (c.advance d.inSeconds).after ticks := rfl

/-- An agent never changes its route. -/
@[simp] theorem route_after (c : Course α) (ticks : List Duration) :
    (c.after ticks).route = c.route := by
  induction ticks generalizing c with
  | nil => rfl
  | cons d ticks ih => rw [after_cons, ih, route_advance]

/-- An agent never changes its speed. -/
@[simp] theorem speed_after (c : Course α) (ticks : List Duration) :
    (c.after ticks).speed = c.speed := by
  induction ticks generalizing c with
  | nil => rfl
  | cons d ticks ih => rw [after_cons, ih, speed_advance]

end Course

/-- A moving agent after the time of some ticks. -/
def Mover.after (m : Mover α) (ticks : List Duration) : Mover α :=
  { m with course := m.course.after ticks }

end

/-! ## Episodes in order -/

/-- Settings that give both seeds leave none open. -/
theorem Settings.seeds_of_isSeeded {settings : Settings} (h : settings.isSeeded)
    (drawn other : Seeds) : settings.seeds drawn = settings.seeds other := by
  simp only [isSeeded, Bool.and_eq_true, Option.isSome_iff_exists] at h
  obtain ⟨⟨v, hv⟩, w, hw⟩ := h
  simp [seeds, hv, hw]

/-- What viewers of any episode are told about its town. -/
def Town.description [Scalar α] (t : Town α) : TownDescription α := ⟨t.name, t.startSpots⟩

namespace Episode

/-- The courses of the vehicles. -/
def vehicles (e : Episode α) : List (Course α) := Mover.courses .vehicle e.movers

/-- The courses of the pedestrians. -/
def pedestrians (e : Episode α) : List (Course α) := Mover.courses .pedestrian e.movers

variable [Scalar α]

/-- **An episode in order.** Its agents are numbered from zero on: vehicles, pedestrians, lights and
the sign; and what stands still stands where the town has it. -/
structure InOrder (e : Episode α) : Prop where
  movers_eq : e.movers = Mover.numbered .vehicle 0 e.vehicles
    ++ Mover.numbered .pedestrian e.vehicles.length e.pedestrians
  lights_eq : e.lights = Light.numbered 0 (e.vehicles.length + e.pedestrians.length)
    e.town.bounds.corners.toList
  signs_eq : e.signs = [⟨(e.vehicles.length + e.pedestrians.length + 4).toUInt32, e.town.sign⟩]
  startSpots_eq : e.startSpots = e.town.startSpots

/-! ### The start -/

section

variable {town : Town α} {settings : Settings} {drawn : Seeds} {e : Episode α}

/-- An episode with both seeds given begins in one way only. -/
theorem begin_of_isSeeded {settings : Settings} (h : settings.isSeeded) (town : Town α)
    (drawn other : Seeds) : begin town settings drawn = begin town settings other := by
  simp only [begin, Settings.seeds_of_isSeeded h drawn other]

/-- An episode with a given cast, in order. -/
def setUp (town : Town α) (vehicles pedestrians : List (Course α)) (reportsAgents : Bool) :
    Episode α where
  town
  frameNumber := 0
  gameTime := 0
  movers := Mover.numbered .vehicle 0 vehicles
    ++ Mover.numbered .pedestrian vehicles.length pedestrians
  lights := Light.numbered 0 (vehicles.length + pedestrians.length) town.bounds.corners.toList
  signs := [⟨(vehicles.length + pedestrians.length + 4).toUInt32, town.sign⟩]
  startSpots := town.startSpots
  reportsAgents

/-- **An episode begins with the cast that is drawn, numbered by the counter.** -/
theorem begin_eq (town : Town α) (settings : Settings) (drawn : Seeds) :
    begin town settings drawn
      = (Keystream.many (Course.drawVehicle town) settings.vehicles.toNat
          (.ofSeed (settings.seeds drawn).vehicles)).bind fun vehicles =>
        (Keystream.many (Course.drawPedestrian town) settings.pedestrians.toNat
          (.ofSeed (settings.seeds drawn).pedestrians)).map fun pedestrians =>
        setUp town vehicles pedestrians settings.reportsAgents := by
  rw [begin, Numbers.all_eq]
  simp only [Mover.drawMany_eq]
  cases hvehicles : Keystream.many (Course.drawVehicle town) settings.vehicles.toNat
      (.ofSeed (settings.seeds drawn).vehicles) with
  | none => rfl
  | some vehicles =>
    cases hpedestrians : Keystream.many (Course.drawPedestrian town) settings.pedestrians.toNat
        (.ofSeed (settings.seeds drawn).pedestrians) with
    | none => simp [hpedestrians, Mover.drawMany_eq]
    | some pedestrians =>
      -- Lights and sign are numbered behind all that have been drawn.
      have hlength := Keystream.length_of_many hvehicles
      have hlength' := Keystream.length_of_many hpedestrians
      simp [hpedestrians, Mover.drawMany_eq, Light.setUp_eq, Town.setUpSign, setUp, hlength,
        hlength']

/-- The vehicles of an episode that is set up have the courses that were drawn. -/
@[simp] theorem vehicles_setUp (vehicles pedestrians : List (Course α)) (reportsAgents : Bool) :
    (setUp town vehicles pedestrians reportsAgents).vehicles = vehicles := by
  rw [Episode.vehicles, setUp, Mover.courses_append, Mover.courses_numbered,
    Mover.courses_numbered_of_ne _ _ _ (by decide), List.append_nil]

/-- The pedestrians of an episode that is set up have the courses that were drawn. -/
@[simp] theorem pedestrians_setUp (vehicles pedestrians : List (Course α)) (reportsAgents : Bool) :
    (setUp town vehicles pedestrians reportsAgents).pedestrians = pedestrians := by
  rw [Episode.pedestrians, setUp, Mover.courses_append, Mover.courses_numbered,
    Mover.courses_numbered_of_ne _ _ _ (by decide), List.nil_append]

/-- What an episode begins with: as many moving agents as asked for, drawn from the seeds. -/
theorem drawn_of_begin (h : begin town settings drawn = some e) :
    Keystream.many (Course.drawVehicle town) settings.vehicles.toNat
        (.ofSeed (settings.seeds drawn).vehicles) = some e.vehicles
      ∧ Keystream.many (Course.drawPedestrian town) settings.pedestrians.toNat
        (.ofSeed (settings.seeds drawn).pedestrians) = some e.pedestrians
      ∧ e.reportsAgents = settings.reportsAgents := by
  rw [begin_eq, Option.bind_eq_some_iff] at h
  obtain ⟨vehicles, hvehicles, h⟩ := h
  obtain ⟨pedestrians, hpedestrians, rfl⟩ := Option.map_eq_some_iff.mp h
  rw [vehicles_setUp, pedestrians_setUp]
  exact ⟨hvehicles, hpedestrians, rfl⟩

/-- As many vehicles are drawn as asked for. -/
theorem length_vehicles_of_begin (h : begin town settings drawn = some e) :
    e.vehicles.length = settings.vehicles.toNat :=
  Keystream.length_of_many (drawn_of_begin h).1

/-- As many pedestrians are drawn as asked for. -/
theorem length_pedestrians_of_begin (h : begin town settings drawn = some e) :
    e.pedestrians.length = settings.pedestrians.toNat :=
  Keystream.length_of_many (drawn_of_begin h).2.1

/-- A new episode is set up with some cast. -/
theorem exists_setUp_of_begin (h : begin town settings drawn = some e) :
    ∃ vehicles pedestrians, e = setUp town vehicles pedestrians settings.reportsAgents := by
  obtain ⟨hvehicles, hpedestrians, -⟩ := drawn_of_begin h
  rw [begin_eq, hvehicles, hpedestrians] at h
  exact ⟨_, _, (Option.some.inj h).symm⟩

/-- The clock of a new episode stands at zero. -/
theorem of_begin (h : begin town settings drawn = some e) :
    e.town = town ∧ e.frameNumber = 0 ∧ e.gameTime = 0 := by
  obtain ⟨vehicles, pedestrians, rfl⟩ := exists_setUp_of_begin h
  exact ⟨rfl, rfl, rfl⟩

/-- What is set up is in order. -/
theorem inOrder_setUp (vehicles pedestrians : List (Course α)) (reportsAgents : Bool) :
    (setUp town vehicles pedestrians reportsAgents).InOrder where
  movers_eq := by rw [vehicles_setUp, pedestrians_setUp]; rfl
  lights_eq := by rw [vehicles_setUp, pedestrians_setUp]; rfl
  signs_eq := by rw [vehicles_setUp, pedestrians_setUp]; rfl
  startSpots_eq := rfl

/-- **A new episode is in order.** -/
theorem inOrder_of_begin (h : begin town settings drawn = some e) : e.InOrder := by
  obtain ⟨vehicles, pedestrians, rfl⟩ := exists_setUp_of_begin h
  exact inOrder_setUp vehicles pedestrians settings.reportsAgents

/-- Viewers are told about the town what there is to tell about it. -/
theorem description_of_begin (h : begin town settings drawn = some e) :
    e.description = town.description := by
  obtain ⟨vehicles, pedestrians, rfl⟩ := exists_setUp_of_begin h
  rfl

end

/-! ### Ticks -/

section

variable (e : Episode α) (d : Duration)

/-- A tick makes the next frame. -/
@[simp] theorem frameNumber_tick : (e.tick d).frameNumber = e.frameNumber + 1 := rfl

/-- A tick moves every vehicle on. -/
@[simp] theorem vehicles_tick :
    (e.tick d).vehicles = e.vehicles.map (·.advance d.inSeconds) :=
  Mover.courses_map _ (·.advance d.inSeconds) _

/-- A tick moves every pedestrian on. -/
@[simp] theorem pedestrians_tick :
    (e.tick d).pedestrians = e.pedestrians.map (·.advance d.inSeconds) :=
  Mover.courses_map _ (·.advance d.inSeconds) _

end

/-- **An episode remains in order.** -/
theorem InOrder.tick {e : Episode α} (h : e.InOrder) (d : Duration) : (e.tick d).InOrder where
  movers_eq := by
    rw [vehicles_tick, pedestrians_tick, List.length_map, ← Mover.map_advance_numbered,
      ← Mover.map_advance_numbered, ← List.map_append, ← h.movers_eq]
    rfl
  lights_eq := by
    rw [vehicles_tick, pedestrians_tick, List.length_map, List.length_map]
    exact h.lights_eq
  signs_eq := by
    rw [vehicles_tick, pedestrians_tick, List.length_map, List.length_map]
    exact h.signs_eq
  startSpots_eq := h.startSpots_eq

/-! ### Ticks of any lengths -/

/-- An episode after some ticks, each of a length of its own. -/
def after (e : Episode α) (ticks : List Duration) : Episode α := ticks.foldl tick e

/-- The first tick comes first. -/
theorem after_cons (e : Episode α) (d : Duration) (ticks : List Duration) :
    e.after (d :: ticks) = (e.tick d).after ticks := rfl

/-- **What every tick preserves is preserved.** -/
theorem after_induction {P : Episode α → Prop} (step : ∀ e d, P e → P (e.tick d)) {e : Episode α}
    (start : P e) (ticks : List Duration) : P (e.after ticks) := by
  induction ticks generalizing e with
  | nil => exact start
  | cons d ticks ih => exact ih (step e d start)

/-- What no tick changes is never changed. -/
theorem eq_after_of_tick {β : Type} {f : Episode α → β} (unchanged : ∀ e d, f (e.tick d) = f e)
    (e : Episode α) (ticks : List Duration) : f (e.after ticks) = f e :=
  after_induction (P := fun later => f later = f e) (fun later d h => (unchanged later d).trans h)
    rfl ticks

/-- An episode stays in its town. -/
@[simp] theorem town_after (e : Episode α) (ticks : List Duration) :
    (e.after ticks).town = e.town := eq_after_of_tick (fun _ _ => rfl) e ticks

/-- An episode goes on reporting agents, or not. -/
@[simp] theorem reportsAgents_after (e : Episode α) (ticks : List Duration) :
    (e.after ticks).reportsAgents = e.reportsAgents := eq_after_of_tick (fun _ _ => rfl) e ticks

/-- Lights are not set up anew. -/
@[simp] theorem lights_after (e : Episode α) (ticks : List Duration) :
    (e.after ticks).lights = e.lights := eq_after_of_tick (fun _ _ => rfl) e ticks

/-- Signs are not set up anew. -/
@[simp] theorem signs_after (e : Episode α) (ticks : List Duration) :
    (e.after ticks).signs = e.signs := eq_after_of_tick (fun _ _ => rfl) e ticks

/-- Every moving agent goes on by itself. -/
theorem movers_after (e : Episode α) (ticks : List Duration) :
    (e.after ticks).movers = e.movers.map (·.after ticks) := by
  induction ticks generalizing e with
  | nil => exact (List.map_id _).symm
  | cons d ticks ih =>
    rw [after_cons, ih, tick, List.map_map]
    rfl

/-- Every vehicle goes on by itself. -/
theorem vehicles_after (e : Episode α) (ticks : List Duration) :
    (e.after ticks).vehicles = e.vehicles.map (·.after ticks) := by
  rw [vehicles, movers_after]
  exact Mover.courses_map _ (·.after ticks) _

/-- Every pedestrian goes on by itself. -/
theorem pedestrians_after (e : Episode α) (ticks : List Duration) :
    (e.after ticks).pedestrians = e.pedestrians.map (·.after ticks) := by
  rw [pedestrians, movers_after]
  exact Mover.courses_map _ (·.after ticks) _

/-- An episode remains in order whatever time passes. -/
theorem InOrder.after {e : Episode α} (h : e.InOrder) (ticks : List Duration) :
    (e.after ticks).InOrder := after_induction (fun _ d h => h.tick d) h ticks

/-! ### Frames -/

/-- A frame bears the number of its episode. -/
@[simp] theorem number_frame (e : Episode α) (now : Int64) :
    (e.frame now).number = e.frameNumber := rfl

/-- A frame bears the clock of its episode. -/
@[simp] theorem gameTime_frame (e : Episode α) (now : Int64) :
    (e.frame now).gameTime = e.gameTime := rfl

/-- The lights of an episode, as they are reported. -/
def lightKinds (e : Episode α) : List (AgentKind α) :=
  e.town.bounds.corners.toList.mapIdx fun corner place =>
    .trafficLight (.upright (.onGround place) (Scalar.ofNat 0))
      (.shown e.gameTime (Signal.lead corner))

/-- **The agents of an episode in order are numbered from zero on.** -/
theorem agents_frame {e : Episode α} (h : e.InOrder) (now : Int64) :
    (e.frame now).agents = if e.reportsAgents then
      Agent.numbered 0 (e.vehicles.map fun c => .vehicle c.pose c.speed)
        ++ Agent.numbered e.vehicles.length
          (e.pedestrians.map fun c => .pedestrian c.pose c.speed)
        ++ Agent.numbered (e.vehicles.length + e.pedestrians.length)
          (e.lightKinds ++ [e.town.sign])
      else [] := by
  have hlights : Agent.numbered (e.vehicles.length + e.pedestrians.length)
      (e.lightKinds ++ [e.town.sign])
        = e.lights.map (Light.report e.gameTime) ++ e.signs := by
    rw [Agent.numbered_append, h.lights_eq, h.signs_eq, Light.map_report_numbered]
    simp only [Nat.zero_add]
    rfl
  rw [frame, agents, hlights, h.movers_eq, List.map_append, Mover.map_report_numbered,
    Mover.map_report_numbered, List.append_assoc _ _ e.signs]
  rfl

/-- Besides those that move, four lights and the sign are reported. -/
theorem length_agents_frame {e : Episode α} (h : e.InOrder) (reports : e.reportsAgents = true)
    (now : Int64) : (e.frame now).agents.length = e.vehicles.length + e.pedestrians.length + 5 := by
  rw [agents_frame h, if_pos reports]
  simp only [Agent.numbered, List.length_append, List.length_mapIdx, List.length_map]
  rfl

end Episode

end TownTraffic
