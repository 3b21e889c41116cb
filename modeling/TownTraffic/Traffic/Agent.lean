import TownTraffic.Geometry.Vector

/-!
# What moves and stands in a town

A `Frame` is one report about everything in the town but the player: when it was made, and each
agent with its pose. Agents of four kinds occur; only the moving ones are ever drawn.

* **`Pose`** — a place and an attitude; **`Pose.upright`** the upright one.
* **`Agent`**, **`AgentKind`** — an agent, and what it is.
* **`Frame`** — a report; **`Frame.partition`** its pedestrians and vehicles.
-/

namespace TownTraffic

/-- Angles about the three axes, in degrees. -/
structure Attitude (α : Type) where
  pitch : α
  yaw : α
  roll : α
deriving Repr, DecidableEq, Inhabited

/-- A place and an attitude. -/
structure Pose (α : Type) where
  location : Vec3 α
  attitude : Attitude α
deriving Repr, DecidableEq, Inhabited

/-- Upright at a place, heading in a direction. -/
def Pose.upright {α : Type} [Scalar α] (location : Vec3 α) (yaw : α) : Pose α :=
  ⟨location, Scalar.ofNat 0, yaw, Scalar.ofNat 0⟩

/-- What a traffic light shows. -/
inductive Signal where
  | green
  | yellow
  | red
deriving Repr, DecidableEq, Inhabited

/-- What an agent is, and what is known about one of its kind. -/
inductive AgentKind (α : Type) where
  | vehicle (pose : Pose α) (speed : α)
  | pedestrian (pose : Pose α) (speed : α)
  | speedLimitSign (pose : Pose α) (limit : α)
  | trafficLight (pose : Pose α) (signal : Signal)
deriving Repr, DecidableEq, Inhabited

/-- An agent. -/
structure Agent (α : Type) where
  id : UInt32
  kind : AgentKind α
deriving Repr, DecidableEq, Inhabited

namespace AgentKind

variable {α : Type}

/-- Where the agent is. -/
def pose : AgentKind α → Pose α
  | vehicle pose _ | pedestrian pose _ | speedLimitSign pose _ | trafficLight pose _ => pose

/-- Whether this is a vehicle. -/
def isVehicle : AgentKind α → Bool
  | vehicle .. => true
  | _ => false

/-- Whether this is a pedestrian. -/
def isPedestrian : AgentKind α → Bool
  | pedestrian .. => true
  | _ => false

end AgentKind

/-- One report about all agents but the player. -/
structure Frame (α : Type) where
  number : UInt64
  /-- When the report was made, in milliseconds since 1970. -/
  reportedAt : Int64
  /-- The time passed in the town, in milliseconds. -/
  gameTime : UInt64
  agents : List (Agent α)
deriving Repr, DecidableEq, Inhabited

/-! ## What is drawn of a frame -/

/-- The place and heading of a vehicle. -/
structure Bearing (α : Type) where
  position : Vec3 α
  yaw : α
deriving Repr, DecidableEq, Inhabited

/-- The moving agents of a frame, apart by kind. -/
structure Partition (α : Type) where
  pedestrians : List (Vec3 α)
  vehicles : List (Bearing α)
deriving Repr, DecidableEq, Inhabited

namespace Frame

variable {α : Type}

/-- The place of a pedestrian; none for any other agent. -/
def pedestrian? (a : Agent α) : Option (Vec3 α) :=
  match a.kind with
  | .pedestrian pose _ => some pose.location
  | _ => none

/-- The bearing of a vehicle; none for any other agent. -/
def vehicle? (a : Agent α) : Option (Bearing α) :=
  match a.kind with
  | .vehicle pose _ => some ⟨pose.location, pose.attitude.yaw⟩
  | _ => none

/-- The pedestrians and the vehicles of a frame, each in the frame's order. -/
def partition (f : Frame α) : Partition α :=
  ⟨f.agents.filterMap pedestrian?, f.agents.filterMap vehicle?⟩

/-- The number of pedestrians. -/
def pedestrianCount (f : Frame α) : Nat := f.agents.countP (·.kind.isPedestrian)

/-- The number of vehicles. -/
def vehicleCount (f : Frame α) : Nat := f.agents.countP (·.kind.isVehicle)

/-- The partition has every pedestrian. -/
@[simp] theorem length_partition_pedestrians (f : Frame α) :
    f.partition.pedestrians.length = f.pedestrianCount := by
  simp only [partition, pedestrianCount]
  induction f.agents with
  | nil => rfl
  | cons a as ih => cases h : a.kind <;> simp_all [pedestrian?, AgentKind.isPedestrian]

/-- The partition has every vehicle. -/
@[simp] theorem length_partition_vehicles (f : Frame α) :
    f.partition.vehicles.length = f.vehicleCount := by
  simp only [partition, vehicleCount]
  induction f.agents with
  | nil => rfl
  | cons a as ih => cases h : a.kind <;> simp_all [vehicle?, AgentKind.isVehicle]

end Frame

end TownTraffic
