import TownTraffic.Json.Variant
import TownTraffic.Geometry.Box
import TownTraffic.Traffic.Settings
import TownTraffic.Traffic.Town

/-!
# How agents, frames and settings travel

The JSON forms of everything that viewer and simulator tell each other about a town. Each form is a
value of `Json.Codec`; the forms of compound values are put together from those of their fields.
-/

namespace TownTraffic

open Json

variable {α : Type} [Wire α]

/-! ## Geometry -/

/-- The fields of a vector of the plane. -/
def Vec2.fields : Fields (α × α × Unit) (Option α × Option α × Unit) :=
  .cons (.required "x") (.cons (.required "y") .nil)

/-- A vector of the plane has two members. -/
instance : Wire (Vec2 α) where
  codec := .record "struct Vector2X" Vec2.fields (fun v => (v.x, v.y, ()))
    fun (x, y, _) => ⟨x, y⟩

/-- The fields of a position. -/
def Vec3.fields : Fields (α × α × α × Unit) (Option α × Option α × Option α × Unit) :=
  .cons (.required "x") (.cons (.required "y") (.cons (.required "z") .nil))

/-- A vector of space has three members. -/
instance : Wire (Vec3 α) where
  codec := .record "struct Vector3X" Vec3.fields (fun v => (v.x, v.y, v.z, ()))
    fun (x, y, z, _) => ⟨x, y, z⟩

/-- The fields of a box. -/
def Box.fields : Fields (Vec2 α × Vec2 α × Unit) (Option (Vec2 α) × Option (Vec2 α) × Unit) :=
  .cons (.required "pos") (.cons (.required "size") .nil)

/-- A box is its corner and its extent. -/
instance : Wire (Box α) where
  codec := .record "struct Rect2X" Box.fields (fun b => (b.corner, b.extent, ()))
    fun (corner, extent, _) => ⟨corner, extent⟩

/-- The fields of an attitude. -/
def Attitude.fields : Fields (α × α × α × Unit) (Option α × Option α × Option α × Unit) :=
  .cons (.required "pitch") (.cons (.required "yaw") (.cons (.required "roll") .nil))

/-- An attitude is three angles. -/
instance : Wire (Attitude α) where
  codec := .record "struct Rotation3D" Attitude.fields (fun a => (a.pitch, a.yaw, a.roll, ()))
    fun (pitch, yaw, roll, _) => ⟨pitch, yaw, roll⟩

/-- The fields of a pose. -/
def Pose.fields :
    Fields (Vec3 α × Attitude α × Unit) (Option (Vec3 α) × Option (Attitude α) × Unit) :=
  .cons (.required "location") (.cons (.required "rotation") .nil)

/-- A pose is a position and an attitude. -/
instance : Wire (Pose α) where
  codec := .record "struct Transform" Pose.fields (fun p => (p.location, p.attitude, ()))
    fun (location, attitude, _) => ⟨location, attitude⟩

/-! ## Agents -/

namespace Signal

/-- The name of a signal. -/
def name : Signal → String
  | green => "Green"
  | yellow => "Yellow"
  | red => "Red"

/-- The three signals, by name. -/
def variants : Variants Signal where
  typeName := "TrafficLightState"
  variants := [.bare "Green" green, .bare "Yellow" yellow, .bare "Red" red]
  spell s := ⟨s.name, none⟩

/-- A signal is one of three names. -/
instance : Wire Signal := ⟨.choice variants⟩

end Signal

namespace AgentKind

/-- The fields of a moving agent. -/
def movingFields : Fields (Pose α × α × Unit) (Option (Pose α) × Option α × Unit) :=
  .cons (.required "transform") (.cons (.required "forward_speed") .nil)

/-- The fields of a speed sign. -/
def signFields : Fields (Pose α × α × Unit) (Option (Pose α) × Option α × Unit) :=
  .cons (.required "transform") (.cons (.required "speed_limit") .nil)

/-- The fields of a traffic light. -/
def lightFields : Fields (Pose α × Signal × Unit) (Option (Pose α) × Option Signal × Unit) :=
  .cons (.required "transform") (.cons (.required "state") .nil)

/-- The name of an agent's kind. -/
def name : AgentKind α → String
  | vehicle .. => "Vehicle"
  | pedestrian .. => "Pedestrian"
  | speedLimitSign .. => "SpeedLimitSign"
  | trafficLight .. => "TrafficLight"

/-- The four kinds, by name. -/
def variants : Variants (AgentKind α) where
  typeName := "AgentKind"
  variants := [
    .record "Vehicle" movingFields fun (pose, speed, _) => vehicle pose speed,
    .record "Pedestrian" movingFields fun (pose, speed, _) => pedestrian pose speed,
    .record "SpeedLimitSign" signFields fun (pose, limit, _) => speedLimitSign pose limit,
    .record "TrafficLight" lightFields fun (pose, signal, _) => trafficLight pose signal]
  spell
    | vehicle pose speed => ⟨"Vehicle", some (movingFields.encodeMembers (pose, speed, ()))⟩
    | pedestrian pose speed => ⟨"Pedestrian", some (movingFields.encodeMembers (pose, speed, ()))⟩
    | speedLimitSign pose limit =>
      ⟨"SpeedLimitSign", some (signFields.encodeMembers (pose, limit, ()))⟩
    | trafficLight pose signal =>
      ⟨"TrafficLight", some (lightFields.encodeMembers (pose, signal, ()))⟩

/-- The kind of an agent is an object that bears its name. -/
instance : Wire (AgentKind α) := ⟨.tagged variants⟩

end AgentKind

/-- The fields of an agent. -/
def Agent.fields :
    Fields (UInt32 × AgentKind α × Unit) (Option UInt32 × Option (AgentKind α) × Unit) :=
  .cons (.required "id") (.cons (.required "kind") .nil)

/-- An agent is its number and its kind. -/
instance : Wire (Agent α) where
  codec := .record "struct Agent" Agent.fields (fun a => (a.id, a.kind, ()))
    fun (id, kind, _) => ⟨id, kind⟩

/-! ## Frames -/

/-- The fields of a frame. -/
def Frame.fields :
    Fields (UInt64 × Int64 × UInt64 × List (Agent α) × Unit)
      (Option UInt64 × Option Int64 × Option UInt64 × Option (List (Agent α)) × Unit) :=
  .cons (.required "frame_number") <| .cons (.required "platform_timestamp") <|
    .cons (.required "game_timestamp") <| .cons (.required "agents") .nil

/-- A frame is its number, two times and its agents. -/
instance : Wire (Frame α) where
  codec := .record "struct FrameSnapshot" Frame.fields
    (fun f => (f.number, f.reportedAt, f.gameTime, f.agents, ()))
    fun (number, reportedAt, gameTime, agents, _) => ⟨number, reportedAt, gameTime, agents⟩

/-! ## Settings and towns -/

/-- The two qualities, by name. -/
def Quality.variants : Variants Quality where
  typeName := "QualityLevel"
  variants := [.bare "Low" .low, .bare "Epic" .epic]
  spell q := ⟨q.name, none⟩

/-- A quality is one of its names. -/
instance : Wire Quality := ⟨.choice Quality.variants⟩

/-- The fields of settings. -/
def Settings.fields :
    Fields
      (Bool × Bool × UInt32 × UInt32 × UInt32 × Quality × Option UInt64 × Option UInt64 × Unit)
      (Option Bool × Option Bool × Option UInt32 × Option UInt32 × Option UInt32 × Option Quality
        × Option (Option UInt64) × Option (Option UInt64) × Unit) :=
  .cons (.required "synchronous_mode") <| .cons (.required "send_non_player_agents_info") <|
    .cons (.required "number_of_vehicles") <| .cons (.required "number_of_pedestrians") <|
    .cons (.required "weather_id") <| .cons (.required "quality_level") <|
    .cons (.optional "seed_vehicles") <| .cons (.optional "seed_pedestrians") .nil

/-- Settings are written with all their members. -/
instance : Wire Settings where
  codec := .record "struct SessionSettings" Settings.fields
    (fun s => (s.synchronous, s.reportsAgents, s.vehicles, s.pedestrians, s.weather, s.quality,
      s.vehicleSeed, s.pedestrianSeed, ()))
    fun (synchronous, reportsAgents, vehicles, pedestrians, weather, quality, vehicleSeed,
        pedestrianSeed, _) =>
      ⟨synchronous, reportsAgents, vehicles, pedestrians, weather, quality, vehicleSeed,
        pedestrianSeed⟩

/-- The fields of a town's description. -/
def TownDescription.fields :
    Fields (String × List (Pose α) × Unit) (Option String × Option (List (Pose α)) × Unit) :=
  .cons (.required "map_name") (.cons (.required "player_start_spots") .nil)

/-- The description of a town is the name of its map and the spots where a player may start. -/
instance : Wire (TownDescription α) where
  codec := .record "struct SceneDescription" TownDescription.fields
    (fun d => (d.mapName, d.startSpots, ()))
    fun (mapName, startSpots, _) => ⟨mapName, startSpots⟩

end TownTraffic
