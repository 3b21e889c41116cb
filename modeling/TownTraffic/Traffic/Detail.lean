import TownTraffic.Text.Detailed
import TownTraffic.Traffic.Wire

/-!
# Agents, frames and settings in full

How the values that travel between viewer and simulator are shown in messages about unexpected
answers.
-/

namespace TownTraffic

open Text (Detail Detailed)

variable {α : Type} [Detailed α]

/-- A number is shown with its decimals. -/
instance : Detailed Float32 := ⟨fun x => .word (Decimal.Layout.detailed.write x)⟩

/-! ## Agents -/

/-- A vector of the plane is shown with its coordinates. -/
instance : Detailed (Vec2 α) where
  detail v := .record "Vector2X" [("x", Detailed.detail v.x), ("y", Detailed.detail v.y)]

/-- A vector of space is shown with its coordinates. -/
instance : Detailed (Vec3 α) where
  detail v := .record "Vector3X"
    [("x", Detailed.detail v.x), ("y", Detailed.detail v.y), ("z", Detailed.detail v.z)]

/-- An attitude is shown with its angles. -/
instance : Detailed (Attitude α) where
  detail a := .record "Rotation3D"
    [("pitch", Detailed.detail a.pitch), ("yaw", Detailed.detail a.yaw),
      ("roll", Detailed.detail a.roll)]

/-- A pose is shown with its position and its attitude. -/
instance : Detailed (Pose α) where
  detail p := .record "Transform"
    [("location", Detailed.detail p.location), ("rotation", Detailed.detail p.attitude)]

/-- The kind of an agent is shown with where the agent stands. -/
instance : Detailed (AgentKind α) where
  detail
    | .vehicle pose speed => .record "Vehicle"
      [("transform", Detailed.detail pose), ("forward_speed", Detailed.detail speed)]
    | .pedestrian pose speed => .record "Pedestrian"
      [("transform", Detailed.detail pose), ("forward_speed", Detailed.detail speed)]
    | .speedLimitSign pose limit => .record "SpeedLimitSign"
      [("transform", Detailed.detail pose), ("speed_limit", Detailed.detail limit)]
    | .trafficLight pose signal => .record "TrafficLight"
      [("transform", Detailed.detail pose), ("state", .word signal.name)]

/-- An agent is shown with its number and its kind. -/
instance : Detailed (Agent α) where
  detail a := .record "Agent" [("id", .ofInt a.id.toNat), ("kind", Detailed.detail a.kind)]

/-- A frame is shown with its number, its times and its agents. -/
instance : Detailed (Frame α) where
  detail f := .record "FrameSnapshot"
    [("frame_number", .ofInt f.number.toNat), ("platform_timestamp", .ofInt f.reportedAt.toInt),
      ("game_timestamp", .ofInt f.gameTime.toNat),
      ("agents", .list (f.agents.map Detailed.detail))]

/-! ## Settings and towns -/

/-- The description of a town is shown with its spots. -/
instance : Detailed (TownDescription α) where
  detail d := .record "SceneDescription"
    [("map_name", .ofString d.mapName),
      ("player_start_spots", .list (d.startSpots.map Detailed.detail))]

/-- Settings are shown in full. -/
instance : Detailed Settings where
  detail s :=
    let seed (x : Option UInt64) : Detail := .ofOption (x.map fun n => .ofInt n.toNat)
    .record "SessionSettings"
      [("synchronous_mode", .ofBool s.synchronous),
        ("send_non_player_agents_info", .ofBool s.reportsAgents),
        ("number_of_vehicles", .ofInt s.vehicles.toNat),
        ("number_of_pedestrians", .ofInt s.pedestrians.toNat),
        ("weather_id", .ofInt s.weather.toNat),
        ("quality_level", .word s.quality.name),
        ("seed_vehicles", seed s.vehicleSeed),
        ("seed_pedestrians", seed s.pedestrianSeed)]

end TownTraffic
