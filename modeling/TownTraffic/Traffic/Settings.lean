/-!
# Settings of an episode

A viewer asks for an episode with certain `Settings`. The courses of vehicles and of pedestrians are
drawn from one seed each; settings that leave a seed open get both seeds drawn for them.

* **`Quality`** — how fine the simulator's own picture is; **`Quality.ofText?`** reads it.
* **`Settings`** — what a viewer asks for; **`Settings.standard`** unless told otherwise.
* **`Settings.seeded`**, **`Settings.settled`** — the settings with both seeds filled in, always or
  only if one is open.
-/

namespace TownTraffic

/-- How fine the simulator's own picture is. -/
inductive Quality where
  | low
  | epic
deriving Repr, DecidableEq, Inhabited

namespace Quality

/-- The name of a quality. -/
def name : Quality → String
  | low => "Low"
  | epic => "Epic"

/-- A text in lower case, as far as it is ASCII. -/
def lower (text : String) : String := .ofList (text.toList.map Char.toLower)

/-- The quality of a name, in any case. -/
def ofText? (text : String) : Option Quality :=
  if lower text = "low" then some low
  else if lower text = "epic" then some epic
  else none

/-- What is wrong with a name that is none. -/
def unknown (text : String) : String :=
  "unknown quality level '" ++ lower text ++ "', expected 'Low' or 'Epic'"

/-- A quality is read back from its name. -/
@[simp] theorem ofText?_name (q : Quality) : ofText? q.name = some q := by cases q <;> decide

end Quality

/-- A seed for the vehicles and one for the pedestrians. -/
structure Seeds where
  vehicles : UInt64
  pedestrians : UInt64
deriving Repr, DecidableEq, Inhabited

/-- What a viewer asks for. -/
structure Settings where
  /-- Whether the town's clock advances by one step at each look instead of by itself. -/
  synchronous : Bool
  /-- Whether frames report any agents at all. -/
  reportsAgents : Bool
  vehicles : UInt32
  pedestrians : UInt32
  weather : UInt32
  quality : Quality
  vehicleSeed : Option UInt64
  pedestrianSeed : Option UInt64
deriving Repr, DecidableEq, Inhabited

namespace Settings

/-- What a viewer asks for unless told otherwise. -/
def standard : Settings where
  synchronous := false
  reportsAgents := true
  vehicles := 3
  pedestrians := 40
  weather := 1
  quality := .low
  vehicleSeed := none
  pedestrianSeed := none

/-- The settings with both seeds replaced. -/
def seeded (s : Settings) (seeds : Seeds) : Settings :=
  { s with vehicleSeed := some seeds.vehicles, pedestrianSeed := some seeds.pedestrians }

/-- Whether both seeds are given. -/
def isSeeded (s : Settings) : Bool := s.vehicleSeed.isSome && s.pedestrianSeed.isSome

/-- The settings an episode is played with: both seeds are drawn unless both are given. -/
def settled (s : Settings) (drawn : Seeds) : Settings :=
  if s.isSeeded then s else s.seeded drawn

/-- The seeds of the settings, with stand-ins for open ones. -/
def seeds (s : Settings) (drawn : Seeds) : Seeds :=
  ⟨s.vehicleSeed.getD drawn.vehicles, s.pedestrianSeed.getD drawn.pedestrians⟩

/-- Settings with both seeds are seeded. -/
@[simp] theorem isSeeded_seeded (s : Settings) (seeds : Seeds) : (s.seeded seeds).isSeeded := rfl

/-- Settings are seeded once their seeds have been settled. -/
@[simp] theorem isSeeded_settled (s : Settings) (drawn : Seeds) : (s.settled drawn).isSeeded := by
  unfold settled; split <;> simp_all

/-- Settings that give both seeds are played as they are. -/
theorem settled_of_isSeeded {s : Settings} (h : s.isSeeded) (drawn : Seeds) :
    s.settled drawn = s := by simp [settled, h]

end Settings

end TownTraffic
