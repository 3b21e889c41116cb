import TownTraffic.Geometry.Vector

/-!
# Paths

A `Path` is a polyline that is walked at constant speed: round and round if it is closed, back and
forth if it is open. `Path.sample` answers where a walker is, and which way it faces, after a given
distance.

* **`Path.segments`** — consecutive pairs of waypoints, and the closing pair of a closed path with
  more than two waypoints.
* **`Path.length`** — the sum of the segments' lengths.
* **`Path.fold`** — the distance from the first waypoint along the path, and whether the walker is
  on its way back.
* **`Path.walk`** — the first segment that the remaining distance does not exceed.
-/

namespace TownTraffic

/-- A polyline of the plane. -/
structure Path (α : Type) where
  waypoints : List (Vec2 α)
  /-- Whether the last waypoint leads back to the first. -/
  closed : Bool
deriving Repr, DecidableEq, Inhabited

/-- Where a walker is and which way it faces, in degrees. -/
structure Stand (α : Type) where
  position : Vec2 α
  heading : α
deriving Repr, DecidableEq, Inhabited

namespace Path

variable {α : Type}

/-- The segment that closes the path, if it has one. -/
def closing (p : Path α) : List (Vec2 α × Vec2 α) :=
  match p.closed, p.waypoints.head?, p.waypoints.getLast? with
  | true, some first, some last => if p.waypoints.length > 2 then [(last, first)] else []
  | _, _, _ => []

/-- The segments in walking order. -/
def segments (p : Path α) : List (Vec2 α × Vec2 α) :=
  p.waypoints.zip p.waypoints.tail ++ p.closing

variable [Scalar α]

/-- The length of the whole path, added up in walking order. -/
def length (p : Path α) : α :=
  (p.segments.map fun s => s.1.distance s.2).foldl (· + ·) (-(Scalar.ofNat 0))

/-- The distance folded back onto the path, and whether it is walked backwards there.

A closed path repeats after its length, an open one after twice its length. -/
def fold (closed : Bool) (length distance : α) : α × Bool :=
  if closed then
    (Scalar.remainder distance length, false)
  else
    let there := Scalar.ofNat 2 * length
    let folded := Scalar.remainder distance there
    if Scalar.lt length folded then (there - folded, true) else (folded, false)

/-- The heading of a segment in degrees from `0` to `360`, turned round if walked backwards. -/
def heading (backwards : Bool) (segment : Vec2 α) : α :=
  let forward := Scalar.toDegrees (Scalar.atan2 segment.y segment.x)
  Scalar.remainder (if backwards then forward + Scalar.ofNat 180 else forward) (Scalar.ofNat 360)

/-- The stand on the first segment of positive length that the remaining distance does not exceed;
`last` when there is none. -/
def walk (backwards : Bool) : List (Vec2 α × Vec2 α) → α → Stand α → Stand α
  | [], _, last => last
  | (start, stop) :: rest, remaining, _ =>
    let segment := stop - start
    let length := segment.length
    let facing := heading backwards segment
    -- A segment without length is passed over; there is no way along it.
    if Scalar.le remaining length && Scalar.lt (Scalar.ofNat 0) length then
      ⟨start + segment * (remaining / length), facing⟩
    else
      walk backwards rest (remaining - length) ⟨stop, facing⟩

/-- The stand after walking `distance` from the first waypoint. A path without length is never
left. -/
def sample (p : Path α) (distance : α) : Stand α :=
  let start : Stand α := ⟨p.waypoints.headD Vec2.zero, Scalar.ofNat 0⟩
  if Scalar.le p.length Scalar.epsilon then start
  else
    let (remaining, backwards) := fold p.closed p.length distance
    walk backwards p.segments remaining start

/-- A walk along no segments ends where it stands. -/
@[simp] theorem walk_nil (backwards : Bool) (remaining : α) (last : Stand α) :
    walk backwards [] remaining last = last := rfl

end Path

end TownTraffic
