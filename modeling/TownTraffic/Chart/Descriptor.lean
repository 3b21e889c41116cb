import TownTraffic.Chart.Calibration

/-!
# Map descriptors

A `Descriptor` names the image of a map and calibrates it. On file it is one JSON object that holds
the name and the fields of the calibration side by side. The name is read as it comes; the other
members are kept until the end of the object, where the calibration is made of them.
-/

namespace TownTraffic

open Json

/-- The image of a map and where it lies in the world. -/
structure Descriptor (α : Type) where
  /-- The path of the image. -/
  image : String
  calibration : Calibration α
deriving Repr, DecidableEq

namespace Descriptor

variable {α : Type} [Scalar α] [Wire α]

/-- What a descriptor is called. -/
def inWords : String := "struct MapDescriptor"

/-- The member with the path of the image. -/
def imageKey : String := "image"

/-- The form of a path. -/
def path : Codec String := .string "path string"

/-- The descriptor of a path, if there is one, and of the other members. -/
def finish (image : Option String) (kept : List (String × Value)) :
    Except Mismatch (Descriptor α) := do
  let some image := image | .error (.missingField imageKey)
  let slots ← Calibration.fields.decodeMembers kept Calibration.fields.empty
  return ⟨image, .build (← Calibration.fields.finish slots)⟩

/-- The path of the image and the other members, from the members of an object. -/
def split (image : Option String) (kept : List (String × Value)) :
    List (String × Value) → Except Mismatch (Option String × List (String × Value))
  | [] => .ok (image, kept.reverse)
  | (key, v) :: members =>
    if key = imageKey then
      match image with
      | some _ => .error (.duplicateField imageKey)
      | none => do split (some (← path.decode v)) kept members
    else split image ((key, v) :: kept) members

/-- The descriptor in a tree. -/
def decode : Value → Except Mismatch (Descriptor α)
  | .object members => do
    let (image, kept) ← split none [] members
    finish image kept
  | v => .error (.wrongType v.found inWords)

/-- Takes the members of an object up to its end. The length of the text bounds their number. -/
def readMembers (depth : Nat) : (bound : Nat) → (first : Bool) → Option String →
    List (String × Value) → Reader (Option String × List (String × Value))
  | 0, _, _, _, s => .error (.upon .objectUnfinished s)
  | bound + 1, first, image, kept, s => do
    match ← nextKey first s with
    | (none, s) => .ok ((image, kept.reverse), s)
    | (some key, s) =>
      if key = imageKey then
        if image.isSome then .error (.loose (.duplicateField imageKey) s)
        else
          let (image, s) ← path.read depth (← readColon s)
          readMembers depth bound false (some image) kept s
      else
        let (v, s) ← Value.read depth (← readColon s)
        readMembers depth bound false image ((key, v) :: kept) s

/-- The descriptor in front of a text. -/
def read (depth : Nat) : Reader (Descriptor α) := fun s => do
  let s ← startValue s
  match s with
  | '{' :: rest =>
    descend depth s fun depth =>
      closeObject do
        let ((image, kept), s) ← readMembers depth (rest.length + 1) true none [] rest
        match finish image kept with
        | .ok d => .ok (d, s)
        | .error m => .error (.loose m s)
  | s => .error (mismatched inWords s)

/-- A descriptor is the name of an image beside the parts of its calibration. -/
instance : Wire (Descriptor α) where
  codec := {
    encode := fun d =>
      .object ((imageKey, path.encode d.image)
        :: Calibration.fields.encodeMembers d.calibration.parts)
    decode := decode
    read := read }

end Descriptor

end TownTraffic
