import TownTraffic.Chart.Descriptor
import TownTraffic.Chart.Format
import TownTraffic.Chart.Png

/-!
# Map sheets

A `Sheet` is a map that is ready to be used: its name, its calibration and its image. It is found in
a directory of maps by its name: the descriptor lies there under the name, and the image under the
path that the descriptor gives, which also counts from the directory of maps.

* **`Sheet.load`** — the sheet with a given name.
* **`SheetFault`** — why there is none.
-/

namespace TownTraffic

open Text (Detail Detailed)

/-- A map that is ready to be used. -/
structure Sheet (α : Type) where
  name : String
  calibration : Calibration α
  image : Png.Picture
deriving Repr, DecidableEq

/-- Width and height of the image, in pixels. -/
def Sheet.size {α : Type} (s : Sheet α) : Nat × Nat := s.image.size

/-- Why an image cannot be read. -/
inductive ImageFault where
  | folder (fault : FolderFault)
  | format (fault : FormatFault)
  /-- The file holds no image of its format. -/
  | undecodable
deriving Repr, DecidableEq

/-- The fault in words; nothing is said about the inside of an image. -/
def ImageFault.message? : ImageFault → Option String
  | folder fault => some fault.message
  | format fault => some fault.message
  | undecodable => none

/-- Why there is no sheet. -/
inductive SheetFault (α : Type) where
  /-- The descriptor cannot be read. -/
  | unreadable (path : String) (fault : FolderFault)
  /-- The descriptor is not one. -/
  | malformed (path : String) (report : Json.Report)
  /-- The density is not above zero. -/
  | density (density : α)
  /-- The image cannot be read. -/
  | image (path : String) (fault : ImageFault)
deriving Repr, DecidableEq

namespace SheetFault

variable {α : Type}

/-- A sentence about a file and what is wrong with it. -/
def about (what path reason : String) : String :=
  what ++ " '" ++ path ++ "', reason='" ++ reason ++ "'"

/-- The fault in words, if it has any; `write` spells a number. -/
def message? (write : α → String) : SheetFault α → Option String
  | unreadable path fault => some (about "Could not read map descriptor" path fault.message)
  | malformed path report => some (about "Invalid map descriptor" path report.message)
  | density d => some ("Invalid pixel density " ++ write d ++ ", must be positive")
  | image path fault => fault.message?.map (about "Could not load map image" path)

end SheetFault

namespace Sheet

variable {α : Type} [Scalar α] [Json.Wire α]

/-- The path of a descriptor, counted from the directory of maps. -/
def descriptorPath (name : String) : String := name ++ ".json"

/-- The descriptor of a map. `directory` is what the directory of maps is called. -/
def loadDescriptor (maps : Folder) (directory name : String) :
    Except (SheetFault α) (Descriptor α) := do
  let path := descriptorPath name
  let text ← (maps.text path).mapError (.unreadable (joinPath directory path))
  let d : Descriptor α ← (Json.Wire.codec.ofText text).mapError
    (.malformed (joinPath directory path))
  if Scalar.lt (Scalar.ofNat 0) d.calibration.density then return d
  else .error (.density d.calibration.density)

/-- The image at a path. The file is looked for first; then its format is told from the path, and
last its inside is looked at. -/
def openImage (maps : Folder) (directory path : String) : Except ImageFault Png.Picture := do
  let found ← (maps.find path).mapError .folder
  (checkFormat (joinPath directory path)).mapError .format
  match found with
  | .file bytes =>
    match Png.picture? bytes with
    | some picture => .ok picture
    | none => .error .undecodable
  | .directory => .error .undecodable

/-- The sheet with a given name. -/
def load (maps : Folder) (directory name : String) : Except (SheetFault α) (Sheet α) := do
  let d : Descriptor α ← loadDescriptor maps directory name
  let image ← (openImage maps directory d.image).mapError (.image (joinPath directory d.image))
  return ⟨name, d.calibration, image⟩

/-- Of its image a sheet only tells the size. -/
instance [Detailed α] : Detailed (Sheet α) where
  detail s := .record "MapData"
    [("name", .ofString s.name), ("transform", Detailed.detail s.calibration),
      ("image_size", .word ("(" ++ toString s.size.1 ++ ", " ++ toString s.size.2 ++ ")"))]

end Sheet

end TownTraffic
