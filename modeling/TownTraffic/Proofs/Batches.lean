import TownTraffic.Screen.Batch
import Mathlib

/-!
# What a batch holds

A batch holds the triangles of the figures that have been drawn since it was last cleared, in the
order of drawing, each in the colour of its figure. What was drawn before does not show.

* **`Figure`** — a box or a marker; **`Figure.points`** the points of its triangles.
* **`Vertex.Shows`**, **`Figure.DrawnBy`** — the points of a figure on the device.
* **`Batch.Change`**, **`Batch.after`** — what is done to a batch, and what it becomes.
* **`Batch.sinceClear`** — the figures since the batch was last cleared.
* **`Batch.Gathers`**, **`Batch.gathers_since_clear`** — a batch holds just these figures.
-/

namespace TownTraffic

variable {α : Type}

/-! ## Figures -/

/-- What is drawn into a batch. -/
inductive Figure (α : Type) where
  /-- A box that lies over the map. -/
  | tile (t : Tile α)
  /-- The marker of an agent. -/
  | shape (s : Shape α)

namespace Figure

/-- The colour of a figure. -/
def colour : Figure α → Colour
  | tile t => t.colour
  | shape s => s.colour

/-- How many points the triangles of a figure have. -/
def pointCount : Figure α → Nat
  | tile _ => 6
  | shape (.pedestrian _) => 48
  | shape (.vehicle _) => 6

/-- Every figure is made of whole triangles. -/
theorem three_dvd_pointCount (f : Figure α) : 3 ∣ f.pointCount := by
  match f with
  | tile _ => exact ⟨2, rfl⟩
  | shape (.pedestrian _) => exact ⟨16, rfl⟩
  | shape (.vehicle _) => exact ⟨2, rfl⟩

/-- Every figure has points. -/
theorem pointCount_ne_zero (f : Figure α) : f.pointCount ≠ 0 := by
  match f with
  | tile _ => exact Nat.succ_ne_zero 5
  | shape (.pedestrian _) => exact Nat.succ_ne_zero 47
  | shape (.vehicle _) => exact Nat.succ_ne_zero 5

variable [Scalar α]

/-- The points of the triangles of a figure. -/
def points : Figure α → List (Vec2 α)
  | tile t => Mesh.box t.box
  | shape (.pedestrian marker) => Mesh.ellipse marker.box 16
  | shape (.vehicle marker) => Mesh.fan marker.corners.toList

/-- A figure has as many points as it counts. -/
theorem length_points (f : Figure α) : f.points.length = f.pointCount := by
  match f with
  | tile t => exact Mesh.length_box t.box
  | shape (.pedestrian marker) => exact Mesh.length_ellipse marker.box 16
  | shape (.vehicle marker) =>
    rw [points, Mesh.length_fan, Vector.length_toList]
    rfl

end Figure

/-! ## Figures on the device -/

section

variable [Scalar α]

/-- **Whether a vertex shows a point** of the window in a colour. -/
structure Vertex.Shows (v : Vertex α) (window p : Vec2 α) (c : Colour) : Prop where
  /-- It is where the point is on the device, at no depth and with full weight. -/
  position_eq : v.position
    = #v[(Mesh.toDevice window p).x, (Mesh.toDevice window p).y, Scalar.ofNat 0, Scalar.ofNat 1]
  /-- It has the parts of the colour, each as a share of 255, and hides what is behind it. -/
  colour_eq : v.colour
    = #v[Scalar.ratio c.red.toNat 255, Scalar.ratio c.green.toNat 255,
      Scalar.ratio c.blue.toNat 255, Scalar.ofNat 1]

/-- **Whether vertices draw a figure**: they show the points of its triangles one after the other,
all in the colour of the figure. -/
def Figure.DrawnBy (f : Figure α) (window : Vec2 α) (vertices : List (Vertex α)) : Prop :=
  List.Forall₂ (fun p v => v.Shows window p f.colour) f.points vertices

/-- A vertex shows the point and the colour that it was made from. -/
theorem Batch.shows_vertex (window p : Vec2 α) (c : Colour) :
    (Batch.vertex window (p, c)).Shows window p c := by
  constructor
  case position_eq => rfl
  case colour_eq => rfl

/-- The vertices of its points draw a figure. -/
theorem Figure.drawnBy_map_vertex (f : Figure α) (window : Vec2 α) :
    f.DrawnBy window (f.points.map fun p => Batch.vertex window (p, f.colour)) := by
  rw [DrawnBy, List.forall₂_map_right_iff, List.forall₂_same]
  intro p _
  exact Batch.shows_vertex window p f.colour

end

namespace Batch

/-! ## Changes -/

/-- What may be done to a batch. -/
inductive Change (α : Type) where
  | clear
  | draw (f : Figure α)

/-- The figure that is drawn, if one is. -/
def Change.figure? : Change α → Option (Figure α)
  | clear => none
  | draw f => some f

/-- The figures that have been drawn since the batch was last cleared. -/
def sinceClear (changes : List (Change α)) : List (Figure α) :=
  (changes.rtakeWhile fun change => change.figure?.isSome).filterMap Change.figure?

/-- Nothing has been drawn before the first change. -/
@[simp] theorem sinceClear_nil : sinceClear ([] : List (Change α)) = [] := rfl

/-- Nothing has been drawn since a clearing. -/
@[simp] theorem sinceClear_concat_clear (changes : List (Change α)) :
    sinceClear (changes ++ [.clear]) = [] := by
  rw [sinceClear, List.rtakeWhile_concat_neg _ _ _ (by simp [Change.figure?]), List.filterMap_nil]

/-- A figure comes behind those drawn since the last clearing. -/
@[simp] theorem sinceClear_concat_draw (changes : List (Change α)) (f : Figure α) :
    sinceClear (changes ++ [.draw f]) = sinceClear changes ++ [f] := by
  rw [sinceClear, List.rtakeWhile_concat_pos _ _ _ rfl, List.filterMap_append]
  rfl

variable [Scalar α]

/-- A change of a batch. -/
def change (b : Batch α) : Change α → Batch α
  | .clear => empty
  | .draw (.tile t) => b.pushTile t
  | .draw (.shape s) => b.pushShape s

/-- A batch that was empty, after some changes. -/
def after (changes : List (Change α)) : Batch α := changes.foldl change empty

/-- Changes are made one after the other. -/
@[simp] theorem after_concat (changes : List (Change α)) (c : Change α) :
    after (changes ++ [c]) = (after changes).change c := by
  rw [after, List.foldl_append]
  rfl

/-- A batch that is cleared is as good as new. -/
theorem after_append_clear (earlier later : List (Change α)) :
    after (earlier ++ .clear :: later) = after later := by
  rw [after, List.foldl_append]
  rfl

/-- A figure is drawn behind what there is. -/
theorem vertices_change_draw (b : Batch α) (f : Figure α) (window : Vec2 α) :
    (b.change (.draw f)).vertices window
      = b.vertices window ++ f.points.map fun p => vertex window (p, f.colour) := by
  have hpushed : b.change (.draw f) = b.push f.points f.colour := by
    match f with
    | .tile _ => rfl
    | .shape (.pedestrian _) => rfl
    | .shape (.vehicle _) => rfl
  rw [hpushed, vertices, points_push, List.map_append, List.map_map]
  rfl

/-- A batch is empty if it has no vertices, whatever the window. -/
theorem isEmpty_iff_length_vertices (b : Batch α) (window : Vec2 α) :
    b.isEmpty = true ↔ (b.vertices window).length = 0 := by
  rw [isEmpty, List.isEmpty_iff_length_eq_zero, vertices, List.length_map]

/-! ## Figures in a batch -/

/-- **Whether a batch holds just some figures**, in their order. -/
structure Gathers (b : Batch α) (figures : List (Figure α)) : Prop where
  /-- The vertices are those of one figure after the other. -/
  drawn : ∀ window, ∃ groups, b.vertices window = groups.flatten
    ∧ List.Forall₂ (fun f group => f.DrawnBy window group) figures groups
  /-- Boxes have six vertices each, pedestrians 48 and vehicles six. -/
  length_eq : ∀ window, (b.vertices window).length = (figures.map Figure.pointCount).sum
  whole : ∀ window, 3 ∣ (b.vertices window).length
  isEmpty_iff : b.isEmpty = true ↔ figures = []

/-- An empty batch gathers nothing. -/
theorem gathers_empty : (empty : Batch α).Gathers [] where
  drawn _ := ⟨[], rfl, .nil⟩
  length_eq _ := rfl
  whole _ := Nat.dvd_zero 3
  isEmpty_iff := ⟨fun _ => rfl, fun _ => rfl⟩

/-- One more figure is drawn behind the others. -/
theorem Gathers.draw {b : Batch α} {figures : List (Figure α)} (h : b.Gathers figures)
    (f : Figure α) : (b.change (.draw f)).Gathers (figures ++ [f]) := by
  have hlength (window : Vec2 α) : ((b.change (.draw f)).vertices window).length
      = (b.vertices window).length + f.pointCount := by
    rw [vertices_change_draw, List.length_append, List.length_map, f.length_points]
  constructor
  case drawn =>
    intro window
    obtain ⟨groups, hflatten, hgroups⟩ := h.drawn window
    refine ⟨groups ++ [f.points.map fun p => vertex window (p, f.colour)], ?_, ?_⟩
    · rw [vertices_change_draw, hflatten, List.flatten_append, List.flatten_singleton]
    · exact List.rel_append hgroups (.cons (f.drawnBy_map_vertex window) .nil)
  case length_eq =>
    intro window
    rw [hlength, h.length_eq, List.map_append, List.sum_append, List.map_singleton,
      List.sum_singleton]
  case whole =>
    intro window
    rw [hlength]
    exact Nat.dvd_add (h.whole window) f.three_dvd_pointCount
  case isEmpty_iff =>
    have hfigures : figures ++ [f] ≠ [] :=
      List.append_ne_nil_of_right_ne_nil _ (List.cons_ne_nil _ _)
    constructor
    · intro hempty
      -- The figure alone has vertices, seen in a window of any size.
      rw [isEmpty_iff_length_vertices _ Vec2.zero, hlength] at hempty
      exact absurd (Nat.eq_zero_of_add_eq_zero_left hempty) f.pointCount_ne_zero
    · intro heq
      exact absurd heq hfigures

/-- **A batch holds what has been drawn since it was last cleared.** Whatever is done to it, its
vertices are those of these figures, one figure after the other, each vertex in the colour of its
own figure; and of what was drawn before it was cleared, nothing is left. -/
theorem gathers_since_clear (changes : List (Change α)) :
    (after changes).Gathers (sinceClear changes)
      ∧ ∀ earlier : List (Change α), after (earlier ++ .clear :: changes) = after changes := by
  refine ⟨?_, fun earlier => after_append_clear earlier changes⟩
  induction changes using List.reverseRecOn with
  | nil => exact gathers_empty
  | append_singleton changes c ih =>
    rw [after_concat]
    cases c with
    | clear =>
      rw [sinceClear_concat_clear]
      exact gathers_empty
    | draw f =>
      rw [sinceClear_concat_draw]
      exact ih.draw f

end Batch

end TownTraffic
