import TownTraffic.Traffic.Town
import TownTraffic.Proofs.Labels

/-!
# Start spots are spread over the town

The spots of a town fill the cells of a grid over it, row after row, each in the middle of its cell.
The number of columns is a rounded square root; in exact arithmetic the spots stay apart and within
the town whichever way it is rounded.

* **`Box.cell`** — the cells of a grid over a box; **`Box.interior_cell_subset`** they lie in the
  box, and by **`Box.eq_of_mem_cell`** they do not overlap.
* **`Town.div_spotColumns_lt`** — there are rows enough for all spots.
* **`Town.ground_startSpot`** — a spot is in the middle of its cell.
* **`Spread`**, **`Town.spread_startSpots`** — how spots are spread, and that start spots are.
-/

namespace TownTraffic

/-- The point of the ground at a pose. -/
def Pose.ground (pose : Pose ℝ) : Vec2 ℝ := ⟨pose.location.x, pose.location.y⟩

/-! ## Cells -/

namespace Box

/-- The cell in a given column and row of a grid over a box. -/
noncomputable def cell (b : Box ℝ) (columns rows column row : ℕ) : Box ℝ :=
  ⟨⟨b.corner.x + column * (b.extent.x / columns), b.corner.y + row * (b.extent.y / rows)⟩,
    ⟨b.extent.x / columns, b.extent.y / rows⟩⟩

/-- The middle of a box with an area lies inside it. -/
theorem centre_mem_interior {b : Box ℝ} (hwidth : 0 < b.extent.x) (hheight : 0 < b.extent.y) :
    b.centre ∈ b.interior := by
  have hx : b.centre.x = b.corner.x + b.extent.x / 2 := rfl
  have hy : b.centre.y = b.corner.y + b.extent.y / 2 := rfl
  refine ⟨⟨?_, ?_⟩, ?_, ?_⟩ <;> linarith

/-- Along an axis, a part of a length ends no later than the length. -/
theorem mul_div_add_div_le {length : ℝ} (hlength : 0 ≤ length) {i n : ℕ} (h : i < n) :
    i * (length / n) + length / n ≤ length := by
  have hn : (0 : ℝ) < n := by exact_mod_cast Nat.zero_lt_of_lt h
  have hi : (i : ℝ) + 1 ≤ n := by exact_mod_cast h
  calc i * (length / n) + length / n = (i + 1) * (length / n) := by ring
    _ ≤ n * (length / n) := mul_le_mul_of_nonneg_right hi (div_nonneg hlength hn.le)
    _ = length := mul_div_cancel₀ length hn.ne'

section

variable {b : Box ℝ} {columns rows column row : ℕ}

/-- The cells lie in the box. -/
theorem interior_cell_subset (hwidth : 0 ≤ b.extent.x) (hheight : 0 ≤ b.extent.y)
    (hcolumn : column < columns) (hrow : row < rows) :
    (b.cell columns rows column row).interior ⊆ b.interior := by
  rintro p ⟨⟨hleft, hright⟩, hnear, hfar⟩
  have hx := mul_div_add_div_le hwidth hcolumn
  have hy := mul_div_add_div_le hheight hrow
  have hx0 : 0 ≤ column * (b.extent.x / columns) := by positivity
  have hy0 : 0 ≤ row * (b.extent.y / rows) := by positivity
  simp only [cell] at hleft hright hnear hfar
  refine ⟨⟨?_, ?_⟩, ?_, ?_⟩ <;> linarith

/-- A point lies inside one cell at most. -/
theorem eq_of_mem_cell (hwidth : 0 < b.extent.x / columns) (hheight : 0 < b.extent.y / rows)
    {column' row' : ℕ} {p : Vec2 ℝ} (h : p ∈ (b.cell columns rows column row).interior)
    (h' : p ∈ (b.cell columns rows column' row').interior) : column = column' ∧ row = row' :=
  ⟨Label.eq_of_between hwidth h.1 h'.1, Label.eq_of_between hheight h.2 h'.2⟩

end

end Box

/-! ## Rows and columns -/

namespace Town

section

variable {α : Type} [Scalar α] (t : Town α)

/-- There is at least one column of spots. -/
theorem spotColumns_pos : 0 < t.spotColumns := Nat.le_max_left 1 _

/-- There is at least one row of spots. -/
theorem spotRows_pos : 0 < t.spotRows := Nat.le_max_left 1 _

/-- There are rows enough, however many columns there are. -/
theorem div_spotColumns_lt {i : ℕ} (h : i < t.spotCount) : i / t.spotColumns < t.spotRows := by
  have hcolumns := t.spotColumns_pos
  apply lt_of_lt_of_le _ (Nat.le_max_right 1 _)
  rw [Nat.div_lt_iff_lt_mul hcolumns]
  -- Rounded up, the number of rows leaves less than a row of cells empty.
  have hrows := Nat.lt_div_mul_add (a := t.spotCount + t.spotColumns - 1) hcolumns
  omega

/-- The start spots of a town are found under their numbers. -/
theorem getElem?_startSpots_iff {i : ℕ} {spot : Pose α} :
    t.startSpots[i]? = some spot ↔ i < t.spotCount ∧ spot = t.startSpot i := by
  rw [startSpots, List.getElem?_map, Option.map_eq_some_iff]
  constructor
  · rintro ⟨j, hj, rfl⟩
    obtain ⟨hlt, rfl⟩ := List.getElem?_eq_some_iff.mp hj
    rw [List.length_range] at hlt
    rw [List.getElem_range]
    exact ⟨hlt, rfl⟩
  · rintro ⟨hlt, rfl⟩
    exact ⟨i, List.getElem?_range hlt, rfl⟩

end

/-- Some root gives any number of columns that fits a word. -/
theorem exists_spotColumns_eq (cosine sine : ℝ → ℝ) (t : Town ℝ) {columns : ℕ}
    (hpos : 0 < columns) (hword : columns < UInt64.size) :
    ∃ root : ℝ → ℝ, @spotColumns ℝ (Scalar.approximate root cosine sine) t = columns := by
  refine ⟨fun _ => columns, ?_⟩
  show max 1 (min (UInt64.size - 1) ⌈(columns : ℝ)⌉₊) = columns
  rw [Nat.ceil_natCast]
  omega

end Town

/-! ## Spots -/

/-- **Whether spots are spread over a box** in the cells of a grid, row after row. -/
structure Spread (b : Box ℝ) (columns rows : ℕ) (spots : List (Pose ℝ)) : Prop where
  inside : ∀ spot ∈ spots, spot.ground ∈ b.interior
  apart : spots.Pairwise fun s t => s.ground ≠ t.ground
  /-- There is a cell for each spot. -/
  on_grid : ∀ (i : ℕ) (spot : Pose ℝ), spots[i]? = some spot →
    i % columns < columns ∧ i / columns < rows
  in_cell : ∀ (i : ℕ) (spot : Pose ℝ), spots[i]? = some spot →
    spot.ground ∈ (b.cell columns rows (i % columns) (i / columns)).interior
  /-- The headings go round the compass. They are worked out within a word. -/
  yaw_eq : ∀ (i : ℕ) (spot : Pose ℝ), spots[i]? = some spot →
    spot.attitude.yaw = ((90 * (i % 4) : ℕ) : ℝ) ∧ i * 90 < UInt64.size

/-- Spots in cells of their own are in different places. -/
theorem pairwise_ne_of_in_cell {b : Box ℝ} {columns rows : ℕ} {spots : List (Pose ℝ)}
    (hwidth : 0 < b.extent.x / columns) (hheight : 0 < b.extent.y / rows)
    (h : ∀ (i : ℕ) (spot : Pose ℝ), spots[i]? = some spot →
      spot.ground ∈ (b.cell columns rows (i % columns) (i / columns)).interior) :
    spots.Pairwise fun s t => s.ground ≠ t.ground := by
  rw [List.pairwise_iff_getElem]
  intro i j hi hj hlt heq
  have hcell := h i _ (List.getElem?_eq_getElem hi)
  rw [heq] at hcell
  obtain ⟨hcolumn, hrow⟩ :=
    Box.eq_of_mem_cell hwidth hheight hcell (h j _ (List.getElem?_eq_getElem hj))
  -- Column and row give away the number of a spot.
  apply hlt.ne
  rw [← Nat.div_add_mod i columns, hrow, hcolumn, Nat.div_add_mod]

namespace Town

section

variable (root cosine sine : ℝ → ℝ)

/-- A spot is in the middle of its cell. -/
theorem ground_startSpot (t : Town ℝ) (i : ℕ) :
    (@startSpot ℝ (Scalar.approximate root cosine sine) t i).ground
      = (t.bounds.cell (@spotColumns ℝ (Scalar.approximate root cosine sine) t)
        (@spotRows ℝ (Scalar.approximate root cosine sine) t)
        (i % @spotColumns ℝ (Scalar.approximate root cosine sine) t)
        (i / @spotColumns ℝ (Scalar.approximate root cosine sine) t)).centre := by
  have middle (start size : ℝ) (n : ℕ) :
      start + (n + (5 : ℕ) / 10 ^ 1) * size = start + n * size + size / (2 : ℕ) := by
    push_cast
    ring
  exact congrArg₂ Vec2.mk (middle _ _ _) (middle _ _ _)

/-- The heading of a spot is one of four. -/
theorem yaw_startSpot (t : Town ℝ) (i : ℕ) :
    (@startSpot ℝ (Scalar.approximate root cosine sine) t i).attitude.yaw
      = ((90 * (i % 4) : ℕ) : ℝ) := by
  have hturn : i * 90 % 360 = 90 * (i % 4) := by omega
  exact congrArg Nat.cast hturn

/-- **Start spots are spread over the town.** In exact arithmetic there are as many as there should
be, strictly within the bounds and in different places, each in its cell of the grid. It is so
whatever the root, and some root gives any number of columns. -/
theorem spread_startSpots {t : Town ℝ} (hwidth : 0 < t.bounds.extent.x)
    (hheight : 0 < t.bounds.extent.y) (hword : 90 * t.spotCount < UInt64.size) :
    ((@startSpots ℝ (Scalar.approximate root cosine sine) t).length = t.spotCount
      ∧ Spread t.bounds (@spotColumns ℝ (Scalar.approximate root cosine sine) t)
        (@spotRows ℝ (Scalar.approximate root cosine sine) t)
        (@startSpots ℝ (Scalar.approximate root cosine sine) t))
      ∧ ∀ columns : ℕ, 0 < columns → columns < UInt64.size →
        ∃ root, @spotColumns ℝ (Scalar.approximate root cosine sine) t = columns := by
  refine ⟨⟨@length_startSpots ℝ (Scalar.approximate root cosine sine) t, ?_⟩,
    fun columns => exists_spotColumns_eq cosine sine t⟩
  have hcolumns := @spotColumns_pos ℝ (Scalar.approximate root cosine sine) t
  have hrows := @spotRows_pos ℝ (Scalar.approximate root cosine sine) t
  have hrow (i : ℕ) (hi : i < t.spotCount) :=
    @div_spotColumns_lt ℝ (Scalar.approximate root cosine sine) t i hi
  have hground := ground_startSpot root cosine sine t
  have hspots (i : ℕ) (spot : Pose ℝ) :=
    @getElem?_startSpots_iff ℝ (Scalar.approximate root cosine sine) t i spot
  generalize @spotColumns ℝ (Scalar.approximate root cosine sine) t = columns at *
  generalize @spotRows ℝ (Scalar.approximate root cosine sine) t = rows at *
  -- From here on nothing depends on how many columns and rows there are.
  have hx : 0 < t.bounds.extent.x / columns := div_pos hwidth (by exact_mod_cast hcolumns)
  have hy : 0 < t.bounds.extent.y / rows := div_pos hheight (by exact_mod_cast hrows)
  have hcell (i : ℕ) (spot : Pose ℝ)
      (h : (@startSpots ℝ (Scalar.approximate root cosine sine) t)[i]? = some spot) :
      spot.ground ∈ (t.bounds.cell columns rows (i % columns) (i / columns)).interior := by
    obtain ⟨-, rfl⟩ := (hspots i spot).mp h
    rw [hground]
    exact Box.centre_mem_interior hx hy
  constructor
  case inside =>
    intro spot hmem
    obtain ⟨i, h⟩ := List.mem_iff_getElem?.mp hmem
    obtain ⟨hi, -⟩ := (hspots i spot).mp h
    exact Box.interior_cell_subset hwidth.le hheight.le (Nat.mod_lt i hcolumns) (hrow i hi)
      (hcell i spot h)
  case apart => exact pairwise_ne_of_in_cell hx hy hcell
  case on_grid =>
    intro i spot h
    obtain ⟨hi, -⟩ := (hspots i spot).mp h
    exact ⟨Nat.mod_lt i hcolumns, hrow i hi⟩
  case in_cell => exact hcell
  case yaw_eq =>
    intro i spot h
    obtain ⟨hi, rfl⟩ := (hspots i spot).mp h
    refine ⟨yaw_startSpot root cosine sine t i, ?_⟩
    omega

/-- The town that is served, with a root that comes out above four: its 16 spots are in five
columns, the last row with one spot only. -/
theorem spread_startSpots_misrounded :
    ((0 < (standard : Town ℝ).bounds.extent.x ∧ 0 < (standard : Town ℝ).bounds.extent.y
        ∧ 90 * (standard : Town ℝ).spotCount < UInt64.size)
      ∧ @spotColumns ℝ (Scalar.approximate (fun _ => 5) Real.cos Real.sin) standard = 5
      ∧ @spotRows ℝ (Scalar.approximate (fun _ => 5) Real.cos Real.sin) standard = 4)
      ∧ Spread (standard : Town ℝ).bounds 5 4
        (@startSpots ℝ (Scalar.approximate (fun _ => 5) Real.cos Real.sin) standard) := by
  have hwidth : 0 < (standard : Town ℝ).bounds.extent.x := by
    show (0 : ℝ) < (195 : ℕ)
    norm_num
  have hheight : 0 < (standard : Town ℝ).bounds.extent.y := by
    show (0 : ℝ) < (162 : ℕ)
    norm_num
  have hword : 90 * (standard : Town ℝ).spotCount < UInt64.size := by decide
  have hcolumns : @spotColumns ℝ (Scalar.approximate (fun _ => 5) Real.cos Real.sin) standard
      = 5 := by
    show max 1 (min (UInt64.size - 1) ⌈(5 : ℝ)⌉₊) = 5
    rw [Nat.ceil_ofNat]
    rfl
  have hrows : @spotRows ℝ (Scalar.approximate (fun _ => 5) Real.cos Real.sin) standard = 4 := by
    show max 1 ((16 + @spotColumns ℝ (Scalar.approximate (fun _ => 5) Real.cos Real.sin) standard
      - 1) / @spotColumns ℝ (Scalar.approximate (fun _ => 5) Real.cos Real.sin) standard) = 4
    rw [hcolumns]
    rfl
  have hspread := (spread_startSpots (fun _ => 5) Real.cos Real.sin hwidth hheight hword).1.2
  rw [hcolumns, hrows] at hspread
  exact ⟨⟨⟨hwidth, hheight, hword⟩, hcolumns, hrows⟩, hspread⟩

end

end Town

end TownTraffic
