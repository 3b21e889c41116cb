import TownTraffic.Screen.Overlay
import TownTraffic.Proofs.Exact

/-!
# Labels are legible

In exact arithmetic the squares of a label are cells of one grid. Each digit has three columns of
its own with an empty one behind it, no two squares overlap, and different numbers fill different
cells.

* **`glyphCells_bounds`**, **`glyphCells_injective`** — digits fit their cells and look different.
* **`digits_injective`** — numbers are told apart by their digits.
* **`square`**, **`gridCell`** — the cells of the grid, and where the cells of a digit lie.
* **`Box.interior`**, **`pairwise_disjoint_tiles`** — squares of a label do not overlap.
* **`covered`**, **`mem_covered_iff`** — the filled cells are those of the digits, each in its
  place.
* **`Legible`**, **`legible`** — what a label looks like, and that it is the only one to do so.
-/

namespace TownTraffic

/-- The points inside a box, not on its edge. -/
def Box.interior (b : Box ℝ) : Set (Vec2 ℝ) :=
  {p | (b.corner.x < p.x ∧ p.x < b.corner.x + b.extent.x)
    ∧ (b.corner.y < p.y ∧ p.y < b.corner.y + b.extent.y)}

namespace Label

/-! ## Digits -/

/-- A digit is three cells wide and five high. -/
theorem glyphCells_bounds : ∀ digit < 10, ∀ cell ∈ glyphCells digit, cell.1 < 3 ∧ cell.2 < 5 := by
  decide

/-- Every digit fills some cell. -/
theorem glyphCells_ne_nil : ∀ digit < 10, glyphCells digit ≠ [] := by decide

/-- No digit fills a cell twice. -/
theorem nodup_glyphCells : ∀ digit < 10, (glyphCells digit).Nodup := by decide

/-- Different digits fill different cells. -/
theorem glyphCells_injective : ∀ a < 10, ∀ b < 10,
    glyphCells a ⊆ glyphCells b → glyphCells b ⊆ glyphCells a → a = b := by
  decide +kernel

section

variable {m n digit place column row : Nat}

/-- A digit is below ten. -/
theorem digits_lt (h : digit ∈ digits n) : digit < 10 := by
  obtain ⟨c, hc, rfl⟩ := List.mem_map.mp h
  have hdigit := Nat.isDigit_of_mem_toDigits (by decide) (by decide) hc
  have hbounds : 48 ≤ c.toNat ∧ c.toNat ≤ 57 := Char.isDigit_iff_toNat.mp hdigit
  have hzero : '0'.toNat = 48 := rfl
  omega

/-- A character that is a digit is the one of its value. -/
theorem digitChar_sub {c : Char} (h : c.isDigit = true) : (c.toNat - '0'.toNat).digitChar = c := by
  have hbounds : 48 ≤ c.toNat ∧ c.toNat ≤ 57 := Char.isDigit_iff_toNat.mp h
  have hzero : '0'.toNat = 48 := rfl
  rw [← Char.toNat_inj, hzero, Nat.toNat_digitChar_of_lt_ten (by omega)]
  omega

/-- The digits of a number are those of its text. -/
theorem map_digitChar_digits (n : Nat) : (digits n).map Nat.digitChar = Nat.toDigits 10 n := by
  rw [digits, List.map_map]
  refine (List.map_congr_left ?_).trans (List.map_id _)
  exact fun c hc => digitChar_sub (Nat.isDigit_of_mem_toDigits (by decide) (by decide) hc)

/-- Numbers are told apart by their digits. -/
theorem digits_injective (h : digits m = digits n) : m = n := by
  have htext : Nat.toDigits 10 m = Nat.toDigits 10 n := by
    rw [← map_digitChar_digits, h, map_digitChar_digits]
  rw [← Nat.ofDigitChars_ten_toDigits (n := m), htext, Nat.ofDigitChars_ten_toDigits]

/-- The digits of a number are the values of its decimal digits. -/
theorem getElem?_digits_iff : (digits n)[place]? = some digit
    ↔ digit < 10 ∧ (Nat.toDigits 10 n)[place]? = some digit.digitChar := by
  rw [← map_digitChar_digits, List.getElem?_map, Option.map_eq_some_iff]
  constructor
  · exact fun h => ⟨digits_lt (List.mem_of_getElem? h), digit, h, rfl⟩
  · rintro ⟨hlt, other, hplace, hchar⟩
    have hother : other < 10 := digits_lt (List.mem_of_getElem? hplace)
    have hvalue := congrArg Char.toNat hchar
    rw [Nat.toNat_digitChar_of_lt_ten hother, Nat.toNat_digitChar_of_lt_ten hlt] at hvalue
    obtain rfl : other = digit := by omega
    exact hplace

/-- A number has as many digits as its decimal text has. -/
theorem length_digits (n : Nat) : (digits n).length = (Nat.toDigits 10 n).length :=
  List.length_map _

/-- The cells of a number are those of its digits. -/
theorem mem_cells_iff : (place, column, row) ∈ cells n
    ↔ ∃ digit, (digits n)[place]? = some digit ∧ (column, row) ∈ glyphCells digit := by
  rw [cells, List.mem_flatMap]
  constructor
  · rintro ⟨⟨digit, i⟩, hdigit, hcell⟩
    obtain ⟨⟨a, b⟩, hglyph, heq⟩ := List.mem_map.mp hcell
    obtain ⟨rfl, rfl, rfl⟩ : i = place ∧ a = column ∧ b = row := by simpa using heq
    exact ⟨digit, List.mk_mem_zipIdx_iff_getElem?.mp hdigit, hglyph⟩
  · rintro ⟨digit, hdigit, hglyph⟩
    exact ⟨(digit, place), List.mk_mem_zipIdx_iff_getElem?.mpr hdigit,
      List.mem_map.mpr ⟨(column, row), hglyph, rfl⟩⟩

/-- The cells of a number lie in the columns and rows of one of its digits. -/
theorem bounds_of_mem_cells (h : (place, column, row) ∈ cells n) :
    place < (digits n).length ∧ column < 3 ∧ row < 5 := by
  obtain ⟨digit, hdigit, hglyph⟩ := mem_cells_iff.mp h
  obtain ⟨hplace, rfl⟩ := List.getElem?_eq_some_iff.mp hdigit
  exact ⟨hplace, glyphCells_bounds _ (digits_lt (List.getElem_mem hplace)) _ hglyph⟩

/-- No number fills a cell twice. -/
theorem nodup_cells (n : Nat) : (cells n).Nodup := by
  rw [cells, List.nodup_flatMap]
  constructor
  · rintro ⟨digit, place⟩ hdigit
    have hlt : digit < 10 :=
      digits_lt (List.mem_of_getElem? (List.mk_mem_zipIdx_iff_getElem?.mp hdigit))
    refine (nodup_glyphCells digit hlt).map ?_
    rintro ⟨a, b⟩ ⟨c, d⟩ heq
    simpa using heq
  · -- Digits in different places share no cell.
    have hplaces : ((digits n).zipIdx.map Prod.snd).Nodup := by
      rw [List.zipIdx_map_snd]
      exact List.nodup_range'
    refine (List.pairwise_map.mp hplaces).imp ?_
    rintro ⟨_, i⟩ ⟨_, j⟩ hne ⟨place, column, row⟩ hi hj
    obtain ⟨_, -, hi⟩ := List.mem_map.mp hi
    obtain ⟨_, -, hj⟩ := List.mem_map.mp hj
    exact hne ((congrArg Prod.fst hi).trans (congrArg Prod.fst hj).symm)

end

/-! ## The grid -/

/-- The square of a cell of the grid, by column and row from the origin. -/
noncomputable def square (origin : Vec2 ℝ) (cell : Nat × Nat) : Box ℝ :=
  ⟨⟨origin.x + cell.1 * cellSize, origin.y + cell.2 * cellSize⟩, ⟨cellSize, cellSize⟩⟩

/-- Where a cell of a digit lies in the grid: there is an empty column behind each digit. -/
def gridCell : Nat × Nat × Nat → Nat × Nat
  | (place, column, row) => ((width + 1) * place + column, row)

/-- A cell has some size. -/
theorem cellSize_pos : (0 : ℝ) < cellSize := by simp [cellSize]

section

variable {origin : Vec2 ℝ} {a b : Nat × Nat}

/-- A tile fills the square of its cell. -/
theorem box_tile (origin : Vec2 ℝ) (cell : Nat × Nat × Nat) :
    (tile origin cell).box = square origin (gridCell cell) := by
  obtain ⟨place, column, row⟩ := cell
  have hx : origin.x + place * (((width + 1 : Nat) : ℝ) * cellSize) + column * cellSize
      = origin.x + (((width + 1) * place + column : Nat) : ℝ) * cellSize := by
    push_cast
    ring
  have hy : origin.y + ((0 : Nat) : ℝ) + row * cellSize = origin.y + row * cellSize := by
    rw [Nat.cast_zero, add_zero]
  show (⟨⟨_, _⟩, ⟨cellSize, cellSize⟩⟩ : Box ℝ) = ⟨⟨_, _⟩, ⟨cellSize, cellSize⟩⟩
  exact congrArg₂ (fun x y => (⟨⟨x, y⟩, ⟨cellSize, cellSize⟩⟩ : Box ℝ)) hx hy

/-- Along an axis, a point lies inside one cell at most. -/
theorem eq_of_between {start size x : ℝ} {i j : Nat} (hsize : 0 < size)
    (hi : start + i * size < x ∧ x < start + i * size + size)
    (hj : start + j * size < x ∧ x < start + j * size + size) : i = j := by
  have hij : (i : ℝ) * size < (j + 1) * size := by linarith [hi.1, hj.2]
  have hji : (j : ℝ) * size < (i + 1) * size := by linarith [hj.1, hi.2]
  have hij : i < j + 1 := by exact_mod_cast lt_of_mul_lt_mul_right hij hsize.le
  have hji : j < i + 1 := by exact_mod_cast lt_of_mul_lt_mul_right hji hsize.le
  omega

/-- Different cells do not overlap. -/
theorem disjoint_square (h : a ≠ b) :
    Disjoint (square origin a).interior (square origin b).interior := by
  rw [Set.disjoint_left]
  rintro p ⟨hax, hay⟩ ⟨hbx, hby⟩
  exact h (Prod.ext (eq_of_between cellSize_pos hax hbx) (eq_of_between cellSize_pos hay hby))

/-- Different cells have different squares. -/
theorem square_injective (h : square origin a = square origin b) : a = b := by
  have hx : origin.x + a.1 * cellSize = origin.x + b.1 * cellSize :=
    congrArg (fun s => s.corner.x) h
  have hy : origin.y + a.2 * cellSize = origin.y + b.2 * cellSize :=
    congrArg (fun s => s.corner.y) h
  have hx := mul_right_cancel₀ cellSize_pos.ne' (add_left_cancel hx)
  have hy := mul_right_cancel₀ cellSize_pos.ne' (add_left_cancel hy)
  exact Prod.ext (by exact_mod_cast hx) (by exact_mod_cast hy)

/-- **The squares of a label do not overlap.** -/
theorem pairwise_disjoint_tiles (n : Nat) (origin : Vec2 ℝ) :
    (tiles n origin).Pairwise fun s t => Disjoint s.box.interior t.box.interior := by
  rw [tiles, List.pairwise_map]
  refine (nodup_cells n).imp_of_mem ?_
  rintro ⟨i, column, row⟩ ⟨j, column', row'⟩ hi hj hne
  obtain ⟨-, hcolumn, -⟩ := bounds_of_mem_cells hi
  obtain ⟨-, hcolumn', -⟩ := bounds_of_mem_cells hj
  rw [box_tile, box_tile]
  -- A digit is narrower than its place, so that the cell of the grid gives away place and column.
  refine disjoint_square ?_
  simp only [gridCell, width, ne_eq, Prod.mk.injEq] at hne ⊢
  omega

end

/-! ## Filled cells -/

/-- The cells of the grid that a label fills. -/
def covered (n : Nat) (origin : Vec2 ℝ) : Set (Nat × Nat) :=
  {cell | ∃ t ∈ tiles n origin, t.box = square origin cell}

section

variable {m n place column row : Nat} {origin : Vec2 ℝ}

/-- **In the columns of a place, a label fills the cells of the digit that is there.** -/
theorem mem_covered_iff (h : column < 4) : (4 * place + column, row) ∈ covered n origin
    ↔ ∃ digit, (digits n)[place]? = some digit ∧ (column, row) ∈ glyphCells digit := by
  rw [← mem_cells_iff]
  constructor
  · rintro ⟨t, ht, hbox⟩
    obtain ⟨⟨i, column', row'⟩, hcell, rfl⟩ := List.mem_map.mp ht
    obtain ⟨-, hcolumn, -⟩ := bounds_of_mem_cells hcell
    rw [box_tile] at hbox
    have hsame := square_injective hbox
    simp only [gridCell, width, Prod.mk.injEq] at hsame
    obtain ⟨rfl, rfl, rfl⟩ : i = place ∧ column' = column ∧ row' = row := by omega
    exact hcell
  · intro hcell
    exact ⟨tile origin (place, column, row), List.mem_map.mpr ⟨_, hcell, rfl⟩, box_tile _ _⟩

/-- Where one label fills no more cells than another, the other has a digit in each place of the
first, which fills as much. -/
theorem exists_digit_of_covered_subset (h : covered m origin ⊆ covered n origin) {a : Nat}
    (ha : (digits m)[place]? = some a) :
    ∃ b, (digits n)[place]? = some b ∧ glyphCells a ⊆ glyphCells b := by
  have hlt : a < 10 := digits_lt (List.mem_of_getElem? ha)
  have hfilled : ∀ cell ∈ glyphCells a,
      ∃ b, (digits n)[place]? = some b ∧ cell ∈ glyphCells b := by
    rintro ⟨column, row⟩ hcell
    have hcolumn : column < 4 := (glyphCells_bounds a hlt _ hcell).1.trans (by decide)
    exact (mem_covered_iff hcolumn).mp (h ((mem_covered_iff hcolumn).mpr ⟨a, ha, hcell⟩))
  obtain ⟨cell, hcell⟩ := List.exists_mem_of_ne_nil _ (glyphCells_ne_nil a hlt)
  obtain ⟨b, hb, -⟩ := hfilled cell hcell
  -- All cells of the place belong to the one digit that is there.
  refine ⟨b, hb, ?_⟩
  intro cell hcell
  obtain ⟨b', hb', hmem⟩ := hfilled cell hcell
  obtain rfl := Option.some.inj (hb.symm.trans hb')
  exact hmem

/-- **Numbers are told apart by the cells that they fill.** -/
theorem covered_injective (h : covered m origin = covered n origin) : m = n := by
  refine digits_injective (List.ext_getElem? ?_)
  intro place
  cases ha : (digits m)[place]? with
  | none =>
    cases hb : (digits n)[place]? with
    | none => rfl
    | some b =>
      obtain ⟨a, hplace, -⟩ := exists_digit_of_covered_subset h.symm.subset hb
      rw [ha] at hplace
      cases hplace
  | some a =>
    -- Both labels have a digit here, and each of the two fills the cells of the other.
    obtain ⟨b, hb, hab⟩ := exists_digit_of_covered_subset h.subset ha
    obtain ⟨a', ha', hba⟩ := exists_digit_of_covered_subset h.symm.subset hb
    obtain rfl := Option.some.inj (ha.symm.trans ha')
    have halt : a < 10 := digits_lt (List.mem_of_getElem? ha)
    have hblt : b < 10 := digits_lt (List.mem_of_getElem? hb)
    rw [hb, glyphCells_injective a halt b hblt hab hba]

end

/-! ## Labels -/

/-- **What a label looks like.** -/
structure Legible (n : Nat) (origin : Vec2 ℝ) : Prop where
  /-- Its squares are cells of the grid, within five rows and the columns of its digits. -/
  on_grid : ∀ t ∈ tiles n origin, ∃ column row, t.box = square origin (column, row)
    ∧ column < 4 * (Nat.toDigits 10 n).length - 1 ∧ row < 5
  /-- No two of its squares overlap. -/
  apart : (tiles n origin).Pairwise fun s t => Disjoint s.box.interior t.box.interior
  /-- Each digit has three columns to itself, behind which one is empty. -/
  in_place : ∀ place column row, column < 4 → ((4 * place + column, row) ∈ covered n origin
    ↔ ∃ digit < 10, (Nat.toDigits 10 n)[place]? = some digit.digitChar
      ∧ column < 3 ∧ (column, row) ∈ glyphCells digit)

/-- **A label is legible and stands for one number.** In exact arithmetic its squares are cells of a
grid, which do not overlap; each digit fills its own cells in the three columns of its place; and a
label that fills the same cells is of the same number. -/
theorem legible (n : Nat) (origin : Vec2 ℝ) :
    Legible n origin ∧ ∀ m, covered m origin = covered n origin ↔ m = n := by
  refine ⟨⟨?_, pairwise_disjoint_tiles n origin, ?_⟩, ?_⟩
  · intro t ht
    obtain ⟨⟨place, column, row⟩, hcell, rfl⟩ := List.mem_map.mp ht
    obtain ⟨hplace, hcolumn, hrow⟩ := bounds_of_mem_cells hcell
    rw [length_digits] at hplace
    refine ⟨4 * place + column, row, box_tile _ _, ?_, hrow⟩
    omega
  · intro place column row hcolumn
    rw [mem_covered_iff hcolumn]
    constructor
    · rintro ⟨digit, hdigit, hcell⟩
      obtain ⟨hlt, hplace⟩ := getElem?_digits_iff.mp hdigit
      exact ⟨digit, hlt, hplace, (glyphCells_bounds digit hlt _ hcell).1, hcell⟩
    · rintro ⟨digit, hlt, hplace, -, hcell⟩
      exact ⟨digit, getElem?_digits_iff.mpr ⟨hlt, hplace⟩, hcell⟩
  · intro m
    constructor
    · exact covered_injective
    · rintro rfl
      rfl

end Label

end TownTraffic
