import TownTraffic.Proofs.Rosters
import TownTraffic.Proofs.Walks

/-!
# Agents never leave their town

In exact arithmetic every route runs within the bounds of its town: city blocks lie within them, and
sidewalks within their blocks. Whoever walks a route is always between two of its waypoints.

* **`Box.Holds`** — points of a box; **`Path.holds_sample`** a path whose waypoints lie in a box is
  never outside it.
* **`Town.holds_of_block`**, **`Box.holds_of_inset`** — blocks and sidewalks.
* **`Course.StaysIn`** — courses within a box; those that are drawn stay within the bounds.
* **`Episode.holds_of_begin`** — so do all vehicles and pedestrians, at any time.
-/

namespace TownTraffic

open Chance (Keystream)

/-! ## Draws -/

namespace Chance.Keystream

/-- A draw below a bound is below it. The second word cannot carry the last number any further: its
lower half is at most what the bound leaves of a word. -/
theorem below_lt {n : Nat} (hpos : 0 < n) (hn : n ≤ UInt32.size) (s : Keystream) :
    (s.below n).1 < n := by
  have hword := s.next.1.toNat_lt
  have hproduct : s.next.1.toNat * n + n ≤ UInt32.size * n := by
    rw [← Nat.succ_mul]
    exact Nat.mul_le_mul_right n hword
  have hdiv := Nat.div_add_mod (s.next.1.toNat * n) UInt32.size
  have hhigh : s.next.1.toNat * n / UInt32.size < n := by
    refine Nat.div_lt_of_lt_mul ?_
    omega
  -- Near the upper end the low half is too small to carry over.
  have hlow : s.next.1.toNat * n / UInt32.size + 1 = n →
      s.next.1.toNat * n % UInt32.size ≤ UInt32.size - n := by
    intro hlast
    have hsplit : UInt32.size * n
        = UInt32.size * (s.next.1.toNat * n / UInt32.size) + UInt32.size := by
      rw [← Nat.mul_succ, Nat.succ_eq_add_one, hlast]
    omega
  unfold below
  dsimp only
  split_ifs with hcarry hover
  · have hne : s.next.1.toNat * n / UInt32.size + 1 ≠ n := fun hlast =>
      absurd (hlow hlast) (not_le.mpr hcarry)
    exact lt_of_le_of_ne hhigh hne
  · exact hhigh
  · exact hhigh

section

variable {β : Type} {draw : Keystream → Option (β × Keystream)}

/-- What every draw gives, all draws give. -/
theorem forall_mem_of_many {P : β → Prop} (h : ∀ s x s', draw s = some (x, s') → P x) {n : Nat}
    {s : Keystream} {xs : List β} (hxs : many draw n s = some xs) : ∀ x ∈ xs, P x := by
  induction n generalizing s xs with
  | zero =>
    rw [many_zero, Option.some.injEq] at hxs
    rw [← hxs]
    exact fun _ hx => absurd hx List.not_mem_nil
  | succ n ih =>
    simp only [many, Option.bind_eq_bind, Option.bind_eq_some_iff, Option.pure_def,
      Option.some.injEq, Prod.exists] at hxs
    obtain ⟨x, s', hx, ys, hys, rfl⟩ := hxs
    exact List.forall_mem_cons.mpr ⟨h s x s' hx, ih hys⟩

/-- A draw that never fails can be made any number of times. -/
theorem exists_many (h : ∀ s, ∃ x s', draw s = some (x, s')) (n : Nat) (s : Keystream) :
    ∃ xs, many draw n s = some xs := by
  induction n generalizing s with
  | zero => exact ⟨[], rfl⟩
  | succ n ih =>
    obtain ⟨x, s', hx⟩ := h s
    obtain ⟨xs, hxs⟩ := ih s'
    refine ⟨x :: xs, ?_⟩
    rw [many, hx]
    show (many draw n s').bind (fun ys => some (x :: ys)) = _
    rw [hxs]
    rfl

end

/-- An exact number can be drawn from every interval that is not empty. -/
theorem exists_between {low high : ℝ} (h : low < high) (s : Keystream) :
    ∃ x s', s.between low high = some (x, s') := by
  unfold between
  simp only [Scalar.lt_real, Scalar.isFinite_real, decide_eq_true h, Bool.and_true, if_true]
  exact ⟨_, _, rfl⟩

end Chance.Keystream

/-! ## Boxes -/

/-- **Whether a box holds a point**, its border included. -/
structure Box.Holds (b : Box ℝ) (p : Vec2 ℝ) : Prop where
  left : b.corner.x ≤ p.x
  right : p.x ≤ b.corner.x + b.extent.x
  near : b.corner.y ≤ p.y
  far : p.y ≤ b.corner.y + b.extent.y

namespace Box

variable {b : Box ℝ} {p q : Vec2 ℝ}

/-- A box that holds two points holds what is between them. -/
theorem Holds.between (hp : b.Holds p) (hq : b.Holds q) {t : ℝ} (h0 : 0 ≤ t) (h1 : t ≤ 1) :
    b.Holds (p + (q - p) * t) := by
  -- Along each axis, an interval holds what is between two of its numbers.
  have mean {low high x y : ℝ} (hx : x ∈ Set.Icc low high) (hy : y ∈ Set.Icc low high) :
      x + (y - x) * t ∈ Set.Icc low high := by
    rw [mul_comm]
    exact (convex_Icc low high).add_smul_sub_mem hx hy ⟨h0, h1⟩
  obtain ⟨left, right⟩ := mean ⟨hp.left, hp.right⟩ ⟨hq.left, hq.right⟩
  obtain ⟨near, far⟩ := mean ⟨hp.near, hp.far⟩ ⟨hq.near, hq.far⟩
  exact ⟨left, right, near, far⟩

/-- A box with some extent holds its corners. -/
theorem holds_of_mem_corners (hx : 0 ≤ b.extent.x) (hy : 0 ≤ b.extent.y)
    (hp : p ∈ b.corners.toList) : b.Holds p := by
  have hcorners : b.corners.toList = [b.corner, b.corner + ⟨b.extent.x, ((0 : ℕ) : ℝ)⟩,
      b.corner + b.extent, b.corner + ⟨((0 : ℕ) : ℝ), b.extent.y⟩] := rfl
  rw [hcorners] at hp
  simp only [List.mem_cons, List.not_mem_nil, or_false, Nat.cast_zero] at hp
  rcases hp with rfl | rfl | rfl | rfl
  · constructor <;> linarith
  · constructor <;> simp only [Vec2.add_x, Vec2.add_y] <;> linarith
  · constructor <;> simp only [Vec2.add_x, Vec2.add_y] <;> linarith
  · constructor <;> simp only [Vec2.add_x, Vec2.add_y] <;> linarith

/-- A margin is left out on both sides. -/
theorem extent_inset (b : Box ℝ) (margin : ℝ) :
    (b.inset margin).extent = ⟨b.extent.x - 2 * margin, b.extent.y - 2 * margin⟩ := by
  simp only [inset, ofCorner, Scalar.ofNat_real, Nat.cast_ofNat]

/-- What is inside a margin is inside the box. -/
theorem holds_of_inset {margin : ℝ} (hmargin : 0 ≤ margin) (h : (b.inset margin).Holds p) :
    b.Holds p := by
  obtain ⟨left, right, near, far⟩ := h
  simp only [inset, ofCorner, Scalar.ofNat_real, Nat.cast_ofNat] at left right near far
  constructor <;> linarith

end Box

/-! ## Paths within a box -/

namespace Path

variable {p : Path ℝ} {b : Box ℝ}

/-- Segments lead from one waypoint to another. -/
theorem mem_waypoints_of_mem_segments {α : Type} {p : Path α} {s : Vec2 α × Vec2 α}
    (hs : s ∈ p.segments) : s.1 ∈ p.waypoints ∧ s.2 ∈ p.waypoints := by
  rcases List.mem_append.mp hs with hs | hs
  · obtain ⟨h1, h2⟩ := List.of_mem_zip hs
    exact ⟨h1, List.mem_of_mem_tail h2⟩
  · unfold closing at hs
    split at hs
    case h_1 first last hclosed hfirst hlast =>
      split at hs
      · obtain rfl := List.mem_singleton.mp hs
        exact ⟨List.mem_of_getLast? hlast, List.mem_of_head? hfirst⟩
      · exact absurd hs List.not_mem_nil
    case h_2 => exact absurd hs List.not_mem_nil

/-- **A path whose waypoints lie in a box is never outside it**, however far it is walked. -/
theorem holds_sample (hne : p.waypoints ≠ []) (h : ∀ w ∈ p.waypoints, b.Holds w) (d : ℝ) :
    b.Holds (p.sample d).position := by
  by_cases hlong : 1 / 2 ^ 23 < total p.segments
  · obtain ⟨j, start, stop, hstands⟩ := exists_standsOn_sample hlong d
    have hpos : 0 < total p.segments := lt_trans (by norm_num) hlong
    obtain ⟨t, h0, h1, hposition⟩ := hstands.exists_between (folded_nonneg hpos d)
    obtain ⟨hstart, hstop⟩ :=
      mem_waypoints_of_mem_segments (List.mem_of_getElem? hstands.segment)
    rw [hposition]
    exact (h start hstart).between (h stop hstop) h0 h1
  · -- A path without length is never left.
    have hshort : Scalar.le p.length Scalar.epsilon = true := by
      rw [length_eq_total, Scalar.le_real, Scalar.epsilon_real, decide_eq_true_eq]
      exact not_lt.mp hlong
    rw [sample, if_pos hshort]
    obtain ⟨w, rest, hw⟩ := List.exists_cons_of_ne_nil hne
    show b.Holds (p.waypoints.headD Vec2.zero)
    rw [hw] at h ⊢
    exact h w List.mem_cons_self

end Path

/-! ## City blocks -/

namespace Town

variable {town : Town ℝ} {column row : Nat} {p : Vec2 ℝ}

/-- A town has at least one block along any length. -/
theorem blocksIn_pos (town : Town ℝ) (length : ℝ) : 0 < town.blocksIn length :=
  Nat.le_max_left _ _

/-- Blocks can be counted in 32 bits. -/
theorem blocksIn_le (town : Town ℝ) (length : ℝ) : town.blocksIn length ≤ UInt32.size := by
  have hfloor : Scalar.floorNat (UInt32.size - 1) (length / town.blockSize) ≤ UInt32.size - 1 :=
    Nat.min_le_left _ _
  exact Nat.max_le.mpr ⟨by decide, hfloor.trans (by decide)⟩

/-- As many blocks as are counted fit into a length; of a block that is longer, only as much as fits
is used. -/
theorem mul_add_min_le {length : ℝ} {i : Nat} (hsize : 0 < town.blockSize) (hlength : 0 ≤ length)
    (hi : i < town.blocksIn length) : i * town.blockSize + min town.blockSize length ≤ length := by
  by_cases hzero : i = 0
  · rw [hzero, Nat.cast_zero, zero_mul, zero_add]
    exact min_le_right _ _
  · -- A second block fits only if the whole quotient says so.
    have hfloor : i + 1 ≤ ⌊length / town.blockSize⌋₊ := by
      rw [blocksIn, Scalar.floorNat_real] at hi
      omega
    have hquotient : ((i : ℝ) + 1) ≤ length / town.blockSize := by
      refine le_trans ?_ (Nat.floor_le (div_nonneg hlength hsize.le))
      exact_mod_cast hfloor
    have hfits := (le_div_iff₀ hsize).mp hquotient
    have hmin := min_le_left town.blockSize length
    linarith

/-- A block is as wide and as deep as whatever fits into the town and into the size of blocks. -/
theorem le_extent_block {w : ℝ} (hx : w ≤ town.bounds.extent.x) (hy : w ≤ town.bounds.extent.y)
    (hsize : w ≤ town.blockSize) (column row : Nat) :
    w ≤ (town.block column row).extent.x ∧ w ≤ (town.block column row).extent.y := by
  simp only [block, Box.ofCorner, Scalar.min_real]
  exact ⟨le_min hsize hx, le_min hsize hy⟩

/-- **City blocks lie within the bounds.** -/
theorem holds_of_block (hx : 0 ≤ town.bounds.extent.x) (hy : 0 ≤ town.bounds.extent.y)
    (hsize : 0 < town.blockSize) (hcolumn : column < town.blockColumns)
    (hrow : row < town.blockRows) (h : (town.block column row).Holds p) : town.bounds.Holds p := by
  have hright := mul_add_min_le hsize hx hcolumn
  have hfar := mul_add_min_le hsize hy hrow
  have hleft : 0 ≤ (column : ℝ) * town.blockSize := mul_nonneg (Nat.cast_nonneg _) hsize.le
  have hnear : 0 ≤ (row : ℝ) * town.blockSize := mul_nonneg (Nat.cast_nonneg _) hsize.le
  obtain ⟨left, right, near, far⟩ := h
  simp only [block, Box.ofCorner, Scalar.ofNat_real, Scalar.min_real] at left right near far
  constructor <;> linarith

end Town

/-! ## Courses -/

/-- **Whether a course stays in a box**: it has waypoints, and they are all there. -/
structure Course.StaysIn (c : Course ℝ) (b : Box ℝ) : Prop where
  ne_nil : c.route.waypoints ≠ []
  holds : ∀ w ∈ c.route.waypoints, b.Holds w

namespace Course

section

variable {α : Type} [Scalar α] {route : Path α} {slowest fastest : α} {s s' : Keystream}
  {c : Course α}

/-- An agent drawn on a route follows it. -/
theorem route_of_drawOn (h : drawOn route slowest fastest s = some (c, s')) : c.route = route := by
  simp only [drawOn, Option.bind_eq_bind, Option.bind_eq_some_iff, Option.pure_def,
    Option.some.injEq, Prod.mk.injEq, Prod.exists] at h
  obtain ⟨travelled, t, -, speed, t', -, rfl, -⟩ := h
  rfl

/-- A block is drawn by its column and then by its row. -/
theorem drawBlock_fst (t : Town α) (s : Keystream) :
    (drawBlock t s).1
      = t.block (s.below t.blockColumns).1 ((s.below t.blockColumns).2.below t.blockRows).1 := by
  unfold drawBlock
  generalize s.below t.blockColumns = column
  rfl

/-- A vehicle is drawn on the way round a block. -/
theorem drawVehicle_eq (t : Town α) (s : Keystream) :
    drawVehicle t s = drawOn ⟨(drawBlock t s).1.corners.toList, true⟩ (Scalar.ofNat 6)
      (Scalar.ofNat 12) (drawBlock t s).2 := by
  unfold drawVehicle
  generalize drawBlock t s = block
  rfl

/-- A pedestrian is drawn on one side of a sidewalk. -/
theorem drawPedestrian_eq (t : Town α) (s : Keystream) :
    drawPedestrian t s
      = drawOn (side ((drawBlock t s).1.inset sidewalkInset) ((drawBlock t s).2.below 4).1)
        (Scalar.decimal 8 1) (Scalar.decimal 18 1) ((drawBlock t s).2.below 4).2 := by
  unfold drawPedestrian
  generalize drawBlock t s = block
  rfl

end

variable {town : Town ℝ} {b : Box ℝ} {c : Course ℝ} {s s' : Keystream}

/-- On exact routes agents can always be drawn. -/
theorem exists_drawOn {slowest fastest : ℝ} (h : slowest < fastest) (route : Path ℝ)
    (s : Keystream) : ∃ c s', drawOn route slowest fastest s = some (c, s') := by
  have hlength : (Scalar.ofNat 0 : ℝ) < Scalar.max route.length (Scalar.ofNat 1) := by
    rw [Scalar.max_real, Scalar.ofNat_real, Scalar.ofNat_real, Nat.cast_zero, Nat.cast_one]
    exact lt_max_of_lt_right one_pos
  obtain ⟨travelled, t, ht⟩ := Keystream.exists_between hlength s
  obtain ⟨speed, t', ht'⟩ := Keystream.exists_between h t
  refine ⟨⟨route, travelled, speed⟩, t', ?_⟩
  rw [drawOn, ht]
  show (t.between slowest fastest).bind _ = _
  rw [ht']
  rfl

/-- A vehicle can be drawn in any town. -/
theorem exists_drawVehicle (town : Town ℝ) (s : Keystream) :
    ∃ c s', drawVehicle town s = some (c, s') := by
  rw [drawVehicle_eq]
  exact exists_drawOn (by norm_num) _ _

/-- A pedestrian can be drawn in any town. -/
theorem exists_drawPedestrian (town : Town ℝ) (s : Keystream) :
    ∃ c s', drawPedestrian town s = some (c, s') := by
  rw [drawPedestrian_eq]
  exact exists_drawOn (by norm_num) _ _

/-- A block that is drawn is one of the town's. -/
theorem exists_block_of_drawBlock (town : Town ℝ) (s : Keystream) :
    ∃ column < town.blockColumns, ∃ row < town.blockRows,
      (drawBlock town s).1 = town.block column row :=
  ⟨_, Keystream.below_lt (town.blocksIn_pos _) (town.blocksIn_le _) _,
    _, Keystream.below_lt (town.blocksIn_pos _) (town.blocksIn_le _) _, drawBlock_fst town s⟩

/-- Where a course stays it is. -/
theorem StaysIn.holds_pose (h : c.StaysIn b) :
    b.Holds ⟨c.pose.location.x, c.pose.location.y⟩ :=
  Path.holds_sample h.ne_nil h.holds c.travelled

/-- What stays in a box stays there after any ticks. -/
theorem StaysIn.after (h : c.StaysIn b) (ticks : List Duration) : (c.after ticks).StaysIn b := by
  obtain ⟨hne, hholds⟩ := h
  rw [← c.route_after ticks] at hne hholds
  exact ⟨hne, hholds⟩

/-- Vehicles drive within the bounds. -/
theorem staysIn_of_drawVehicle (hx : 0 ≤ town.bounds.extent.x) (hy : 0 ≤ town.bounds.extent.y)
    (hsize : 0 < town.blockSize) (h : drawVehicle town s = some (c, s')) :
    c.StaysIn town.bounds := by
  obtain ⟨column, hcolumn, row, hrow, hblock⟩ := exists_block_of_drawBlock town s
  rw [drawVehicle_eq, hblock] at h
  have hroute := route_of_drawOn h
  obtain ⟨hwide, hdeep⟩ := Town.le_extent_block hx hy hsize.le column row
  constructor
  · rw [hroute]
    exact List.cons_ne_nil _ _
  · rw [hroute]
    intro w hw
    exact Town.holds_of_block hx hy hsize hcolumn hrow (Box.holds_of_mem_corners hwide hdeep hw)

/-- Pedestrians walk within the bounds, if blocks have room for their sidewalks. -/
theorem staysIn_of_drawPedestrian (hx : 5 ≤ town.bounds.extent.x) (hy : 5 ≤ town.bounds.extent.y)
    (hsize : 5 ≤ town.blockSize) (h : drawPedestrian town s = some (c, s')) :
    c.StaysIn town.bounds := by
  obtain ⟨column, hcolumn, row, hrow, hblock⟩ := exists_block_of_drawBlock town s
  rw [drawPedestrian_eq, hblock] at h
  have hroute := route_of_drawOn h
  have hmargin : (sidewalkInset : ℝ) = 5 / 2 := by
    rw [sidewalkInset, Scalar.decimal_real]
    norm_num
  obtain ⟨hwide, hdeep⟩ := Town.le_extent_block hx hy hsize column row
  -- A block of five metres has room for a sidewalk on every side.
  have hcore : 0 ≤ ((town.block column row).inset sidewalkInset).extent.x
      ∧ 0 ≤ ((town.block column row).inset sidewalkInset).extent.y := by
    rw [Box.extent_inset, hmargin]
    exact ⟨by linarith, by linarith⟩
  have hcorners : ∀ w ∈ c.route.waypoints,
      w ∈ ((town.block column row).inset sidewalkInset).corners.toList := by
    rw [hroute]
    intro w hw
    simp only [side, List.mem_cons, List.not_mem_nil, or_false] at hw
    rcases hw with rfl | rfl
    · exact Vector.mem_toList_iff.mpr (Vector.getElem_mem _)
    · exact Vector.mem_toList_iff.mpr (Vector.getElem_mem _)
  constructor
  · rw [hroute]
    exact List.cons_ne_nil _ _
  · intro w hw
    refine Town.holds_of_block (by linarith) (by linarith) (by linarith) hcolumn hrow ?_
    have hpositive : (0 : ℝ) ≤ sidewalkInset := by
      rw [hmargin]
      norm_num
    refine Box.holds_of_inset hpositive ?_
    exact Box.holds_of_mem_corners hcore.1 hcore.2 (hcorners w hw)

end Course

/-! ## Episodes -/

namespace Episode

variable {town : Town ℝ} {settings : Settings} {drawn : Seeds} {e : Episode ℝ}

/-- In exact arithmetic every episode can begin. -/
theorem exists_begin (town : Town ℝ) (settings : Settings) (drawn : Seeds) :
    ∃ e, begin town settings drawn = some e := by
  obtain ⟨vehicles, hvehicles⟩ := Keystream.exists_many (Course.exists_drawVehicle town)
    settings.vehicles.toNat (.ofSeed (settings.seeds drawn).vehicles)
  obtain ⟨pedestrians, hpedestrians⟩ := Keystream.exists_many (Course.exists_drawPedestrian town)
    settings.pedestrians.toNat (.ofSeed (settings.seeds drawn).pedestrians)
  rw [begin_eq, hvehicles, hpedestrians]
  exact ⟨_, rfl⟩

/-- A moving agent that is reported follows one of the courses. -/
theorem exists_course_of_mem_agents (horder : e.InOrder) {a : Agent ℝ} {now : Int64}
    (h : a ∈ (e.frame now).agents)
    (hmoves : a.kind.isVehicle = true ∨ a.kind.isPedestrian = true) :
    ∃ c ∈ e.vehicles ++ e.pedestrians, a.kind.pose = c.pose := by
  rw [agents_frame horder] at h
  split at h
  · rw [List.mem_append, List.mem_append] at h
    rcases h with (hvehicle | hpedestrian) | hstill
    · obtain ⟨c, hc, hkind⟩ := List.mem_map.mp (Agent.kind_mem_of_mem_numbered hvehicle)
      exact ⟨c, List.mem_append_left _ hc, hkind ▸ rfl⟩
    · obtain ⟨c, hc, hkind⟩ := List.mem_map.mp (Agent.kind_mem_of_mem_numbered hpedestrian)
      exact ⟨c, List.mem_append_right _ hc, hkind ▸ rfl⟩
    · obtain ⟨hvehicle, hpedestrian⟩ := still_of_mem (Agent.kind_mem_of_mem_numbered hstill)
      rw [hvehicle, hpedestrian] at hmoves
      rcases hmoves with hmoves | hmoves <;> cases hmoves
  · exact absurd h List.not_mem_nil

/-- All courses stay within the bounds of the town. -/
theorem staysIn_of_begin (hx : 5 ≤ town.bounds.extent.x) (hy : 5 ≤ town.bounds.extent.y)
    (hsize : 5 ≤ town.blockSize) (h : begin town settings drawn = some e) :
    ∀ c ∈ e.vehicles ++ e.pedestrians, c.StaysIn town.bounds := by
  obtain ⟨hvehicles, hpedestrians, -⟩ := drawn_of_begin h
  refine List.forall_mem_append.mpr ⟨?_, ?_⟩
  · exact Keystream.forall_mem_of_many (fun _ _ _ => Course.staysIn_of_drawVehicle
      (by linarith) (by linarith) (by linarith)) hvehicles
  · exact Keystream.forall_mem_of_many
      (fun _ _ _ => Course.staysIn_of_drawPedestrian hx hy hsize) hpedestrians

/-- **Agents never leave their town.** In exact arithmetic, in a town whose bounds and blocks are at
least as wide as two sidewalks, an episode begins with any settings and seeds, and whatever time
passes, every vehicle and every pedestrian is within the bounds. -/
theorem holds_of_begin (hx : 5 ≤ town.bounds.extent.x) (hy : 5 ≤ town.bounds.extent.y)
    (hsize : 5 ≤ town.blockSize) (settings : Settings) (drawn : Seeds) :
    ∃ e, begin town settings drawn = some e
      ∧ ∀ ticks now, ∀ a ∈ ((e.after ticks).frame now).agents,
        a.kind.isVehicle = true ∨ a.kind.isPedestrian = true →
        town.bounds.Holds ⟨a.kind.pose.location.x, a.kind.pose.location.y⟩ := by
  obtain ⟨e, hbegin⟩ := exists_begin town settings drawn
  refine ⟨e, hbegin, fun ticks now a ha hmoves => ?_⟩
  obtain ⟨present, hpresent, hpose⟩ :=
    exists_course_of_mem_agents ((inOrder_of_begin hbegin).after ticks) ha hmoves
  rw [vehicles_after, pedestrians_after, ← List.map_append] at hpresent
  obtain ⟨c, hc, rfl⟩ := List.mem_map.mp hpresent
  rw [hpose]
  exact ((staysIn_of_begin hx hy hsize hbegin c hc).after ticks).holds_pose

/-- Two vehicles and a pedestrian stay within the bounds of the town that is served by default. -/
theorem holds_of_begin_standard :
    (5 ≤ (Town.standard : Town ℝ).bounds.extent.x ∧ 5 ≤ (Town.standard : Town ℝ).bounds.extent.y
        ∧ 5 ≤ (Town.standard : Town ℝ).blockSize)
      ∧ ∃ e, begin (Town.standard : Town ℝ) (.peopled 2 1) default = some e
        ∧ ∀ ticks now, ∀ a ∈ ((e.after ticks).frame now).agents,
          a.kind.isVehicle = true ∨ a.kind.isPedestrian = true →
          (Box.ofCorner 10 10 195 162 : Box ℝ).Holds
            ⟨a.kind.pose.location.x, a.kind.pose.location.y⟩ := by
  have hx : (5 : ℝ) ≤ (Town.standard : Town ℝ).bounds.extent.x := by
    norm_num [Town.standard, Box.ofCorner]
  have hy : (5 : ℝ) ≤ (Town.standard : Town ℝ).bounds.extent.y := by
    norm_num [Town.standard, Box.ofCorner]
  have hsize : (5 : ℝ) ≤ (Town.standard : Town ℝ).blockSize := by
    norm_num [Town.standard]
  have hbounds : (Town.standard : Town ℝ).bounds = .ofCorner 10 10 195 162 := by
    norm_num [Town.standard, Box.ofCorner]
  obtain ⟨e, hbegin, hstays⟩ := holds_of_begin hx hy hsize (.peopled 2 1) default
  rw [hbounds] at hstays
  exact ⟨⟨hx, hy, hsize⟩, e, hbegin, hstays⟩

end Episode

end TownTraffic
