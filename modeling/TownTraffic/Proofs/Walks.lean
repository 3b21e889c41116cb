import TownTraffic.Geometry.Path
import TownTraffic.Proofs.Exact

/-!
# A path is parametrised by its length

In exact arithmetic the walker on a path is found in two steps: the distance is folded back onto the
path, and then measured off along the segments.

* **`Path.total`** — the length of some segments; **`Path.Carries`** whether one is long enough.
* **`Path.StandsOn`** — where and how a walker stands on a segment;
  **`Path.exists_standsOn_walk`** a walk ends on the first segment that is long enough.
* **`Path.folded`**, **`Path.isReturning`** — the distance folded back onto the path, and whether it
  is walked backwards there.
* **`Path.standsOn_sample`** — a sample is the stand at the folded distance.
-/

namespace TownTraffic

open Real

namespace Path

/-! ## Segments and their lengths -/

/-- How long some segments are together. -/
noncomputable def total (segments : List (Vec2 ℝ × Vec2 ℝ)) : ℝ :=
  (segments.map fun s => s.1.distance s.2).sum

/-- No segments have no length. -/
@[simp] theorem total_nil : total [] = 0 := rfl

/-- The length of some segments is that of the first one and of the others. -/
@[simp] theorem total_cons (s : Vec2 ℝ × Vec2 ℝ) (segments : List (Vec2 ℝ × Vec2 ℝ)) :
    total (s :: segments) = s.1.distance s.2 + total segments := List.sum_cons

/-- A path is as long as its segments together. -/
theorem length_eq_total (p : Path ℝ) : p.length = total p.segments := by
  have hfold (lengths : List ℝ) (sofar : ℝ) :
      lengths.foldl (· + ·) sofar = sofar + lengths.sum := by
    induction lengths generalizing sofar with
    | nil => rw [List.foldl_nil, List.sum_nil, add_zero]
    | cons l lengths ih => rw [List.foldl_cons, ih, List.sum_cons, add_assoc]
  show (p.segments.map _).foldl (· + ·) (-((0 : ℕ) : ℝ)) = _
  rw [hfold, Nat.cast_zero, neg_zero, zero_add, total]

/-- A path with some length has a first waypoint. -/
theorem waypoints_ne_nil {p : Path ℝ} (h : 0 < total p.segments) : p.waypoints ≠ [] := by
  intro hnil
  have hsegments : p.segments = [] := by
    rw [segments, closing, hnil]
    cases p.closed <;> rfl
  rw [hsegments, total_nil] at h
  exact lt_irrefl 0 h

/-! ## Walking along segments -/

section

variable {segments : List (Vec2 ℝ × Vec2 ℝ)} {start stop : Vec2 ℝ} {r : ℝ} {j : ℕ}
  {backwards : Bool} {last : Stand ℝ}

/-- **Whether a segment carries a walker** at a distance along some segments: it has some length,
and the walker is not beyond its end. -/
def Carries (segments : List (Vec2 ℝ × Vec2 ℝ)) (r : ℝ) (j : ℕ) : Prop :=
  ∃ s, segments[j]? = some s ∧ 0 < s.1.distance s.2 ∧ r ≤ total (segments.take (j + 1))

/-- The first segment carries a walker that is not beyond its end. -/
theorem carries_zero :
    Carries ((start, stop) :: segments) r 0
      ↔ 0 < start.distance stop ∧ r ≤ start.distance stop := by
  simp [Carries]

/-- A later segment carries a walker just if it does so among the others, which the walker reaches
with what the first one leaves of the distance. -/
theorem carries_succ :
    Carries ((start, stop) :: segments) r (j + 1)
      ↔ Carries segments (r - start.distance stop) j := by
  simp only [Carries, List.getElem?_cons_succ, List.take_succ_cons, total_cons, sub_le_iff_le_add']

/-- The first segment that carries the walker is the very first one, or one of the others. -/
theorem isLeast_carries_succ (hzero : ¬ Carries ((start, stop) :: segments) r 0)
    (h : IsLeast {i | Carries segments (r - start.distance stop) i} j) :
    IsLeast {i | Carries ((start, stop) :: segments) r i} (j + 1) := by
  constructor
  · exact carries_succ.mpr h.1
  · intro i hi
    cases i with
    | zero => exact absurd hi hzero
    | succ i => exact Nat.succ_le_succ (h.2 (carries_succ.mp hi))

/-- **How a walker stands** at a distance along some segments: on the first one that carries it, as
far from its start as is left of the distance, and facing its end, or facing back to its start. -/
structure StandsOn (segments : List (Vec2 ℝ × Vec2 ℝ)) (r : ℝ) (backwards : Bool)
    (stand : Stand ℝ) (j : ℕ) (start stop : Vec2 ℝ) : Prop where
  segment : segments[j]? = some (start, stop)
  first : IsLeast {i | Carries segments r i} j
  position : stand.position
    = start + (stop - start) * ((r - total (segments.take j)) / start.distance stop)
  heading : ∃ angle, (stop - start).Heads angle
    ∧ stand.heading = if backwards then modulo (angle + 180) 360 else angle

/-- A walker that turns round faces the opposite direction. -/
theorem heading_eq (backwards : Bool) (v : Vec2 ℝ) :
    ∃ angle, v.Heads angle
      ∧ heading backwards v = if backwards then modulo (angle + 180) 360 else angle := by
  have hturn : (0 : ℝ) < 360 := by norm_num
  refine ⟨_, v.heads_modulo_arg, ?_⟩
  unfold heading
  cases backwards with
  | false => exact Scalar.remainder_of_pos hturn _
  | true =>
    obtain ⟨k, hk⟩ := exists_modulo_eq hturn (Scalar.toDegrees (Scalar.atan2 v.y v.x))
    show Scalar.remainder (Scalar.toDegrees (Scalar.atan2 v.y v.x) + ((180 : ℕ) : ℝ))
        ((360 : ℕ) : ℝ)
      = modulo (modulo (Scalar.toDegrees (Scalar.atan2 v.y v.x)) 360 + 180) 360
    rw [hk, ← modulo_add_mul hturn _ k, Nat.cast_ofNat, Nat.cast_ofNat,
      Scalar.remainder_of_pos hturn]
    congr 1
    ring

/-- A walk ends on the first segment if it is long enough, and else goes on behind it. -/
theorem walk_cons (backwards : Bool) (start stop : Vec2 ℝ) (segments : List (Vec2 ℝ × Vec2 ℝ))
    (r : ℝ) (last : Stand ℝ) :
    walk backwards ((start, stop) :: segments) r last
      = if r ≤ start.distance stop ∧ 0 < start.distance stop then
          ⟨start + (stop - start) * (r / start.distance stop), heading backwards (stop - start)⟩
        else walk backwards segments (r - start.distance stop)
          ⟨stop, heading backwards (stop - start)⟩ := by
  rw [Vec2.distance_comm]
  show (if (decide (r ≤ (stop - start).length)
    && decide (((0 : ℕ) : ℝ) < (stop - start).length)) = true then _ else _) = _
  simp only [Bool.and_eq_true, decide_eq_true_eq, Nat.cast_zero]
  rfl

/-- **A walk ends on the first segment that is long enough**, unless the distance is longer than all
of them. -/
theorem exists_standsOn_walk (hpos : 0 < total segments) (hle : r ≤ total segments) :
    ∃ j start stop,
      StandsOn segments r backwards (walk backwards segments r last) j start stop := by
  induction segments generalizing r last with
  | nil => exact absurd hpos (lt_irrefl 0)
  | cons s segments ih =>
    obtain ⟨start, stop⟩ := s
    rw [total_cons] at hpos hle
    have hnonneg := Vec2.distance_nonneg start stop
    rw [walk_cons]
    by_cases hhere : r ≤ start.distance stop ∧ 0 < start.distance stop
    · rw [if_pos hhere]
      refine ⟨0, start, stop, rfl, ⟨carries_zero.mpr hhere.symm, fun _ _ => Nat.zero_le _⟩, ?_,
        heading_eq _ _⟩
      rw [List.take_zero, total_nil, sub_zero]
    · rw [if_neg hhere]
      -- If the first segment does not carry the walker, the others are longer than what is left.
      have hrest : 0 < total segments := by
        by_contra hnot
        refine hhere ⟨?_, ?_⟩
        · linarith
        · linarith
      have hleft : r - start.distance stop ≤ total segments := by linarith
      obtain ⟨j, start', stop', h⟩ := @ih (r - start.distance stop)
        ⟨stop, heading backwards (stop - start)⟩ hrest hleft
      refine ⟨j + 1, start', stop', ?_, ?_, ?_, h.heading⟩
      · rw [List.getElem?_cons_succ, h.segment]
      · exact isLeast_carries_succ (mt (fun h0 => (carries_zero.mp h0).symm) hhere) h.first
      · rw [h.position, List.take_succ_cons, total_cons, sub_sub]

/-- Where a walker is does not depend on which way it faces. -/
theorem position_walk_eq (backwards backwards' : Bool) (segments : List (Vec2 ℝ × Vec2 ℝ))
    (r : ℝ) {last last' : Stand ℝ} (h : last.position = last'.position) :
    (walk backwards segments r last).position = (walk backwards' segments r last').position := by
  induction segments generalizing r last last' with
  | nil => exact h
  | cons s segments ih =>
    obtain ⟨start, stop⟩ := s
    rw [walk_cons, walk_cons]
    split
    · rfl
    · exact ih _ rfl

/-- A segment does not carry a walker before it begins. -/
theorem total_take_le (hr : 0 ≤ r) (h : IsLeast {i | Carries segments r i} j) :
    total (segments.take j) ≤ r := by
  induction segments generalizing r j with
  | nil => simpa using hr
  | cons s segments ih =>
    obtain ⟨start, stop⟩ := s
    have hnonneg := Vec2.distance_nonneg start stop
    cases j with
    | zero => simpa using hr
    | succ j =>
      have hzero : ¬ Carries ((start, stop) :: segments) r 0 := fun h0 =>
        absurd (h.2 h0) (Nat.not_succ_le_zero j)
      have hrest : IsLeast {i | Carries segments (r - start.distance stop) i} j :=
        ⟨carries_succ.mp h.1, fun i hi => Nat.le_of_succ_le_succ (h.2 (carries_succ.mpr hi))⟩
      -- The walker has passed the first segment, or it would stand on it.
      have hleft : 0 ≤ r - start.distance stop := by
        by_contra hnot
        refine hzero (carries_zero.mpr ⟨?_, ?_⟩)
        · linarith
        · linarith
      have hle := ih hleft hrest
      rw [List.take_succ_cons, total_cons]
      linarith

/-- One segment more adds its length. -/
theorem total_take_succ (h : segments[j]? = some (start, stop)) :
    total (segments.take (j + 1)) = total (segments.take j) + start.distance stop := by
  rw [List.take_add_one, h, Option.toList_some, total, List.map_append, List.sum_append, total]
  simp

/-- Who stands on a segment is somewhere between its ends. -/
theorem StandsOn.exists_between {stand : Stand ℝ}
    (h : StandsOn segments r backwards stand j start stop) (hr : 0 ≤ r) :
    ∃ t : ℝ, 0 ≤ t ∧ t ≤ 1 ∧ stand.position = start + (stop - start) * t := by
  obtain ⟨s, hs, hpos, hle⟩ := h.first.1
  obtain rfl := Option.some.inj (hs.symm.trans h.segment)
  have hge := total_take_le hr h.first
  rw [total_take_succ h.segment] at hle
  refine ⟨_, div_nonneg (by linarith) hpos.le, (div_le_one hpos).mpr (by linarith), h.position⟩

end

/-! ## Folding the distance -/

section

variable {p : Path ℝ}

/-- How long the walk there and back is. -/
noncomputable def roundTrip (p : Path ℝ) : ℝ := total p.segments + total p.segments

/-- **The distance folded back onto the path**: a closed path begins anew at its end, an open one is
walked back from there. -/
noncomputable def folded (p : Path ℝ) (d : ℝ) : ℝ :=
  if p.closed then modulo d (total p.segments)
  else if modulo d p.roundTrip ≤ total p.segments then modulo d p.roundTrip
  else p.roundTrip - modulo d p.roundTrip

/-- Whether the walker is on its way back. -/
noncomputable def isReturning (p : Path ℝ) (d : ℝ) : Bool :=
  !p.closed && decide (total p.segments < modulo d p.roundTrip)

/-- The distance after which the walk begins anew. -/
noncomputable def period (p : Path ℝ) : ℝ :=
  if p.closed then total p.segments else p.roundTrip

/-- A path there and back is twice as long as its segments. -/
theorem roundTrip_eq (p : Path ℝ) : p.roundTrip = 2 * total p.segments := (two_mul _).symm

/-- A path with some length has some length there and back. -/
theorem roundTrip_pos (h : 0 < total p.segments) : 0 < p.roundTrip := add_pos h h

/-- A distance is brought back onto the path, and it is told whether the walker is on its way
back. -/
theorem fold_eq (h : 0 < total p.segments) (d : ℝ) :
    fold p.closed p.length d = (p.folded d, p.isReturning d) := by
  rw [length_eq_total, fold, folded, isReturning]
  cases p.closed with
  | true => rw [if_pos rfl, if_pos rfl, Scalar.remainder_of_pos h]; rfl
  | false =>
    rw [if_neg Bool.false_ne_true, if_neg Bool.false_ne_true]
    simp only [Scalar.ofNat_real, Nat.cast_ofNat, ← roundTrip_eq,
      Scalar.remainder_of_pos (roundTrip_pos h), Scalar.lt_real, decide_eq_true_eq, Bool.not_false,
      Bool.true_and]
    by_cases hback : total p.segments < modulo d p.roundTrip
    · rw [if_pos hback, if_neg (not_le.mpr hback), decide_eq_true hback]
    · rw [if_neg hback, if_pos (not_lt.mp hback), decide_eq_false hback]

/-- No walker is before the start. -/
theorem folded_nonneg (h : 0 < total p.segments) (d : ℝ) : 0 ≤ p.folded d := by
  have hlt := modulo_lt (roundTrip_pos h) d
  unfold folded
  split_ifs
  · exact modulo_nonneg h d
  · exact modulo_nonneg (roundTrip_pos h) d
  · linarith

/-- No walker is beyond the end. -/
theorem folded_le (h : 0 < total p.segments) (d : ℝ) : p.folded d ≤ total p.segments := by
  unfold folded
  split_ifs with hclosed hthere
  · exact (modulo_lt h d).le
  · exact hthere
  · rw [roundTrip_eq] at hthere ⊢
    linarith

/-- After a whole number of periods the walker is at the same place. -/
theorem folded_add_period (h : 0 < total p.segments) (d : ℝ) (k : ℤ) :
    p.folded (d + k * p.period) = p.folded d := by
  unfold folded period
  by_cases hclosed : p.closed = true
  · rw [if_pos hclosed, if_pos hclosed, if_pos hclosed, modulo_add_mul h]
  · rw [if_neg hclosed, if_neg hclosed, if_neg hclosed, modulo_add_mul (roundTrip_pos h)]

/-- After a whole number of periods the walker goes the same way. -/
theorem isReturning_add_period (h : 0 < total p.segments) (d : ℝ) (k : ℤ) :
    p.isReturning (d + k * p.period) = p.isReturning d := by
  unfold isReturning period
  cases p.closed with
  | true => rfl
  | false => rw [if_neg Bool.false_ne_true, modulo_add_mul (roundTrip_pos h)]

/-- On an open path, the walker comes back the way it went. -/
theorem folded_sub (h : 0 < total p.segments) (hopen : p.closed = false) (d : ℝ) :
    p.folded (p.roundTrip - d) = p.folded d := by
  have hlt := modulo_lt (roundTrip_pos h) d
  have hnonneg := modulo_nonneg (roundTrip_pos h) d
  have hboth := roundTrip_eq p
  unfold folded
  rw [hopen, if_neg Bool.false_ne_true, if_neg Bool.false_ne_true, modulo_sub (roundTrip_pos h)]
  by_cases hzero : modulo d p.roundTrip = 0
  · rw [if_pos hzero, hzero, if_pos h.le]
  · rw [if_neg hzero]
    split_ifs with hback hthere hthere
    · linarith
    · rfl
    · ring
    · linarith

/-! ## Samples -/

/-- A path longer than nothing is walked. -/
theorem sample_eq_walk (h : 1 / 2 ^ 23 < total p.segments) (d : ℝ) :
    p.sample d = walk (p.isReturning d) p.segments (p.folded d)
      ⟨p.waypoints.headD Vec2.zero, 0⟩ := by
  have hpos : 0 < total p.segments := lt_trans (by norm_num) h
  have hlong : ¬ Scalar.le p.length Scalar.epsilon = true := by
    rw [length_eq_total, Scalar.le_real, Scalar.epsilon_real, decide_eq_true_eq]
    exact not_le.mpr h
  rw [sample]
  simp only [if_neg hlong, fold_eq hpos, Scalar.ofNat_real, Nat.cast_zero]

/-- A sample is the stand at the folded distance. -/
theorem exists_standsOn_sample (h : 1 / 2 ^ 23 < total p.segments) (d : ℝ) :
    ∃ j start stop,
      StandsOn p.segments (p.folded d) (p.isReturning d) (p.sample d) j start stop := by
  have hpos : 0 < total p.segments := lt_trans (by norm_num) h
  rw [sample_eq_walk h]
  exact exists_standsOn_walk hpos (folded_le hpos d)

/-- **A path is parametrised by its length.** On a path with some length, the sample at any
distance, even a negative one, is the point of the first segment that reaches the folded distance,
as far along it as is left of that distance, and its heading is the direction of this segment,
turned round exactly when an open path is walked back. So samples repeat after the length of a
closed path and after twice the length of an open one, and on an open path the walker comes back the
way it went. -/
theorem standsOn_sample (h : 1 / 2 ^ 23 < total p.segments) (d : ℝ) :
    p.waypoints ≠ []
      ∧ (∃ j start stop,
        StandsOn p.segments (p.folded d) (p.isReturning d) (p.sample d) j start stop)
      ∧ (∀ k : ℤ, p.sample (d + k * p.period) = p.sample d)
      ∧ (p.closed = false →
        (p.sample (2 * total p.segments - d)).position = (p.sample d).position) := by
  have hpos : 0 < total p.segments := lt_trans (by norm_num) h
  refine ⟨waypoints_ne_nil hpos, exists_standsOn_sample h d, fun k => ?period, fun hopen => ?back⟩
  case period =>
    rw [sample_eq_walk h, sample_eq_walk h, folded_add_period hpos, isReturning_add_period hpos]
  case back =>
    rw [← roundTrip_eq, sample_eq_walk h, sample_eq_walk h, folded_sub hpos hopen]
    exact position_walk_eq _ _ _ _ rfl

end

/-! ### Straight on -/

/-- An open path along the first axis. -/
noncomputable def straight (l : ℝ) : Path ℝ := ⟨[⟨0, 0⟩, ⟨l, 0⟩], false⟩

/-- A straight path has one segment. -/
theorem segments_straight (l : ℝ) : (straight l).segments = [(⟨0, 0⟩, ⟨l, 0⟩)] := rfl

/-- Two points of an axis are as far apart as their coordinates. -/
theorem distance_straight {l : ℝ} (h : 0 ≤ l) : (⟨0, 0⟩ : Vec2 ℝ).distance ⟨l, 0⟩ = l := by
  rw [Vec2.distance, Vec2.length_eq, Vec2.sub_x, Vec2.sub_y, zero_sub, sub_self, neg_sq,
    zero_pow two_ne_zero, add_zero, Real.sqrt_sq h]

/-- A straight path is as long as its segment. -/
theorem total_straight {l : ℝ} (h : 0 ≤ l) : total (straight l).segments = l := by
  rw [segments_straight, total_cons, total_nil, add_zero, distance_straight h]

/-! ### Round a corner -/

/-- An open path that runs along the first axis and then, from a waypoint that is there twice, along
the second. -/
noncomputable def bent (l m : ℝ) : Path ℝ := ⟨[⟨0, 0⟩, ⟨l, 0⟩, ⟨l, 0⟩, ⟨l, m⟩], false⟩

section

variable {l m r : ℝ}

/-- The second of its segments has no length. -/
theorem segments_bent (l m : ℝ) :
    (bent l m).segments = [(⟨0, 0⟩, ⟨l, 0⟩), (⟨l, 0⟩, ⟨l, 0⟩), (⟨l, 0⟩, ⟨l, m⟩)] := rfl

/-- The last segment is as long as its way along the second axis. -/
theorem distance_aside (h : 0 ≤ m) : (⟨l, 0⟩ : Vec2 ℝ).distance ⟨l, m⟩ = m := by
  rw [Vec2.distance, Vec2.length_eq, Vec2.sub_x, Vec2.sub_y, sub_self, zero_sub, neg_sq,
    zero_pow two_ne_zero, zero_add, Real.sqrt_sq h]

/-- The way to the corner is all that comes before the last segment. -/
theorem total_take_bent (h : 0 ≤ l) : total ((bent l m).segments.take 2) = l := by
  rw [segments_bent, List.take_succ_cons, List.take_succ_cons, List.take_zero, total_cons,
    total_cons, total_nil, distance_straight h, Vec2.distance_self, add_zero, add_zero]

/-- The path is as long as its two ways. -/
theorem total_bent (hl : 0 ≤ l) (hm : 0 ≤ m) : total (bent l m).segments = l + m := by
  rw [segments_bent, total_cons, total_cons, total_cons, total_nil, distance_straight hl,
    Vec2.distance_self, distance_aside hm, zero_add, add_zero]

/-- The second axis is a quarter of a turn away from the first. -/
theorem heads_aside (h : 0 ≤ m) : ((⟨l, m⟩ : Vec2 ℝ) - ⟨l, 0⟩).Heads 90 := by
  have hlength : ((⟨l, m⟩ : Vec2 ℝ) - ⟨l, 0⟩).length = m :=
    (Vec2.distance_comm _ _).trans (distance_aside h)
  have hquarter : (90 : ℝ) * (π / 180) = π / 2 := by ring
  refine ⟨by norm_num, by norm_num, ?_⟩
  rw [hlength]
  show (⟨l - l, m - 0⟩ : Vec2 ℝ) = ⟨m * Real.cos (90 * (π / 180)), m * Real.sin (90 * (π / 180))⟩
  rw [hquarter, Real.cos_pi_div_two, Real.sin_pi_div_two, mul_zero, mul_one, sub_self, sub_zero]

/-- Beyond the corner it is the last segment that carries a walker, not the one without length. -/
theorem isLeast_carries_bent (hl : 0 ≤ l) (hm : 0 < m) (hcorner : l < r) (hle : r ≤ l + m) :
    IsLeast {i | Carries (bent l m).segments r i} 2 := by
  rw [segments_bent]
  have hfirst : ¬ Carries [(⟨0, 0⟩, ⟨l, 0⟩), (⟨l, 0⟩, ⟨l, 0⟩), (⟨l, 0⟩, ⟨l, m⟩)] r 0 := by
    rw [carries_zero, distance_straight hl]
    exact fun h => absurd h.2 (not_le.mpr hcorner)
  have hempty : ¬ Carries [(⟨l, 0⟩, ⟨l, 0⟩), (⟨l, 0⟩, ⟨l, m⟩)]
      (r - (⟨0, 0⟩ : Vec2 ℝ).distance ⟨l, 0⟩) 0 := by
    rw [carries_zero, Vec2.distance_self]
    exact fun h => lt_irrefl _ h.1
  have hlast : Carries [(⟨l, 0⟩, ⟨l, m⟩)] (r - (⟨0, 0⟩ : Vec2 ℝ).distance ⟨l, 0⟩
      - (⟨l, 0⟩ : Vec2 ℝ).distance ⟨l, 0⟩) 0 := by
    rw [carries_zero, distance_straight hl, Vec2.distance_self, distance_aside hm.le]
    exact ⟨hm, by linarith⟩
  exact isLeast_carries_succ hfirst
    (isLeast_carries_succ hempty ⟨hlast, fun _ _ => Nat.zero_le _⟩)

end

/-- After eighteen metres on a path of ten and five the walker is on its way back, two metres beyond
the corner, and faces the corner. -/
theorem standsOn_sample_bent :
    1 / 2 ^ 23 < total (bent 10 5).segments ∧ (bent 10 5).sample 18 = ⟨⟨10, 2⟩, 270⟩ := by
  have hten : (0 : ℝ) ≤ 10 := by norm_num
  have hfive : (0 : ℝ) < 5 := by norm_num
  have htotal : total (bent 10 5).segments = 15 := by
    rw [total_bent hten hfive.le]
    norm_num
  have hlong : 1 / 2 ^ 23 < total (bent 10 5).segments := by
    rw [htotal]
    norm_num
  obtain ⟨-, ⟨j, start, stop, h⟩, -, -⟩ := standsOn_sample hlong 18
  have hrest : modulo 18 (2 * 15) = 18 := modulo_eq_self (by norm_num) (by norm_num)
  have hfolded : (bent 10 5).folded 18 = 12 := by
    rw [folded, roundTrip_eq, htotal, hrest, if_neg (by simp [bent]), if_neg (by norm_num)]
    norm_num
  have hreturning : (bent 10 5).isReturning 18 = true := by
    rw [isReturning, roundTrip_eq, htotal, hrest]
    norm_num [bent]
  -- The third segment is the first one that carries the walker.
  rw [hfolded, hreturning] at h
  obtain rfl : j = 2 :=
    h.first.unique (isLeast_carries_bent hten hfive (by norm_num) (by norm_num))
  obtain ⟨rfl, rfl⟩ : start = ⟨10, 0⟩ ∧ stop = ⟨10, 5⟩ := by
    obtain ⟨hstart, hstop⟩ := Prod.mk.inj (Option.some.inj h.segment)
    exact ⟨hstart.symm, hstop.symm⟩
  have hposition : ((bent 10 5).sample 18).position = ⟨10, 2⟩ := by
    rw [h.position, distance_aside hfive.le, total_take_bent hten]
    show (⟨10 + (10 - 10) * ((12 - 10) / 5), 0 + (5 - 0) * ((12 - 10) / 5)⟩ : Vec2 ℝ) = _
    norm_num
  have hheading : ((bent 10 5).sample 18).heading = 270 := by
    obtain ⟨angle, hheads, hturned⟩ := h.heading
    have hlength : 0 < ((⟨10, 5⟩ : Vec2 ℝ) - ⟨10, 0⟩).length := by
      rw [← Vec2.distance, Vec2.distance_comm, distance_aside hfive.le]
      exact hfive
    have hquarter : angle = 90 := hheads.unique (heads_aside hfive.le) hlength
    rw [hturned, if_pos rfl, hquarter, modulo_eq_self (by norm_num) (by norm_num)]
    norm_num
  refine ⟨hlong, ?_⟩
  rw [← hposition, ← hheading]

end Path

end TownTraffic
