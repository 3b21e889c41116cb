import TownTraffic.Proofs.Grounds

/-!
# A walker never jumps

In exact arithmetic a walker is never further from where it was than the distance walked meanwhile.
Within a segment that is plain, and segments that follow one another pass the walker on without a
gap. What is left are the places where the folded distance turns: an open path is walked back there,
and a closed one has come back to its first waypoint. Only a closed path of two waypoints has not,
since no segment leads back, and there the walker is put back.

* **`Path.Leads`** — segments that lead from one place to another; those of a path do.
* **`Path.along`** — where a walker is after a distance along such segments;
  **`Path.distance_along_le`** without jumps.
* **`Path.distance_modulo_le`** — a motion that ends where it begins is repeated without jumps.
* **`Path.Steady`**, **`Path.Restarts`** — whether a walker never jumps, and whether it is put back;
  **`Path.steady_iff_not_restarts`** it is one or the other.
-/

namespace TownTraffic

open Real

/-- Two places on the line through a place are apart by what lies between them. -/
theorem Vec2.distance_add_mul (a v : Vec2 ℝ) (s t : ℝ) :
    (a + v * s).distance (a + v * t) = |s - t| * v.length := by
  have hsquares : (a.x + v.x * s - (a.x + v.x * t)) ^ 2 + (a.y + v.y * s - (a.y + v.y * t)) ^ 2
      = (s - t) ^ 2 * (v.x ^ 2 + v.y ^ 2) := by ring
  rw [distance, length_eq, length_eq]
  simp only [sub_x, sub_y, add_x, add_y, mul_x, mul_y]
  rw [hsquares, Real.sqrt_mul (sq_nonneg _), Real.sqrt_sq_eq_abs]

namespace Path

/-! ## Segments that follow one another -/

/-- **Whether segments lead from one place to another**, each beginning where the one before it
ends. -/
inductive Leads : Vec2 ℝ → List (Vec2 ℝ × Vec2 ℝ) → Vec2 ℝ → Prop
  /-- No segments lead nowhere else. -/
  | nil (a : Vec2 ℝ) : Leads a [] a
  /-- A segment leads to its end. -/
  | cons (start stop : Vec2 ℝ) {segments : List (Vec2 ℝ × Vec2 ℝ)} {b : Vec2 ℝ} :
    Leads stop segments b → Leads start ((start, stop) :: segments) b

/-- Segments that go on where others end lead on with them. -/
theorem Leads.append {a b c : Vec2 ℝ} {segments others : List (Vec2 ℝ × Vec2 ℝ)}
    (h : Leads a segments b) (hothers : Leads b others c) : Leads a (segments ++ others) c := by
  induction h with
  | nil a => exact hothers
  | cons start stop _ ih => exact .cons start stop (ih hothers)

/-- Consecutive waypoints lead from the first to the last. -/
theorem leads_zip (a : Vec2 ℝ) (rest : List (Vec2 ℝ)) :
    Leads a ((a :: rest).zip rest) ((a :: rest).getLast (List.cons_ne_nil a rest)) := by
  induction rest generalizing a with
  | nil => exact .nil a
  | cons b rest ih => exact .cons a b (ih b)

section

variable {p : Path ℝ} {a : Vec2 ℝ} {rest : List (Vec2 ℝ)}

/-- Only a closed path of more than two waypoints has a segment that leads back. -/
theorem closing_eq (h : p.waypoints = a :: rest) :
    p.closing = if p.closed = true ∧ 2 < p.waypoints.length then
      [((a :: rest).getLast (List.cons_ne_nil a rest), a)] else [] := by
  rw [closing, h, List.head?_cons, List.getLast?_eq_some_getLast (List.cons_ne_nil a rest)]
  cases p.closed with
  | true => simp only [true_and, gt_iff_lt]
  | false => rw [if_neg (fun hboth => Bool.false_ne_true hboth.1)]

/-- A path has the segments between its waypoints, and the one that closes it. -/
theorem segments_eq (h : p.waypoints = a :: rest) :
    p.segments = (a :: rest).zip rest ++ p.closing := by
  rw [segments, h, List.tail_cons]

/-- A closed path of more than two waypoints leads back to its first one. -/
theorem leads_of_closed (h : p.waypoints = a :: rest) (hclosed : p.closed = true)
    (hmany : 2 < p.waypoints.length) : Leads a p.segments a := by
  rw [segments_eq h, closing_eq h, if_pos ⟨hclosed, hmany⟩]
  exact (leads_zip a rest).append (.cons _ _ (.nil a))

/-- The segments of a path lead away from its first waypoint. -/
theorem exists_leads (h : p.waypoints = a :: rest) : ∃ b, Leads a p.segments b := by
  by_cases hback : p.closed = true ∧ 2 < p.waypoints.length
  · exact ⟨a, leads_of_closed h hback.1 hback.2⟩
  · rw [segments_eq h, closing_eq h, if_neg hback, List.append_nil]
    exact ⟨_, leads_zip a rest⟩

end

/-! ## Where a walker is -/

/-- Where a walker is after a distance along some segments that lead away from a place. -/
noncomputable def along (a : Vec2 ℝ) (segments : List (Vec2 ℝ × Vec2 ℝ)) (r : ℝ) : Vec2 ℝ :=
  (walk false segments r ⟨a, 0⟩).position

section

variable {a b start stop : Vec2 ℝ} {segments : List (Vec2 ℝ × Vec2 ℝ)} {r r' : ℝ}

/-- Along no segments there is only the start. -/
@[simp] theorem along_nil (a : Vec2 ℝ) (r : ℝ) : along a [] r = a := rfl

/-- A point on the first segment lies on the line to its end. -/
theorem along_of_carries (h : r ≤ start.distance stop ∧ 0 < start.distance stop) :
    along a ((start, stop) :: segments) r
      = start + (stop - start) * (r / start.distance stop) := by
  rw [along, walk_cons, if_pos h]

/-- A point beyond the first segment lies along the others. -/
theorem along_of_not_carries (h : ¬ (r ≤ start.distance stop ∧ 0 < start.distance stop)) :
    along a ((start, stop) :: segments) r = along stop segments (r - start.distance stop) := by
  rw [along, walk_cons, if_neg h]
  exact position_walk_eq _ _ _ _ rfl

/-- Two places on one segment are apart by what is walked between them. -/
theorem distance_on_segment (hpos : 0 < start.distance stop) (r r' : ℝ) :
    (start + (stop - start) * (r / start.distance stop)).distance
        (start + (stop - start) * (r' / start.distance stop)) = |r - r'| := by
  have hlength : (stop - start).length = start.distance stop := Vec2.distance_comm stop start
  rw [Vec2.distance_add_mul, hlength, ← sub_div, abs_div, abs_of_pos hpos,
    div_mul_cancel₀ _ hpos.ne']

/-- Whoever has walked a segment to its end is there. -/
theorem segment_end (hpos : 0 < start.distance stop) :
    start + (stop - start) * (start.distance stop / start.distance stop) = stop := by
  rw [div_self hpos.ne']
  ext <;> simp

/-- Segments are not shorter than nothing. -/
theorem total_nonneg (segments : List (Vec2 ℝ × Vec2 ℝ)) : 0 ≤ total segments := by
  refine List.sum_nonneg ?_
  intro l hl
  obtain ⟨s, -, rfl⟩ := List.mem_map.mp hl
  exact Vec2.distance_nonneg s.1 s.2

/-- Segments are walked from where they lead away. -/
theorem along_zero (h : Leads a segments b) : along a segments 0 = a := by
  induction h with
  | nil a => rfl
  | cons start stop _ ih =>
    rcases (Vec2.distance_nonneg start stop).eq_or_lt with hzero | hpos
    · -- A segment without length is passed over, and it ends where it starts.
      rw [along_of_not_carries (fun hcarries => hcarries.2.ne hzero), ← hzero, sub_zero, ih,
        Vec2.eq_of_distance_eq_zero hzero.symm]
    · rw [along_of_carries ⟨hpos.le, hpos⟩, zero_div]
      ext <;> simp

/-- Segments are walked to where they lead. -/
theorem along_total (h : Leads a segments b) : along a segments (total segments) = b := by
  induction h with
  | nil a => rfl
  | @cons start stop segments b hrest ih =>
    have hnonneg := total_nonneg segments
    rw [total_cons]
    by_cases hcarries : start.distance stop + total segments ≤ start.distance stop
        ∧ 0 < start.distance stop
    · -- The first segment carries the walker to the end only if the others have no length.
      have hzero : total segments = 0 := by linarith [hcarries.1]
      rw [along_of_carries hcarries, hzero, add_zero, segment_end hcarries.2, ← ih, hzero,
        along_zero hrest]
    · rw [along_of_not_carries hcarries, add_sub_cancel_left, ih]

/-- A walker is no further along than it has walked. -/
theorem distance_along_le_sub (h : Leads a segments b) (hle : r ≤ r') :
    (along a segments r).distance (along a segments r') ≤ r' - r := by
  -- On the segments; distances behind the first one are measured from its end.
  induction h generalizing r r' with
  | nil a => rw [along_nil, along_nil, Vec2.distance_self]; linarith
  | @cons start stop segments b hrest ih =>
    by_cases hfirst : r ≤ start.distance stop ∧ 0 < start.distance stop
    · by_cases hsecond : r' ≤ start.distance stop ∧ 0 < start.distance stop
      · rw [along_of_carries hfirst, along_of_carries hsecond, distance_on_segment hfirst.2,
          abs_sub_comm, abs_of_nonneg (sub_nonneg.mpr hle)]
      · -- The walker passes the end of the first segment on its way.
        have hbeyond : start.distance stop < r' := lt_of_not_ge fun hge => hsecond ⟨hge, hfirst.2⟩
        have hto : (along start ((start, stop) :: segments) r).distance stop
            = start.distance stop - r := by
          rw [along_of_carries hfirst]
          conv_lhs => arg 2; rw [← segment_end hfirst.2]
          rw [distance_on_segment hfirst.2, abs_sub_comm,
            abs_of_nonneg (sub_nonneg.mpr hfirst.1)]
        have hfrom := @ih 0 (r' - start.distance stop) (by linarith)
        rw [along_zero hrest, sub_zero] at hfrom
        have htriangle := Vec2.distance_triangle (along start ((start, stop) :: segments) r) stop
          (along start ((start, stop) :: segments) r')
        rw [along_of_not_carries hsecond] at htriangle ⊢
        linarith
    · have hsecond : ¬ (r' ≤ start.distance stop ∧ 0 < start.distance stop) := fun hcarries =>
        hfirst ⟨hle.trans hcarries.1, hcarries.2⟩
      rw [along_of_not_carries hfirst, along_of_not_carries hsecond]
      have hrest := @ih (r - start.distance stop) (r' - start.distance stop) (by linarith)
      linarith

/-- **A walk along segments that follow one another has no jumps.** -/
theorem distance_along_le (h : Leads a segments b) (r r' : ℝ) :
    (along a segments r).distance (along a segments r') ≤ |r - r'| := by
  rcases le_total r r' with hle | hle
  · rw [abs_sub_comm, abs_of_nonneg (sub_nonneg.mpr hle)]
    exact distance_along_le_sub h hle
  · rw [Vec2.distance_comm, abs_of_nonneg (sub_nonneg.mpr hle)]
    exact distance_along_le_sub h hle

end

/-! ## Folding the distance -/

/-- **A motion that ends where it begins is repeated without jumps.** Two distances in one round are
as far apart as what is left of them; otherwise the motion passes its beginning in between. -/
theorem distance_modulo_le {f : ℝ → Vec2 ℝ} {b : ℝ} (hb : 0 < b) (hjoin : f b = f 0)
    (hf : ∀ r r', (f r).distance (f r') ≤ |r - r'|) (d d' : ℝ) :
    (f (modulo d b)).distance (f (modulo d' b)) ≤ |d - d'| := by
  wlog hle : d ≤ d' generalizing d d'
  · rw [Vec2.distance_comm, abs_sub_comm]
    exact this d' d (le_of_not_ge hle)
  obtain ⟨k, hk⟩ := exists_modulo_eq hb d
  obtain ⟨k', hk'⟩ := exists_modulo_eq hb d'
  have hlt := modulo_lt hb d
  have hnonneg' := modulo_nonneg hb d'
  rw [abs_sub_comm, abs_of_nonneg (sub_nonneg.mpr hle)]
  -- By the rounds that the two distances fall in.
  rcases lt_trichotomy k k' with hrounds | rfl | hrounds
  · -- At least one round lies between the two: on to its end, and from the beginning anew.
    have hround : (k : ℝ) + 1 ≤ k' := by exact_mod_cast hrounds
    have hbetween : (k + 1) * b ≤ k' * b := mul_le_mul_of_nonneg_right hround hb.le
    have hto := hf (modulo d b) b
    have hfrom := hf 0 (modulo d' b)
    have htriangle := Vec2.distance_triangle (f (modulo d b)) (f b) (f (modulo d' b))
    rw [abs_sub_comm, abs_of_nonneg (by linarith)] at hto
    rw [zero_sub, abs_neg, abs_of_nonneg hnonneg'] at hfrom
    rw [← hjoin] at hfrom
    linarith
  · have hsame := hf (modulo d b) (modulo d' b)
    have hdiff : modulo d' b - modulo d b = d' - d := by rw [hk, hk']; ring
    rwa [abs_sub_comm, hdiff, abs_of_nonneg (sub_nonneg.mpr hle)] at hsame
  · -- The later distance cannot be in an earlier round.
    have hround : (k' : ℝ) + 1 ≤ k := by exact_mod_cast hrounds
    have hbetween : (k' + 1) * b ≤ k * b := mul_le_mul_of_nonneg_right hround hb.le
    have hlt' := modulo_lt hb d'
    have hnonneg := modulo_nonneg hb d
    linarith

section

variable {p : Path ℝ} {a : Vec2 ℝ} {rest : List (Vec2 ℝ)}

/-- On an open path, the folded distance falls as much beyond the end as it has risen before. -/
theorem folded_of_open (hopen : p.closed = false) (d : ℝ) :
    p.folded d = total p.segments - |modulo d p.roundTrip - total p.segments| := by
  rw [folded, hopen, if_neg Bool.false_ne_true]
  split_ifs with hthere
  · rw [abs_of_nonpos (sub_nonpos.mpr hthere)]
    ring
  · rw [abs_of_pos (sub_pos.mpr (lt_of_not_ge hthere)), roundTrip]
    ring

/-- A sample of a path with some length is where its walker is at the folded distance. -/
theorem position_sample (h : p.waypoints = a :: rest) (hlong : 1 / 2 ^ 23 < total p.segments)
    (d : ℝ) : (p.sample d).position = along a p.segments (p.folded d) := by
  rw [sample_eq_walk hlong, h]
  exact position_walk_eq _ _ _ _ rfl

/-- A path without length is never left. -/
theorem position_sample_of_le (hshort : total p.segments ≤ 1 / 2 ^ 23) (d : ℝ) :
    (p.sample d).position = p.waypoints.headD Vec2.zero := by
  have hstays : Scalar.le p.length Scalar.epsilon = true := by
    rw [length_eq_total, Scalar.le_real, Scalar.epsilon_real, decide_eq_true_eq]
    exact hshort
  rw [sample, if_pos hstays]

/-! ## Whether a walker jumps -/

/-- **Whether a walker never jumps**: it is never further from where it was than it has walked. -/
def Steady (p : Path ℝ) : Prop :=
  ∀ d d', (p.sample d).position.distance (p.sample d').position ≤ |d - d'|

/-- **Whether a walker is put back** to the first waypoint whenever it has come to the last: the
path is closed, but with two waypoints it has no segment that leads back. -/
def Restarts (p : Path ℝ) : Prop :=
  p.closed = true ∧ p.waypoints.length = 2 ∧ Scalar.epsilon < p.length

/-- There and back, a walk has no jumps. -/
theorem steady_of_open (h : p.waypoints = a :: rest) (hlong : 1 / 2 ^ 23 < total p.segments)
    (hopen : p.closed = false) : p.Steady := by
  have hpos : 0 < total p.segments := lt_trans (by norm_num) hlong
  obtain ⟨b, hleads⟩ := exists_leads h
  intro d d'
  rw [position_sample h hlong, position_sample h hlong, folded_of_open hopen, folded_of_open hopen]
  -- The whole way there and back is one motion, which ends where it begins.
  refine distance_modulo_le
    (f := fun r => along a p.segments (total p.segments - |r - total p.segments|))
    (roundTrip_pos hpos) ?join (fun r r' => ?motion) d d'
  case join =>
    show along a p.segments _ = along a p.segments _
    rw [roundTrip, add_sub_cancel_right, zero_sub, abs_neg]
  case motion =>
    have hfold : |total p.segments - |r - total p.segments|
        - (total p.segments - |r' - total p.segments|)| ≤ |r - r'| := by
      rw [sub_sub_sub_cancel_left, abs_sub_comm r r']
      have habs := abs_abs_sub_abs_le_abs_sub (r' - total p.segments) (r - total p.segments)
      rwa [sub_sub_sub_cancel_right] at habs
    exact (distance_along_le hleads _ _).trans hfold

/-- Round and round, a walk has no jumps if a segment leads back. -/
theorem steady_of_closed (h : p.waypoints = a :: rest) (hlong : 1 / 2 ^ 23 < total p.segments)
    (hclosed : p.closed = true) (hmany : 2 < p.waypoints.length) : p.Steady := by
  have hpos : 0 < total p.segments := lt_trans (by norm_num) hlong
  have hleads := leads_of_closed h hclosed hmany
  intro d d'
  rw [position_sample h hlong, position_sample h hlong, folded, folded, if_pos hclosed,
    if_pos hclosed]
  refine distance_modulo_le hpos ?_ (distance_along_le hleads) d d'
  rw [along_total hleads, along_zero hleads]

/-- On a path of one waypoint there is nowhere to go. -/
theorem total_of_single (h : p.waypoints = [a]) : total p.segments = 0 := by
  have hfew : ¬ (p.closed = true ∧ 2 < p.waypoints.length) := by
    rw [h]
    exact fun hmany => absurd hmany.2 (by simp)
  rw [segments_eq h, closing_eq h, if_neg hfew]
  rfl

/-- Whoever is not put back never jumps. -/
theorem steady_of_not_restarts (h : ¬ p.Restarts) : p.Steady := by
  by_cases hlong : 1 / 2 ^ 23 < total p.segments
  · have hpos : 0 < total p.segments := lt_trans (by norm_num) hlong
    obtain ⟨a, rest, hwaypoints⟩ := List.exists_cons_of_ne_nil (waypoints_ne_nil hpos)
    cases hclosed : p.closed with
    | false => exact steady_of_open hwaypoints hlong hclosed
    | true =>
      have hone : p.waypoints.length ≠ 1 := fun hlength => by
        obtain ⟨b, hb⟩ := List.length_eq_one_iff.mp hlength
        exact hpos.ne' (total_of_single hb)
      have htwo : p.waypoints.length ≠ 2 := fun hlength =>
        h ⟨hclosed, hlength, length_eq_total p ▸ hlong⟩
      have hsome : 0 < p.waypoints.length := List.length_pos_iff.mpr (waypoints_ne_nil hpos)
      exact steady_of_closed hwaypoints hlong hclosed (by omega)
  · intro d d'
    rw [position_sample_of_le (not_lt.mp hlong), position_sample_of_le (not_lt.mp hlong),
      Vec2.distance_self]
    exact abs_nonneg _

/-- A path on which the walker is put back has one segment. -/
theorem Restarts.exists_segments (h : p.Restarts) :
    ∃ a b, p.waypoints = [a, b] ∧ p.segments = [(a, b)] := by
  obtain ⟨-, hlength, -⟩ := h
  obtain ⟨a, b, hwaypoints⟩ := List.length_eq_two.mp hlength
  refine ⟨a, b, hwaypoints, ?_⟩
  rw [segments_eq hwaypoints, closing_eq hwaypoints, if_neg (fun hmany => by omega)]
  rfl

/-- Where the walker is put back, two places are apart by what is left of the two distances after
whole rounds. -/
theorem Restarts.distance_sample (h : p.Restarts) (d d' : ℝ) :
    (p.sample d).position.distance (p.sample d').position
      = |modulo d (total p.segments) - modulo d' (total p.segments)| := by
  obtain ⟨a, b, hwaypoints, hsegments⟩ := h.exists_segments
  obtain ⟨hclosed, -, hlong⟩ := h
  rw [length_eq_total, Scalar.epsilon_real] at hlong
  have htotal : total p.segments = a.distance b := by
    rw [hsegments, total_cons, total_nil, add_zero]
  have hpos : 0 < a.distance b := htotal ▸ lt_trans (by norm_num) hlong
  rw [position_sample hwaypoints hlong, position_sample hwaypoints hlong, folded, folded,
    if_pos hclosed, if_pos hclosed, htotal, hsegments,
    along_of_carries ⟨(modulo_lt hpos d).le, hpos⟩,
    along_of_carries ⟨(modulo_lt hpos d').le, hpos⟩, distance_on_segment hpos]

/-- Within the last quarter of a round the walker is put back by three. -/
theorem Restarts.not_steady (h : p.Restarts) : ¬ p.Steady := by
  have hlong := h.2.2
  rw [length_eq_total, Scalar.epsilon_real] at hlong
  have hpos : 0 < total p.segments := lt_trans (by norm_num) hlong
  intro hsteady
  have hjump := hsteady (3 / 4 * total p.segments) (0 + (1 : ℤ) * total p.segments)
  rw [h.distance_sample, modulo_add_mul hpos, modulo_eq_self (by linarith) (by linarith),
    modulo_eq_self le_rfl hpos, sub_zero, abs_of_pos (by linarith), Int.cast_one,
    abs_of_neg (by linarith)] at hjump
  linarith

/-- **A walker never jumps, unless it is put back.** In exact arithmetic the places where a walker
is at two distances are never further apart than these distances, on any path, open or closed, but
on a closed path of two waypoints that are some way apart. There the walker is put back to the first
waypoint at the end of each round, and two places are apart by what is left of the two distances
after whole rounds. -/
theorem steady_iff_not_restarts (p : Path ℝ) :
    (p.Steady ↔ ¬ p.Restarts)
      ∧ (p.Restarts → ∀ d d', (p.sample d).position.distance (p.sample d').position
        = |modulo d (total p.segments) - modulo d' (total p.segments)|) := by
  refine ⟨⟨fun hsteady hrestarts => hrestarts.not_steady hsteady, steady_of_not_restarts⟩, ?_⟩
  intro hrestarts d d'
  exact hrestarts.distance_sample d d'

end

/-! ### A closed path of two waypoints -/

/-- A closed path along the first axis. -/
noncomputable def shuttle (l : ℝ) : Path ℝ := { straight l with closed := true }

/-- A shuttle is as long as its one segment. -/
theorem total_shuttle {l : ℝ} (h : 0 ≤ l) : total (shuttle l).segments = l := total_straight h

/-- A shuttle that is not too short starts anew at its end. -/
theorem restarts_shuttle {l : ℝ} (h : 1 / 2 ^ 23 < l) : (shuttle l).Restarts := by
  refine ⟨rfl, rfl, ?_⟩
  rw [length_eq_total, total_shuttle (le_trans (by norm_num) h.le), Scalar.epsilon_real]
  exact h

/-- Within one metre, the walker on a closed path of ten is put back by nine. -/
theorem not_steady_shuttle :
    ((shuttle 10).sample 9.5).position.distance ((shuttle 10).sample 10.5).position = 9
      ∧ ¬ ∀ p : Path ℝ, p.Steady := by
  have hrestarts : (shuttle 10).Restarts := restarts_shuttle (by norm_num)
  have htotal : total (shuttle 10).segments = 10 := total_shuttle (by norm_num)
  have hround : (10.5 : ℝ) = 0.5 + (1 : ℤ) * 10 := by norm_num
  constructor
  · rw [hrestarts.distance_sample, htotal, hround, modulo_add_mul (by norm_num),
      modulo_eq_self (by norm_num) (by norm_num), modulo_eq_self (by norm_num) (by norm_num)]
    norm_num
  · intro hsteady
    exact hrestarts.not_steady (hsteady (shuttle 10))

end Path

/-! ## Agents of an episode -/

namespace Episode

/-- **No agent of an episode jumps.** Vehicles drive round four corners, and pedestrians turn round
at the end of a sidewalk. -/
theorem steady_of_begin {town : Town ℝ} {settings : Settings} {drawn : Seeds} {e : Episode ℝ}
    (h : begin town settings drawn = some e) :
    ∀ c ∈ e.vehicles ++ e.pedestrians, c.route.Steady := by
  obtain ⟨hvehicles, hpedestrians, -⟩ := drawn_of_begin h
  refine List.forall_mem_append.mpr ⟨?vehicles, ?pedestrians⟩
  case vehicles =>
    refine Chance.Keystream.forall_mem_of_many (fun s c s' hdrawn => ?_) hvehicles
    rw [Course.drawVehicle_eq] at hdrawn
    refine Path.steady_of_not_restarts fun hrestarts => ?_
    -- A block has four corners, so the route is not one of two waypoints.
    have hfour : c.route.waypoints.length = 4 := by
      rw [Course.route_of_drawOn hdrawn, Vector.length_toList]
    rw [hrestarts.2.1] at hfour
    cases hfour
  case pedestrians =>
    refine Chance.Keystream.forall_mem_of_many (fun s c s' hdrawn => ?_) hpedestrians
    rw [Course.drawPedestrian_eq] at hdrawn
    refine Path.steady_of_not_restarts fun hrestarts => ?_
    -- A sidewalk is walked there and back.
    have hopen : c.route.closed = false := by
      rw [Course.route_of_drawOn hdrawn]
      rfl
    rw [hrestarts.1] at hopen
    cases hopen

end Episode

end TownTraffic
