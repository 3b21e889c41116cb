import TownTraffic.Proofs.Rosters

/-!
# Agents do not depend on the other kind

Vehicles and pedestrians are drawn one after the other, each kind from a keystream of its own. So
the first of them stay the same, whatever the other kind is drawn from and however many there are.

* **`Keystream.many_eq_take`** — fewer values of a keystream are the first of more.
* **`Episode.exists_begin_of_le`** — where an episode can begin, one with fewer agents can.
* **`Episode.take_vehicles_eq`**, **`Episode.take_pedestrians_eq`** — what two episodes share.
* **`Episode.agree_of_begin`** — at every later moment their frames have it in common.
-/

namespace TownTraffic

open Chance (Keystream)

/-! ## The first values of a keystream -/

namespace Chance.Keystream

variable {β : Type} {draw : Keystream → Option (β × Keystream)} {n m : Nat} {s : Keystream}
  {xs ys : List β}

/-- Fewer values are the first of more. -/
theorem many_eq_take (h : many draw n s = some xs) (hm : m ≤ n) :
    many draw m s = some (xs.take m) := by
  induction n generalizing m s xs with
  | zero =>
    obtain rfl : m = 0 := Nat.le_zero.mp hm
    rw [many_zero, List.take_zero]
  | succ n ih =>
    cases m with
    | zero => rw [many_zero, List.take_zero]
    | succ m =>
      simp only [many, Option.bind_eq_bind, Option.bind_eq_some_iff, Option.pure_def,
        Option.some.injEq, Prod.exists] at h
      obtain ⟨x, s', hx, ys, hys, rfl⟩ := h
      rw [many, hx, List.take_succ_cons]
      show (many draw m s').bind (fun ys => some (x :: ys)) = _
      rw [ih hys (Nat.le_of_succ_le_succ hm)]
      rfl

/-- Lists that are drawn from one keystream agree as far as both go. -/
theorem take_eq_of_many (hx : many draw n s = some xs) (hy : many draw m s = some ys) :
    xs.take (min n m) = ys.take (min n m) := by
  have hx' := many_eq_take hx (Nat.min_le_left n m)
  have hy' := many_eq_take hy (Nat.min_le_right n m)
  exact Option.some.inj (hx'.symm.trans hy')

end Chance.Keystream

variable {α : Type}

/-! ## Numbered agents -/

namespace Agent

variable {kinds others : List (AgentKind α)} {first start : Nat}

/-- Agents numbered from two numbers on go on in step, and are related as their kinds are. -/
theorem forall₂_numbered {R : AgentKind α → AgentKind α → Prop} (h : List.Forall₂ R kinds others) :
    List.Forall₂ (fun a b => R a.kind b.kind ∧ ∃ i < kinds.length,
        a.id = (first + i).toUInt32 ∧ b.id = (start + i).toUInt32)
      (numbered first kinds) (numbered start others) := by
  rw [List.forall₂_iff_get]
  obtain ⟨hlength, hget⟩ := List.forall₂_iff_get.mp h
  refine ⟨by simpa [numbered] using hlength, fun i hi hi' => ?_⟩
  simp only [numbered, List.length_mapIdx] at hi hi'
  simp only [numbered, List.get_eq_getElem, List.getElem_mapIdx]
  exact ⟨hget i hi hi', i, hi, rfl, rfl⟩

/-- The first agents are numbered like all. -/
theorem take_numbered (n first : Nat) (kinds : List (AgentKind α)) :
    (numbered first kinds).take n = numbered first (kinds.take n) := by
  refine List.ext_getElem (by simp [numbered]) fun i _ _ => ?_
  simp only [numbered, List.getElem_take, List.getElem_mapIdx]

/-- As many agents are numbered as there are kinds. -/
@[simp] theorem length_numbered (first : Nat) (kinds : List (AgentKind α)) :
    (numbered first kinds).length = kinds.length := List.length_mapIdx

/-- The same agents numbered from two numbers on differ by the difference of these. -/
theorem shifted_numbered (hfirst : first + kinds.length < UInt32.size)
    (hstart : start + kinds.length < UInt32.size) :
    List.Forall₂ (fun a b => a.kind = b.kind ∧ (b.id.toNat : Int) - a.id.toNat = start - first)
      (numbered first kinds) (numbered start kinds) := by
  have hsame : List.Forall₂ Eq kinds kinds := List.forall₂_refl kinds
  refine (forall₂_numbered hsame).imp ?_
  rintro a b ⟨hkind, i, hi, ha, hb⟩
  refine ⟨hkind, ?_⟩
  have ha' : a.id.toNat = first + i := by
    rw [ha]
    exact UInt32.toNat_ofNat_of_lt (by omega)
  have hb' : b.id.toNat = start + i := by
    rw [hb]
    exact UInt32.toNat_ofNat_of_lt (by omega)
  omega

end Agent

namespace Episode

variable [Scalar α] {town : Town α} {settings other : Settings} {drawn spare : Seeds}
  {e e' : Episode α}

/-! ## What two episodes have in common -/

/-- Where an episode can begin, one with fewer agents drawn from the same seeds can. -/
theorem exists_begin_of_le (h : begin town settings drawn = some e)
    (seeds : other.seeds spare = settings.seeds drawn)
    (vehicles : other.vehicles ≤ settings.vehicles)
    (pedestrians : other.pedestrians ≤ settings.pedestrians) :
    ∃ e', begin town other spare = some e' := by
  obtain ⟨hvehicles, hpedestrians, -⟩ := drawn_of_begin h
  rw [begin_eq, seeds, Keystream.many_eq_take hvehicles (UInt32.le_iff_toNat_le.mp vehicles),
    Keystream.many_eq_take hpedestrians (UInt32.le_iff_toNat_le.mp pedestrians)]
  exact ⟨_, rfl⟩

/-- Vehicles drawn from one seed are the same as far as both episodes have them. -/
theorem take_vehicles_eq (hbegin : begin town settings drawn = some e)
    (hother : begin town other spare = some e')
    (seed : (settings.seeds drawn).vehicles = (other.seeds spare).vehicles) :
    e.vehicles.take (min settings.vehicles.toNat other.vehicles.toNat)
      = e'.vehicles.take (min settings.vehicles.toNat other.vehicles.toNat) := by
  have hvehicles := (drawn_of_begin hbegin).1
  rw [seed] at hvehicles
  exact Keystream.take_eq_of_many hvehicles (drawn_of_begin hother).1

/-- Pedestrians drawn from one seed are the same as far as both episodes have them. -/
theorem take_pedestrians_eq (hbegin : begin town settings drawn = some e)
    (hother : begin town other spare = some e')
    (seed : (settings.seeds drawn).pedestrians = (other.seeds spare).pedestrians) :
    e.pedestrians.take (min settings.pedestrians.toNat other.pedestrians.toNat)
      = e'.pedestrians.take (min settings.pedestrians.toNat other.pedestrians.toNat) := by
  have hpedestrians := (drawn_of_begin hbegin).2.1
  rw [seed] at hpedestrians
  exact Keystream.take_eq_of_many hpedestrians (drawn_of_begin hother).2.1

/-! ## What their frames have in common -/

/-- The vehicles of a later frame, as the episode began with them. -/
theorem vehicles_frame_after (h : e.InOrder) (reports : e.reportsAgents = true)
    (ticks : List Duration) (now : Int64) :
    ((e.after ticks).frame now).vehicles
      = Agent.numbered 0 (e.vehicles.map fun c => .vehicle (c.after ticks).pose c.speed) := by
  rw [vehicles_frame (h.after ticks), reportsAgents_after, if_pos reports, vehicles_after,
    List.map_map]
  refine congrArg _ (List.map_congr_left fun c _ => ?_)
  rw [Function.comp_apply, Course.speed_after]

/-- The pedestrians of a later frame, as the episode began with them. -/
theorem pedestrians_frame_after (h : e.InOrder) (reports : e.reportsAgents = true)
    (ticks : List Duration) (now : Int64) :
    ((e.after ticks).frame now).pedestrians
      = Agent.numbered e.vehicles.length
        (e.pedestrians.map fun c => .pedestrian (c.after ticks).pose c.speed) := by
  rw [pedestrians_frame (h.after ticks), reportsAgents_after, if_pos reports, vehicles_after,
    List.length_map, pedestrians_after, List.map_map]
  refine congrArg _ (List.map_congr_left fun c _ => ?_)
  rw [Function.comp_apply, Course.speed_after]

/-- **Moving agents depend on their own seed only.** Two episodes of a town, after the same ticks,
report all the vehicles and pedestrians they have been asked for. If their vehicles are drawn from
one seed, these are the same as far as both have them, whatever the pedestrians. If their
pedestrians are drawn from one seed, these are the same as far as both have them but for their
numbers, which differ by as much as the numbers of vehicles do. -/
theorem agree_of_begin (hbegin : begin town settings drawn = some e)
    (hother : begin town other spare = some e')
    (reports : settings.reportsAgents = true) (reports' : other.reportsAgents = true)
    (few : settings.vehicles.toNat + settings.pedestrians.toNat + 5 < 2 ^ 32)
    (few' : other.vehicles.toNat + other.pedestrians.toNat + 5 < 2 ^ 32)
    (ticks : List Duration) (now again : Int64) :
    (((e.after ticks).frame now).vehicles.length = settings.vehicles.toNat
        ∧ ((e.after ticks).frame now).pedestrians.length = settings.pedestrians.toNat
        ∧ ((e'.after ticks).frame again).vehicles.length = other.vehicles.toNat
        ∧ ((e'.after ticks).frame again).pedestrians.length = other.pedestrians.toNat)
      ∧ ((settings.seeds drawn).vehicles = (other.seeds spare).vehicles →
        ((e.after ticks).frame now).vehicles.take
            (min settings.vehicles.toNat other.vehicles.toNat)
          = ((e'.after ticks).frame again).vehicles.take
            (min settings.vehicles.toNat other.vehicles.toNat))
      ∧ ((settings.seeds drawn).pedestrians = (other.seeds spare).pedestrians →
        List.Forall₂ (fun a b => a.kind = b.kind
            ∧ (b.id.toNat : Int) - a.id.toNat = other.vehicles.toNat - settings.vehicles.toNat)
          (((e.after ticks).frame now).pedestrians.take
            (min settings.pedestrians.toNat other.pedestrians.toNat))
          (((e'.after ticks).frame again).pedestrians.take
            (min settings.pedestrians.toNat other.pedestrians.toNat))) := by
  rw [← (drawn_of_begin hbegin).2.2] at reports
  rw [← (drawn_of_begin hother).2.2] at reports'
  have horder := inOrder_of_begin hbegin
  have horder' := inOrder_of_begin hother
  -- From here on both frames are courses of their episodes, numbered in order.
  rw [vehicles_frame_after horder reports, vehicles_frame_after horder' reports',
    pedestrians_frame_after horder reports, pedestrians_frame_after horder' reports',
    length_vehicles_of_begin hbegin, length_vehicles_of_begin hother]
  refine ⟨⟨?_, ?_, ?_, ?_⟩, fun seed => ?vehicles, fun seed => ?pedestrians⟩
  · rw [Agent.length_numbered, List.length_map, length_vehicles_of_begin hbegin]
  · rw [Agent.length_numbered, List.length_map, length_pedestrians_of_begin hbegin]
  · rw [Agent.length_numbered, List.length_map, length_vehicles_of_begin hother]
  · rw [Agent.length_numbered, List.length_map, length_pedestrians_of_begin hother]
  case vehicles =>
    rw [Agent.take_numbered, Agent.take_numbered, ← List.map_take, ← List.map_take,
      take_vehicles_eq hbegin hother seed]
  case pedestrians =>
    rw [Agent.take_numbered, Agent.take_numbered, ← List.map_take, ← List.map_take,
      take_pedestrians_eq hbegin hother seed]
    -- In each episode the numbers of pedestrians begin behind those of the vehicles.
    refine Agent.shifted_numbered ?_ ?_
    · rw [List.length_map, List.length_take, UInt32.size]
      omega
    · rw [List.length_map, List.length_take, UInt32.size]
      omega

/-- Whoever asks for one vehicle less gets the same first vehicle and the same pedestrian, whose
number is one less. -/
theorem agree_of_begin_peopled : ∃ e e',
    begin Town.served (.peopled 2 1) default = some e
      ∧ begin Town.served (.peopled 1 1) default = some e'
      ∧ ∀ ticks now again,
        ((e.after ticks).frame now).vehicles.take 1 = ((e'.after ticks).frame again).vehicles.take 1
          ∧ List.Forall₂ (fun a b => a.kind = b.kind ∧ (b.id.toNat : Int) - a.id.toNat = 1 - 2)
            (((e.after ticks).frame now).pedestrians.take 1)
            (((e'.after ticks).frame again).pedestrians.take 1) := by
  obtain ⟨e, hbegin⟩ := exists_begin_peopled
  obtain ⟨e', hother⟩ : ∃ e', begin Town.served (.peopled 1 1) default = some e' :=
    exists_begin_of_le hbegin rfl (by decide) (by decide)
  refine ⟨e, e', hbegin, hother, fun ticks now again => ?_⟩
  obtain ⟨-, vehicles, pedestrians⟩ :=
    agree_of_begin hbegin hother rfl rfl (by decide) (by decide) ticks now again
  exact ⟨vehicles rfl, pedestrians rfl⟩

end Episode

end TownTraffic
