import TownTraffic.Proofs.Exact
import TownTraffic.Proofs.Rosters

/-!
# Elapsed time

The clock of a town counts whole milliseconds. Every tick adds its own whole milliseconds to it and
drops the rest, while agents move on for the whole tick. So ticks that are not whole milliseconds
make the clock fall behind, and how far depends on how the time is cut into ticks.

* **`Duration.total`**, **`Duration.counted`**, **`Duration.dropped`** — the time of some ticks, and
  the two parts of it, one that the clock counts and one that it does not.
* **`Episode.toNat_gameTime_after`** — the clock after some ticks.
* **`Course.travelled_after`** — in exact arithmetic, agents move on for the time of the ticks.
* **`Episode.tells_elapsed_iff`** — the clock tells the elapsed time exactly if less than a
  millisecond has been dropped.
-/

namespace TownTraffic

/-! ## The time of some ticks -/

namespace Duration

/-- What a duration has beyond whole milliseconds, in nanoseconds. -/
def excess (d : Duration) : Nat := d.toNanos % 1000000

/-- The time of some ticks, in nanoseconds. -/
def total (ticks : List Duration) : Nat := (ticks.map toNanos).sum

/-- The whole milliseconds of some ticks, each by itself. -/
def counted (ticks : List Duration) : Nat := (ticks.map millis).sum

/-- What some ticks have beyond whole milliseconds, each by itself, in nanoseconds. -/
def dropped (ticks : List Duration) : Nat := (ticks.map excess).sum

section

variable (d : Duration) (ticks : List Duration)

/-- No ticks take no time. -/
@[simp] theorem total_nil : total [] = 0 := rfl

/-- A tick adds its nanoseconds. -/
@[simp] theorem total_cons : total (d :: ticks) = d.toNanos + total ticks := List.sum_cons

/-- No ticks count nothing. -/
@[simp] theorem counted_nil : counted [] = 0 := rfl

/-- A tick counts its whole milliseconds. -/
@[simp] theorem counted_cons : counted (d :: ticks) = d.millis + counted ticks := List.sum_cons

/-- No ticks drop nothing. -/
@[simp] theorem dropped_nil : dropped [] = 0 := rfl

/-- A tick drops what is left of its last millisecond. -/
@[simp] theorem dropped_cons : dropped (d :: ticks) = d.excess + dropped ticks := List.sum_cons

/-- Ticks in front and behind are counted together. -/
theorem counted_append (later : List Duration) :
    counted (ticks ++ later) = counted ticks + counted later := by
  rw [counted, List.map_append, List.sum_append, counted, counted]

/-- A duration is its whole milliseconds and what it has beyond them. -/
theorem millis_mul_add_excess : d.millis * 1000000 + d.excess = d.toNanos := by
  rw [millis_eq, excess, Nat.mul_comm]
  exact Nat.div_add_mod _ _

/-- **Time is either counted or dropped.** -/
theorem counted_mul_add_dropped : counted ticks * 1000000 + dropped ticks = total ticks := by
  induction ticks with
  | nil => rfl
  | cons d ticks ih =>
    have hd := d.millis_mul_add_excess
    rw [counted_cons, dropped_cons, total_cons, ← ih, ← hd]
    ring

/-- What is counted is the whole milliseconds of the time exactly if less than one is dropped. -/
theorem counted_eq_iff : counted ticks = total ticks / 1000000 ↔ dropped ticks < 1000000 := by
  have haccount := counted_mul_add_dropped ticks
  omega

end

end Duration

/-! ## The clock -/

namespace Episode

variable {α : Type} [Scalar α] {town : Town α} {settings : Settings} {drawn : Seeds} {e : Episode α}

/-- The clock adds up the whole milliseconds of the ticks, as far as numbers go. -/
theorem gameTime_after (e : Episode α) (ticks : List Duration) :
    (e.after ticks).gameTime = e.gameTime + UInt64.ofNat (Duration.counted ticks) := by
  induction ticks generalizing e with
  | nil => exact (UInt64.add_zero _).symm
  | cons d ticks ih =>
    rw [after_cons, ih, Duration.counted_cons, UInt64.ofNat_add, ← UInt64.add_assoc]
    rfl

/-- As long as it fits, the clock of an episode is exactly the whole milliseconds of its ticks. -/
theorem toNat_gameTime_after (h : begin town settings drawn = some e) {ticks : List Duration}
    (hfits : Duration.counted ticks < 2 ^ 64) :
    (e.after ticks).gameTime.toNat = Duration.counted ticks := by
  obtain ⟨-, -, htime⟩ := of_begin h
  rw [gameTime_after, htime, UInt64.zero_add]
  exact UInt64.toNat_ofNat_of_lt' hfits

end Episode

/-! ## Agents -/

/-- A duration in seconds, in exact arithmetic. -/
theorem Duration.inSeconds_real (d : Duration) : (d.inSeconds : ℝ) = d.toNanos / 1000000000 := by
  show (d.seconds : ℝ) + (d.nanos : ℝ) / (1000000000 : Nat) = _
  rw [toNanos]
  push_cast
  ring

/-- **Agents move on for the time of the ticks**, in exact arithmetic. -/
theorem Course.travelled_after (c : Course ℝ) (ticks : List Duration) :
    (c.after ticks).travelled = c.travelled + c.speed * (Duration.total ticks / 1000000000) := by
  induction ticks generalizing c with
  | nil =>
    show c.travelled = c.travelled + c.speed * (((0 : Nat) : ℝ) / 1000000000)
    simp
  | cons d ticks ih =>
    rw [after_cons, ih, speed_advance, Duration.total_cons]
    show c.travelled + c.speed * d.inSeconds + _ = _
    rw [d.inSeconds_real]
    push_cast
    ring

/-! ## The clock and the time -/

/-- Settings for an episode without vehicles and pedestrians, of which no agents are reported. -/
def Settings.deserted : Settings := { peopled 0 0 with reportsAgents := false }

namespace Episode

variable {α : Type} [Scalar α] {town : Town α} {settings : Settings} {drawn : Seeds} {e : Episode α}

/-- **Whether the clock tells the elapsed time.** What the clock of an episode does not tell of the
time of its ticks is what these have beyond whole milliseconds, each by itself. So the reported time
is the elapsed one in whole milliseconds exactly if all that has been dropped is less than one, and
the same time cut into other ticks is reported alike exactly if as much is dropped. All agents move
on with every tick, in exact arithmetic for the whole of it. -/
theorem tells_elapsed_iff (hbegin : begin town settings drawn = some e) (ticks : List Duration)
    (hfits : Duration.total ticks < 2 ^ 64 * 1000000) (now : Int64) :
    ((e.after ticks).frame now).gameTime.toNat * 1000000 + Duration.dropped ticks
        = Duration.total ticks
      ∧ (((e.after ticks).frame now).gameTime.toNat = Duration.total ticks / 1000000
        ↔ Duration.dropped ticks < 1000000)
      ∧ (∀ others again, Duration.total others = Duration.total ticks →
        (((e.after others).frame again).gameTime = ((e.after ticks).frame now).gameTime
          ↔ Duration.dropped others = Duration.dropped ticks))
      ∧ (e.after ticks).vehicles = e.vehicles.map (·.after ticks)
      ∧ (e.after ticks).pedestrians = e.pedestrians.map (·.after ticks)
      ∧ ∀ c : Course ℝ, (c.after ticks).travelled
        = c.travelled + c.speed * (Duration.total ticks / 1000000000) := by
  have reported (others : List Duration) (again : Int64)
      (hothers : Duration.total others = Duration.total ticks) :
      ((e.after others).frame again).gameTime.toNat = Duration.counted others := by
    have haccount := Duration.counted_mul_add_dropped others
    exact toNat_gameTime_after hbegin (by omega)
  refine ⟨?account, ?whole, ?cut, vehicles_after e ticks, pedestrians_after e ticks,
    fun c => c.travelled_after ticks⟩
  case account => rw [reported ticks now rfl, Duration.counted_mul_add_dropped]
  case whole => rw [reported ticks now rfl, Duration.counted_eq_iff]
  case cut =>
    intro others again hothers
    rw [← UInt64.toNat_inj, reported others again hothers, reported ticks now rfl]
    -- The two times are equal, so what is counted differs by what is dropped.
    have haccount := Duration.counted_mul_add_dropped ticks
    have haccount' := Duration.counted_mul_add_dropped others
    omega

/-! ### Halves of a millisecond -/

/-- Ticks of one and a half, seven tenths and thirty-two milliseconds. -/
def unevenTicks : List Duration := [.of 0 1500000, .of 0 700000, .ofMillis 32]

/-- Of thirty-four milliseconds and a fifth, the clock tells thirty-three after uneven ticks and
thirty-four after one tick. -/
theorem tells_elapsed_iff_uneven : ∃ e,
    begin Town.served (.peopled 2 1) default = some e
      ∧ Duration.total unevenTicks = 34200000 ∧ Duration.total [.of 0 34200000] = 34200000
      ∧ ∀ now, ((e.after unevenTicks).frame now).gameTime.toNat = 33
        ∧ ((e.after [.of 0 34200000]).frame now).gameTime.toNat = 34
        ∧ ∀ c : Course ℝ, (c.after unevenTicks).travelled
          = c.travelled + c.speed * (Duration.total unevenTicks / 1000000000) := by
  obtain ⟨e, hbegin⟩ := exists_begin_peopled
  have uneven : Duration.total unevenTicks = 34200000 := by decide
  have single : Duration.total [.of 0 34200000] = 34200000 := by decide
  have unevenDropped : Duration.dropped unevenTicks = 1200000 := by decide
  have singleDropped : Duration.dropped [.of 0 34200000] = 200000 := by decide
  refine ⟨e, hbegin, uneven, single, fun now => ?_⟩
  obtain ⟨haccount, -, -, -, -, hmoved⟩ :=
    tells_elapsed_iff hbegin unevenTicks (by rw [uneven]; decide) now
  obtain ⟨haccount', -⟩ :=
    tells_elapsed_iff hbegin [.of 0 34200000] (by rw [single]; decide) now
  rw [uneven, unevenDropped] at haccount
  rw [single, singleDropped] at haccount'
  exact ⟨by omega, by omega, hmoved⟩

/-- **The clock does not always tell the elapsed time**: it stands still over two halves of a
millisecond. -/
theorem not_tells_elapsed_halves :
    (∃ e, begin Town.served .deserted default = some e
        ∧ (e.after [.of 0 500000, .of 0 500000]).gameTime = 0
        ∧ (e.after [.of 0 1000000]).gameTime = 1)
      ∧ ¬ ∀ (town : Town Float32) (settings : Settings) (drawn : Seeds) (e : Episode Float32)
          (ticks : List Duration) (now : Int64),
        begin town settings drawn = some e → Duration.total ticks < 2 ^ 64 * 1000000 →
          ((e.after ticks).frame now).gameTime.toNat = Duration.total ticks / 1000000 := by
  have hbegin : begin Town.served .deserted default = some (setUp Town.served [] [] false) :=
    begin_eq Town.served .deserted default
  have halves : ((setUp Town.served [] [] false).after [.of 0 500000, .of 0 500000]).gameTime = 0 :=
    gameTime_after _ _
  refine ⟨⟨_, hbegin, halves, gameTime_after _ _⟩, fun always => ?_⟩
  have told := always Town.served .deserted default _ [.of 0 500000, .of 0 500000] 0 hbegin
    (by decide)
  rw [gameTime_frame, halves] at told
  exact absurd told (by decide)

end Episode

end TownTraffic
