import TownTraffic.Scalar
import TownTraffic.Chance.Keystream

/-!
# Draws from a keystream

* **`Keystream.below`** — a whole number below a bound, nearly evenly spread.
* **`Keystream.between`** — a number of an interval; refused when the interval is unbounded.
* **`Keystream.many`** — the same draw over and over.
-/

namespace TownTraffic.Chance.Keystream

/-- A whole number below `n`, for `0 < n < 2 ^ 32`.

The word times `n` has its answer in the upper half. When the lower half is so large that a carry
from further digits could still reach the upper half, a second word supplies those digits. -/
def below (s : Keystream) (n : Nat) : Nat × Keystream :=
  let (w, s) := s.next
  let product := w.toNat * n
  let high := product / UInt32.size
  let low := product % UInt32.size
  if UInt32.size - n < low then
    let (w, s) := s.next
    let carry := low + w.toNat * n / UInt32.size
    (if UInt32.size ≤ carry then high + 1 else high, s)
  else
    (high, s)

variable {α : Type} [Scalar α]

/-- A number from `low` up to `high`, in `2 ^ 23` even steps. An interval with an end at infinity
cannot be divided so, and one whose ends are not in order holds nothing. -/
def between (s : Keystream) (low high : α) : Option (α × Keystream) :=
  let width := high - low
  if Scalar.lt low high && Scalar.isFinite low && Scalar.isFinite width then
    let (w, s) := s.next
    some (Scalar.ratio (w.toNat >>> 9) 8388608 * width + low, s)
  else none

/-- Draws a number of values one after the other. -/
def many {β : Type} (draw : Keystream → Option (β × Keystream)) :
    Nat → Keystream → Option (List β)
  | 0, _ => some []
  | n + 1, s => do
    let (x, s) ← draw s
    let xs ← many draw n s
    return x :: xs

/-- Nothing is drawn no times. -/
@[simp] theorem many_zero {β : Type} (draw : Keystream → Option (β × Keystream)) (s : Keystream) :
    many draw 0 s = some [] := rfl

/-- As many values are drawn as asked for. -/
theorem length_of_many {β : Type} {draw : Keystream → Option (β × Keystream)} {n : Nat}
    {s : Keystream} {xs : List β} (h : many draw n s = some xs) : xs.length = n := by
  induction n generalizing s xs with
  | zero => simp_all [many]
  | succ n ih =>
    simp only [many, Option.bind_eq_bind, Option.bind_eq_some_iff, Option.pure_def,
      Option.some.injEq, Prod.exists] at h
    obtain ⟨x, s', _, ys, hys, rfl⟩ := h
    simp [ih hys]

end TownTraffic.Chance.Keystream
