import TownTraffic.Proofs.Literals
import TownTraffic.Json.Codec

/-!
# Decimals may be spelled

The decimal of a finite number has no zero in front of its digits, however it is laid out, so that
the numeral of a binary32 number is one that JSON has.

* **`Decimal.shortest_pos`** — the shortest decimal of a positive number has digits other than zero.
* **`Numeral.spelled_ofBinary32`** — the numeral of a binary32 number may be spelled.
-/

namespace TownTraffic

/-! ## The digits of a decimal -/

namespace Decimal

/-- The span of a positive number lies above zero. -/
theorem Span.low_of_pos (precision : Nat) (least : Int) {m : Nat} (hm : 0 < m) (q : Int) :
    0 < (Span.of precision least m q).low := by
  simp only [Span.of]
  split <;> omega

/-- The lower end of a span above zero lies above zero on every grid. -/
theorem Span.onGrid_fst_pos {s : Span} (hlow : 0 < s.low) (k : Int) : 0 < (s.onGrid k).1 := by
  rw [onGrid, Nat.shiftLeft_eq, Nat.pow_eq]
  positivity

/-- A grid point in a span above zero is not zero. -/
theorem Span.pos_of_pointOn {s : Span} (hlow : 0 < s.low) {k : Int} {c : Nat}
    (h : s.pointOn k = some c) : 0 < c := by
  have hgrid := onGrid_fst_pos hlow k
  unfold pointOn at h
  generalize s.onGrid k = grid at h hgrid
  obtain ⟨low, mid, high, step⟩ := grid
  -- The point above the middle is a successor; the one below is only taken if it is inside.
  have hbelow : (if s.closed then low ≤ mid / step * step && mid / step * step ≤ high
      else low < mid / step * step && mid / step * step < high) = true → 0 < mid / step := by
    intro hinside
    have hle : low ≤ mid / step * step := by
      split at hinside <;> simp at hinside <;> omega
    exact Nat.pos_of_mul_pos_right (hgrid.trans_le hle)
  dsimp only at h
  split at h
  case h_1 hinside _ =>
    have hpos := hbelow hinside
    obtain rfl := Option.some.inj h
    split <;> omega
  case h_2 hinside _ => exact Option.some.inj h ▸ hbelow hinside
  case h_3 => exact Option.some.inj h ▸ Nat.succ_pos _
  case h_4 => cases h

/-- What is met first on the grids is not zero. -/
theorem Span.pos_of_coarsest {s : Span} (hlow : 0 < s.low) {tries : Nat} {k : Int} {d : Scaled}
    (h : s.coarsest tries k = some d) : 0 < d.digits := by
  induction tries generalizing k with
  | zero => simp [coarsest] at h
  | succ tries ih =>
    unfold coarsest at h
    split at h
    case h_1 c hpoint =>
      obtain rfl := Option.some.inj h
      exact pos_of_pointOn hlow hpoint
    case h_2 => exact ih h

/-- **The shortest decimal of a positive number is not zero.** -/
theorem shortest_pos (precision : Nat) (least : Int) {m : Nat} (hm : 0 < m) (q : Int) :
    0 < (shortest precision least m q).digits := by
  simp only [shortest]
  generalize hd : Span.coarsest _ _ _ = d
  cases d with
  | some d => exact Span.pos_of_coarsest (Span.low_of_pos precision least hm q) hd
  | none =>
    -- The search ends with the exact value.
    rw [Option.getD_none]
    split
    · rw [Nat.shiftLeft_eq]
      positivity
    · rw [Nat.pow_eq]
      positivity

/-- The decimal of a number has digits other than zero, or is the zero that has no power. -/
theorem power_of_ofParts {precision : Nat} {least : Int} {parts : Binary.Parts} {negative : Bool}
    {d : Scaled} (h : ofParts precision least parts = some (negative, d)) (hzero : d.digits = 0) :
    d.power = 0 := by
  cases parts with
  | undefined => cases h
  | infinite => cases h
  | finite negative m q =>
    obtain ⟨-, rfl⟩ := Prod.mk.inj (Option.some.inj h)
    split at hzero
    case isTrue hm => rw [if_pos hm]
    case isFalse hm =>
      exact absurd hzero (shortest_pos precision least (Nat.pos_of_ne_zero hm) q).ne'

end Decimal

/-! ## Their layout -/

namespace Json.Numeral

open Decimal (Scaled Layout)

/-- Zeros are digits. -/
theorem digits_replicate (n : Nat) : Digits (List.replicate n '0') := by
  intro c hc
  rw [List.eq_of_mem_replicate hc]
  rfl

/-- Digits in front and behind are digits. -/
theorem digits_append {s t : List Char} (hs : Digits s) (ht : Digits t) : Digits (s ++ t) :=
  List.forall_mem_append.mpr ⟨hs, ht⟩

/-- The first of some digits are digits. -/
theorem digits_take {s : List Char} (h : Digits s) (n : Nat) : Digits (s.take n) :=
  fun c hc => h c (List.mem_of_mem_take hc)

/-- The last of some digits are digits. -/
theorem digits_drop {s : List Char} (h : Digits s) (n : Nat) : Digits (s.drop n) :=
  fun c hc => h c (List.mem_of_mem_drop hc)

/-- However a decimal is laid out, it may be spelled. -/
theorem spelled_spell (layout : Layout) {d : Scaled} (hzero : d.digits = 0 → d.power = 0)
    (negative : Bool) (sign : Int → ExponentSign) :
    Spelled ⟨negative, (layout.spell d).whole, (layout.spell d).fraction,
      (layout.spell d).exponent.map fun e => (sign e, Nat.toDigits 10 e.natAbs)⟩ := by
  have hdigits := digits_toDigits d.digits
  have hne : Nat.toDigits 10 d.digits ≠ [] := Nat.toDigits_ne_nil
  have hhead : d.power ≠ 0 → (Nat.toDigits 10 d.digits).head? ≠ some '0' :=
    fun hpower => head?_toDigits_ne fun h => hpower (hzero h)
  unfold Layout.spell
  dsimp only
  split
  case isTrue =>
    split
    case isTrue hpower =>
      -- Zeros stand in for the power of ten.
      refine ⟨digits_append hdigits (digits_replicate _), by simp [hne], ?_, ?_, by simp⟩
      · intro rest hwhole
        by_cases hp : d.power = 0
        · exact (spelled_toDigits false d.digits).whole_zero rest (by simpa [hp] using hwhole)
        · have hwhole := congrArg List.head? hwhole
          rw [List.head?_append_of_ne_nil _ hne] at hwhole
          exact absurd hwhole (hhead hp)
      · split
        · exact digits_replicate 1
        · exact digits_replicate 0
    case isFalse hpower =>
      have hhead := hhead (by omega)
      split
      case isTrue hplaces =>
        -- The point falls between two digits.
        obtain ⟨k, hk⟩ := Nat.exists_eq_add_of_lt hplaces
        rw [show _ - (-d.power).toNat = k + 1 by omega]
        refine ⟨digits_take hdigits _, by simp [hne], ?_, digits_drop hdigits _, by simp⟩
        intro rest hwhole
        have hwhole := congrArg List.head? hwhole
        rw [List.head?_take] at hwhole
        exact absurd hwhole hhead
      case isFalse =>
        -- Zeros stand between the point and the digits.
        exact ⟨digits_replicate 1, by simp, by simp, digits_append (digits_replicate _) hdigits,
          by simp⟩
  case isFalse =>
    -- The point follows the first digit.
    refine ⟨digits_take hdigits 1, by simp [hne], ?_, digits_drop hdigits 1, ?_⟩
    · intro rest hwhole
      have hlength := congrArg List.length hwhole
      simp only [List.length_take, List.length_cons] at hlength
      exact List.length_eq_zero_iff.mp (by omega)
    · intro sign' digits hexponent
      obtain ⟨-, rfl⟩ := Prod.mk.inj (Option.some.inj hexponent)
      exact ⟨Nat.toDigits_ne_nil, digits_toDigits _⟩

/-- **The numeral of a binary32 number may be spelled.** -/
theorem spelled_ofBinary32 {x : Float32} {n : Numeral} (h : ofBinary32 x = some n) : n.Spelled := by
  obtain ⟨⟨negative, d⟩, hd, rfl⟩ := Option.map_eq_some_iff.mp h
  exact spelled_spell .wire (Decimal.power_of_ofParts hd) negative _

end Json.Numeral

end TownTraffic
