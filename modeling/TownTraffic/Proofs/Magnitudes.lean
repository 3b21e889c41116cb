import TownTraffic.Proofs.Decimals
import Mathlib

/-!
# Finite numbers have readable decimals

The decimal of a finite binary32 number is nowhere near the end of binary64, so the value of its
numeral never overflows: whether or not it is the number itself, there is one.

* **`Binary.Below`** — numbers below a power of two; rounding, packing and multiplying keep them
  below the next.
* **`Decimal.Scaled.AtMost`** — decimals up to a bound; **`atMost_shortest`** the decimal of a
  binary32 number is one.
* **`Json.Numeral.exists_number?`** — numerals that have a value;
  **`exists_number?_of_isFinite`** the numeral of a finite binary32 number is one.
-/

namespace TownTraffic

namespace Binary

open Float.Model (Format totalExponent UnpackedFloat)
open Float.Model.UnpackedFloat

/-! ## Numbers below a power of two -/

/-- Whether a number is finite and below `2 ^ b`, or none at all. -/
def Below (b : Int) : UnpackedFloat → Prop
  | .infinity _ => False
  | .finite _ m e _ => m < 2 ^ (b - e).toNat
  | .zero _ | .notANumber => True

/-- A comparison tells whether a number is below a bound. -/
instance (b : Int) : DecidablePred (Below b) := fun x =>
  match x with
  | .infinity _ => .isFalse id
  | .finite _ m e _ => inferInstanceAs (Decidable (m < 2 ^ (b - e).toNat))
  | .zero _ | .notANumber => .isTrue trivial

section

variable {b c : Int} {x y : UnpackedFloat} {m : Nat} {e : Int}

/-- What is below a bound is not infinite. -/
theorem Below.isInf_eq_false (h : Below b x) : x.isInf = false := by
  cases x with
  | infinity => exact h.elim
  | _ => rfl

/-- A positive significand has a place below the bound. -/
theorem lt_of_pos_of_lt (hm : 0 < m) (h : m < 2 ^ (b - e).toNat) : e < b := by
  by_contra hle
  rw [show (b - e).toNat = 0 by omega] at h
  omega

/-- A number whose significand is below a bound is so itself, also if it is zero. -/
theorem below_of_lt {s : Sign} (h : m < 2 ^ (b - e).toNat) :
    Below b (if hm : m = 0 then .zero s else .finite s m e (Nat.pos_of_ne_zero hm)) := by
  split
  · trivial
  · exact h

/-- Losing its last places does not make a number greater. -/
theorem div_lt_of_lt (h : m < 2 ^ (b - e).toNat) (k : Nat) :
    m / 2 ^ k < 2 ^ (b - (e + k)).toNat := by
  rw [Nat.div_lt_iff_lt_mul (Nat.two_pow_pos k), ← Nat.pow_add]
  exact h.trans_le (Nat.pow_le_pow_right (by decide) (by omega))

/-- Every shift halves the significand. -/
theorem mantissa_shift (em : ExtendedMantissa) (k : Nat) :
    (em >>> k).mantissa = em.mantissa / 2 ^ k := by
  induction k with
  | zero => exact (Nat.div_one _).symm
  | succ k ih =>
    have hstep : (em >>> (k + 1)).mantissa = (em >>> k).mantissa / 2 := rfl
    rw [hstep, ih, Nat.div_div_eq_div_mul, Nat.pow_succ]

/-- A significand that is exact is kept as it is. -/
@[simp] theorem ofMantissaAndAccuracy_exact (m : Nat) :
    (ExtendedMantissa.ofMantissaAndAccuracy m .exact).mantissa = m := rfl

/-- Rounding adds at most one to a significand. -/
theorem roundedMantissa_le (em : ExtendedMantissa) : em.roundedMantissa ≤ em.mantissa + 1 := by
  obtain ⟨m, r, s⟩ := em
  cases r <;> cases s <;>
    simp [ExtendedMantissa.roundedMantissa, ExtendedMantissa.accuracy, Accuracy.roundToNearestEven]
  omega

/-- The place that is kept lies below the bound. -/
theorem targetExponent_le (hb : 0 ≤ b) (hm : 0 < m) (h : m < 2 ^ (b - e).toNat) :
    Format.binary64.targetExponent (totalExponent m e) ≤ b := by
  have hlog := (Nat.log2_lt hm.ne').mpr h
  simp only [Format.targetExponent, totalExponent, Format.mantissaBits, Format.minExponent]
  omega

/-- Rounding adds less than a power of two. -/
theorem below_round (hb : 0 ≤ b) (hm : 0 < m) (h : m < 2 ^ (b - e).toNat) (s : Sign) :
    Below (b + 1) (roundWithAccuracy Format.binary64 s m e .exact) := by
  have htarget := targetExponent_le hb hm h
  have hlt := lt_of_pos_of_lt hm h
  refine below_of_lt ?_
  simp only [mantissa_shift, ofMantissaAndAccuracy_exact]
  -- The first shift and the rounding make this significand, with this exponent.
  generalize Format.binary64.targetExponent (totalExponent m e) = target at htarget
  generalize hr : ExtendedMantissa.roundedMantissa _ = r
  have hrle : r ≤ m / 2 ^ (target - e).toNat + 1 := by
    rw [← hr, ← ofMantissaAndAccuracy_exact m, ← mantissa_shift]
    exact roundedMantissa_le _
  have hquotient := div_lt_of_lt h (target - e).toNat
  generalize he' : e + ((target - e).toNat : Int) = e' at hquotient ⊢
  refine div_lt_of_lt ?_ _
  rw [show (b + 1 - e').toNat = (b - e').toNat + 1 by omega, Nat.pow_succ]
  have hpos := Nat.two_pow_pos (b - e').toNat
  omega

/-! ## Their bits -/

/-- What the fields of some bits say about the number. -/
theorem below_unpack {sign : Sign} {exponent : BitVec 11} {mantissa : BitVec 52} (hb : 0 ≤ b)
    (hb' : b ≤ 900) (hexponent : (exponent.toNat : Int) ≤ b + 1022) :
    Below b (unpack Format.binary64 (packComponents Format.binary64 sign exponent mantissa)) := by
  have hmantissa := mantissa.isLt
  -- The exponent is not the one of infinities.
  have hones : exponent ≠ -1#11 := by
    rintro rfl
    simp at hexponent
    omega
  simp only [unpack, unpackExponent_packComponents, unpackMantissa_packComponents, if_neg hones]
  split
  next hzero =>
    split
    · trivial
    · subst hzero
      refine hmantissa.trans_le (Nat.pow_le_pow_right (by decide) ?_)
      simp [Format.exponentBias]
      omega
  next =>
    refine (1#1 ++ mantissa).isLt.trans_le (Nat.pow_le_pow_right (by decide) ?_)
    simp [Format.exponentBias]
    omega

/-- The bits of a number below a bound that is far from the end are those of such a number. -/
theorem Below.unpack_pack (h : Below b x) (hb : 0 ≤ b) (hb' : b ≤ 900) :
    Below b (unpack Format.binary64 (pack Format.binary64 x)) := by
  cases x with
  | infinity => exact h.elim
  | notANumber => exact trivial
  | zero s => cases s <;> exact trivial
  | finite s m e hm =>
    have hlt := lt_of_pos_of_lt hm h
    -- The exponent is far from the end, so the number is not packed as an infinity.
    have hroom : ¬ 2 ^ Format.binary64.exponentBits
        ≤ (e + Format.binary64.exponentBias + Format.binary64.mantissaBitsWithoutImplicit).toNat
          + 1 := by
      simp [Format.exponentBias]
      omega
    simp only [pack, if_neg hroom]
    split
    next normal =>
      have hplaces : 52 < (b - e).toNat := by
        have hlog := (Nat.log2_lt hm.ne').mpr h
        simp only [Format.mantissaBits] at normal
        omega
      refine below_unpack hb hb' ?_
      simp [Format.exponentBias]
      omega
    next => exact below_unpack hb hb' (by simp; omega)

/-! ## Products -/

/-- The bounds of two numbers add up to one of their product, but for a place lost in rounding. -/
theorem Below.mul (hx : Below b x) (hy : Below c y) (h : 0 ≤ b + c) :
    Below (b + c + 1) (mul Format.binary64 x y) := by
  cases x with
  | infinity => exact hx.elim
  | notANumber => cases y <;> trivial
  | zero s =>
    cases y with
    | infinity => exact hy.elim
    | _ => trivial
  | finite s m e hm =>
    cases y with
    | infinity => exact hy.elim
    | zero => trivial
    | notANumber => trivial
    | finite s' m' e' hm' =>
      have hlt := lt_of_pos_of_lt hm hx
      have hlt' := lt_of_pos_of_lt hm' hy
      -- Exponents add up and significands are multiplied; the rest is rounding.
      refine below_round h (Nat.mul_pos hm hm') ?_ _
      rw [show (b + c - (e + e')).toNat = (b - e).toNat + (c - e').toNat by omega, Nat.pow_add]
      exact Nat.mul_lt_mul'' hx hy

/-- **A product of two numbers far from the end is finite.** -/
theorem isInf_mul_eq_false {x y : Float} (hx : Below b x.toModel.unpack)
    (hy : Below c y.toModel.unpack) (h : 0 ≤ b + c) (h' : b + c + 1 ≤ 900) :
    (x * y).isInf = false :=
  ((hx.mul hy h).unpack_pack (by omega) h').isInf_eq_false

/-- A word is below the least power of two that is no word. -/
theorem below_toFloat (n : UInt64) : Below 65 n.toFloat.toModel.unpack := by
  refine Below.unpack_pack (x := ofUInt64 Format.binary64 n) ?_ (by decide) (by decide)
  simp only [ofUInt64, ofNat, ofInt, UnpackedFloat.normalize]
  split
  next hneg => exact absurd (compare_lt_iff_lt.mp hneg) (by omega)
  next => trivial
  next hpos =>
    have hpos : 0 < n.toNat := by simpa using compare_gt_iff_gt.mp hpos
    simp only [UnpackedFloat.round, decreaseExponent]
    generalize (0 - Format.binary64.targetExponent (totalExponent (n.toNat : Int).toNat 0)).toNat
      = k
    rw [Int.toNat_natCast, Nat.shiftLeft_eq]
    refine below_round (b := 64) (by decide) (Nat.mul_pos hpos (Nat.two_pow_pos k)) ?_ _
    rw [show (64 - (0 - (k : Int))).toNat = 64 + k by omega, Nat.pow_add]
    exact Nat.mul_lt_mul_of_pos_right n.toNat_lt (Nat.two_pow_pos k)

end

/-- A finite binary32 number has less than 25 places, the first of them below `2 ^ 128`. -/
theorem Parts.bounds_of_ofBinary32 {x : Float32} {negative : Bool} {m : Nat} {q : Int}
    (h : Parts.ofBinary32 x = .finite negative m q) : m < 2 ^ 24 ∧ q ≤ 104 := by
  simp only [Parts.ofBinary32, Parts.ofBits] at h
  have hexponent := Nat.mod_lt (x.toBits.toNat >>> 23) (show 0 < 1 <<< 8 by decide)
  have hfraction := Nat.mod_lt x.toBits.toNat (show 0 < 1 <<< 23 by decide)
  generalize x.toBits.toNat >>> 23 % (1 <<< 8) = exponent at h hexponent
  generalize x.toBits.toNat % (1 <<< 23) = fraction at h hfraction
  simp only [Nat.reduceShiftLeft, Nat.reduceSub] at h hexponent hfraction
  split at h
  · split at h <;> cases h
  · split at h <;> cases h <;> omega

/-- A finite binary32 number is a whole number times a power of two. -/
theorem Parts.exists_ofBinary32 {x : Float32} (h : x.isFinite = true) :
    ∃ negative m q, Parts.ofBinary32 x = .finite negative m q := by
  have hexponent : x.toBits.toNat >>> 23 % (1 <<< 8) ≠ (1 <<< 8) - 1 := by
    intro hones
    have hfield : @unpackExponent Format.binary32 x.toBits.toBitVec = -1#8 := by
      refine BitVec.eq_of_toNat_eq ?_
      simpa [unpackExponent, BitVec.extractLsb_toNat] using hones
    have hunpack : x.isFinite = (unpack Format.binary32 x.toBits.toBitVec).isFinite := rfl
    rw [hunpack, unpack] at h
    simp only [hfield, if_true] at h
    split at h <;> cases h
  simp only [Parts.ofBinary32, Parts.ofBits]
  rw [if_neg hexponent]
  split <;> exact ⟨_, _, _, rfl⟩

end Binary

/-! ## Decimals of binary32 numbers -/

namespace Decimal

/-- Whether a decimal is at most a bound. -/
def Scaled.AtMost (d : Scaled) (bound : Nat) : Prop :=
  d.digits * 10 ^ d.power.toNat ≤ bound * 10 ^ (-d.power).toNat

/-- A grid point in a span is not beyond its end. -/
theorem Span.atMost_of_pointOn {s : Span} {k : Int} {c : Nat} (h : s.pointOn k = some c) :
    Scaled.AtMost ⟨c, k⟩ (s.high * 2 ^ s.unit.toNat) := by
  have inside : c * (s.onGrid k).2.2.2 ≤ (s.onGrid k).2.2.1 := by
    unfold pointOn at h
    generalize s.onGrid k = grid at h ⊢
    obtain ⟨low, mid, high, step⟩ := grid
    -- Open or closed, a span holds nothing beyond its upper end.
    have hin : ∀ c, (if s.closed then low ≤ c * step && c * step ≤ high
        else low < c * step && c * step < high) = true → c * step ≤ high := by
      intro c hc
      split at hc <;> simp at hc <;> omega
    dsimp only at h ⊢
    split at h
    case h_1 hbelow habove =>
      obtain rfl := Option.some.inj h
      split
      · exact hin _ hbelow
      · exact hin _ habove
    case h_2 hbelow _ => exact Option.some.inj h ▸ hin _ hbelow
    case h_3 _ habove => exact Option.some.inj h ▸ hin _ habove
    case h_4 => cases h
  simp only [onGrid, Nat.shiftLeft_eq, Nat.pow_eq] at inside
  calc c * 10 ^ k.toNat ≤ c * (10 ^ k.toNat * 2 ^ (-s.unit).toNat) :=
        Nat.mul_le_mul_left c (Nat.le_mul_of_pos_right _ (Nat.two_pow_pos _))
    _ ≤ s.high * (10 ^ (-k).toNat * 2 ^ s.unit.toNat) := inside
    _ = s.high * 2 ^ s.unit.toNat * 10 ^ (-k).toNat := by ring

/-- What is met first on the grids is not beyond the end of the span. -/
theorem Span.atMost_of_coarsest {s : Span} {tries : Nat} {k : Int} {d : Scaled}
    (h : s.coarsest tries k = some d) : d.AtMost (s.high * 2 ^ s.unit.toNat) := by
  induction tries generalizing k with
  | zero => simp [coarsest] at h
  | succ tries ih =>
    unfold coarsest at h
    split at h
    case h_1 c hpoint =>
      obtain rfl := Option.some.inj h
      exact atMost_of_pointOn hpoint
    case h_2 => exact ih h

/-- **The decimal of a binary32 number is not far beyond the number.** -/
theorem atMost_shortest {m : Nat} {q : Int} (hm : m < 2 ^ 24) (hq : q ≤ 104) :
    (shortest 24 (-149) m q).AtMost (2 ^ 129) := by
  simp only [shortest]
  generalize hd : Span.coarsest _ _ _ = d
  cases d with
  | some d =>
    refine (Span.atMost_of_coarsest hd).trans (Nat.mul_le_mul_right _ ?_)
    calc (Span.of 24 (-149) m q).high * 2 ^ (q - 2).toNat ≤ 2 ^ 27 * 2 ^ 102 :=
          Nat.mul_le_mul (by simp only [Span.of]; omega)
            (Nat.pow_le_pow_right (by decide) (by omega))
      _ = 2 ^ 129 := by decide
  | none =>
    -- The search ends with the exact value.
    rw [Option.getD_none]
    split
    next hnonneg =>
      refine Nat.mul_le_mul_right _ ?_
      rw [Nat.shiftLeft_eq]
      calc m * 2 ^ q.toNat ≤ 2 ^ 24 * 2 ^ 104 :=
            Nat.mul_le_mul hm.le (Nat.pow_le_pow_right (by decide) (by omega))
        _ ≤ 2 ^ 129 := by decide
    next hneg =>
      simp only [Scaled.AtMost, Int.toNat_of_nonpos (show q ≤ 0 by omega), Nat.pow_zero,
        Nat.mul_one, Nat.pow_eq]
      exact Nat.mul_le_mul (hm.le.trans (by decide)) (Nat.pow_le_pow_left (by decide) _)

/-- A decimal below `10 ^ 39` has its first digit at most there. -/
theorem length_toDigits_le {d : Scaled} (h : d.AtMost (2 ^ 129))
    (hzero : d.digits = 0 → d.power = 0) :
    ((Nat.toDigits 10 d.digits).length : Int) + d.power ≤ 39 := by
  by_cases hd : d.digits = 0
  · simp [hd, hzero hd]
  by_contra hlt
  -- Otherwise the first digit alone were beyond the bound.
  have hlength : 10 ^ ((Nat.toDigits 10 d.digits).length - 1) ≤ d.digits := by
    by_cases hone : (Nat.toDigits 10 d.digits).length - 1 = 0
    · rw [hone]
      omega
    · by_contra hless
      have hle := (Nat.length_toDigits_le_iff (by decide) (Nat.pos_of_ne_zero hone)).mpr
        (Nat.lt_of_not_le hless)
      omega
  have hpower : 10 ^ ((Nat.toDigits 10 d.digits).length - 1 + d.power.toNat)
      < 10 ^ (39 + (-d.power).toNat) :=
    calc 10 ^ ((Nat.toDigits 10 d.digits).length - 1 + d.power.toNat)
        ≤ d.digits * 10 ^ d.power.toNat := by
          rw [Nat.pow_add]
          exact Nat.mul_le_mul_right _ hlength
      _ ≤ 2 ^ 129 * 10 ^ (-d.power).toNat := h
      _ < 10 ^ 39 * 10 ^ (-d.power).toNat :=
          Nat.mul_lt_mul_of_pos_right (by decide) (Nat.pow_pos (by decide))
      _ = 10 ^ (39 + (-d.power).toNat) := (Nat.pow_add _ _ _).symm
  have hexponents := (Nat.pow_lt_pow_iff_right (by decide)).mp hpower
  omega

/-- In messages at most thirteen digits stand before the point. -/
theorem Layout.length_whole_wire (d : Scaled) : (wire.spell d).whole.length ≤ 13 := by
  unfold spell
  dsimp only
  split
  next hpositional =>
    simp only [wire, Bool.and_eq_true, decide_eq_true_eq] at hpositional
    split
    · simp
      omega
    · split
      · simp
        omega
      · simp
  next => simp

/-- In messages exponents are at most as great as the place of the first digit. -/
theorem Layout.le_of_exponent_wire {d : Scaled} {e : Int} (h : (wire.spell d).exponent = some e) :
    e = (Nat.toDigits 10 d.digits).length - 1 + d.power := by
  unfold spell at h
  dsimp only at h
  split at h
  · split at h
    · cases h
    · split at h <;> cases h
  · exact (Option.some.inj h).symm

/-- The decimal of a finite binary32 number has its first digit below the fortieth place. -/
theorem exists_ofBinary32 {x : Float32} (h : x.isFinite = true) :
    ∃ negative d, ofBinary32 x = some (negative, d)
      ∧ ((Nat.toDigits 10 d.digits).length : Int) + d.power ≤ 39 := by
  obtain ⟨negative, m, q, hparts⟩ := Binary.Parts.exists_ofBinary32 h
  obtain ⟨hm, hq⟩ := Binary.Parts.bounds_of_ofBinary32 hparts
  have hdecimal : ofBinary32 x = some (negative,
      if m = 0 then ⟨0, 0⟩ else shortest 24 (-149) m q) := by
    rw [ofBinary32, hparts, ofParts]
  refine ⟨negative, _, hdecimal, length_toDigits_le ?_ (power_of_ofParts hdecimal)⟩
  split
  · simp [Scaled.AtMost]
  · exact atMost_shortest hm hq

end Decimal

/-! ## Their numerals have values -/

namespace Json.Numeral

/-- Powers of ten that may occur are far from the end of binary64. -/
theorem below_tenTo : ∀ n < 52, Binary.Below 180 (tenTo n).toModel.unpack := by decide +kernel

/-- An exponent of at most two digits is read as what it says. -/
theorem exponentValue_toDigits : ∀ n < 39, exponentValue 0 (Nat.toDigits 10 n) = .ok n := by
  decide

/-- A significand has a value at any exponent that may occur. -/
theorem lt_of_scaled?_eq_none {significand : Nat} {exponent : Int}
    (h : scaled? significand exponent = none) : 51 < exponent := by
  by_contra hle
  have hle : exponent ≤ 51 := Int.not_lt.mp hle
  unfold scaled? at h
  dsimp only at h
  split at h
  · cases h
  · rw [if_pos (hle.trans (by decide)), Binary.isInf_mul_eq_false
      (Binary.below_toFloat significand.toUInt64) (below_tenTo _ (by omega)) (by decide)
      (by decide)] at h
    cases h

/-- No more digits are left over than there are. -/
theorem length_significand_le (value : Nat) (digits : List Char) :
    (significand value digits).2.length ≤ digits.length := by
  induction digits generalizing value with
  | nil => simp [significand]
  | cons c digits ih =>
    unfold significand
    split
    · exact (ih _).trans (Nat.le_succ _)
    · exact le_rfl

/-- A numeral has a value if neither the digits before its point nor its exponent are many. -/
theorem exists_number? {n : Numeral} (hwhole : n.whole.length ≤ 13)
    (hexponent : ∀ sign digits, n.exponent = some (sign, digits) →
      sign = .minus ∨ ∃ e ≤ 38, exponentValue 0 digits = .ok e) :
    ∃ value, n.number? = .ok value := by
  have hextra := (length_significand_le 0 n.whole).trans hwhole
  unfold number?
  generalize significand 0 n.whole = whole at hextra
  obtain ⟨value, extra⟩ := whole
  dsimp only at hextra ⊢
  split
  · -- A whole number that fits a word.
    split
    · exact ⟨_, rfl⟩
    · split <;> exact ⟨_, rfl⟩
  -- Any other number is scaled, which fails only far beyond the exponents that may occur.
  · generalize significand value n.fraction = fraction
    obtain ⟨value, unused⟩ := fraction
    dsimp only
    generalize hshift : (extra.length : Int) - (n.fraction.length - unused.length : Nat) = shift
    split
    · split
      · exact ⟨_, rfl⟩
      next hnone =>
        have hlt := lt_of_scaled?_eq_none hnone
        omega
    next sign digits hsome =>
      split
      next e he =>
        split
        · exact ⟨_, rfl⟩
        next hnone =>
          have hlt := lt_of_scaled?_eq_none hnone
          obtain hminus | ⟨e', hle, he'⟩ := hexponent sign digits hsome
          · rw [if_pos hminus] at hlt
            omega
          · obtain rfl := Except.ok.inj (he.symm.trans he')
            split at hlt <;> omega
      next rest hrest =>
        obtain hminus | ⟨e', hle, he'⟩ := hexponent sign digits hsome
        · rw [if_pos (.inr hminus)]
          exact ⟨_, rfl⟩
        · rw [he'] at hrest
          cases hrest

/-- **The numeral of a finite binary32 number has a value.** -/
theorem exists_number?_of_isFinite {x : Float32} (h : x.isFinite = true) :
    ∃ n value, ofBinary32 x = some n ∧ n.number? = .ok value := by
  obtain ⟨negative, d, hdecimal, hplaces⟩ := Decimal.exists_ofBinary32 h
  obtain ⟨n, hn⟩ : ∃ n, ofBinary32 x = some n := ⟨_, congrArg (Option.map _) hdecimal⟩
  have hfields := hn
  rw [ofBinary32, hdecimal, Option.map_some, Option.some.injEq] at hfields
  obtain ⟨value, hvalue⟩ : ∃ value, n.number? = .ok value := by
    rw [← hfields]
    refine exists_number? (Decimal.Layout.length_whole_wire d) ?_
    intro sign digits hexponent
    obtain ⟨e, he, hsigned⟩ := Option.map_eq_some_iff.mp hexponent
    obtain ⟨rfl, rfl⟩ := Prod.mk.inj hsigned
    have hle := Decimal.Layout.le_of_exponent_wire he
    by_cases hneg : e < 0
    · exact .inl (if_pos hneg)
    · exact .inr ⟨e.natAbs, by omega, exponentValue_toDigits _ (by omega)⟩
  exact ⟨n, value, hn, hvalue⟩

end Json.Numeral

end TownTraffic
