import TownTraffic.Json.Scan
import Mathlib.Tactic.IntervalCases
import Mathlib.Tactic.Positivity
import Mathlib.Tactic.Linarith

/-!
# Literals are read back

A text in quotes and a number are read back from their spelling, in front of whatever may follow
them. Their spellings have no control characters, so neither ever breaks a line.

* **`Quoted.read_write`** — texts, whatever characters they have.
* **`Numeral.Spelled`** — the numerals that may be spelled; **`Numeral.read_chars`** these are read
  back.
* **`Numeral.number?_ofNat`**, **`Numeral.number?_ofInt`** — whole numbers have their own value.
-/

namespace TownTraffic.Json

/-- Whether a text has no control characters. -/
def Printable (s : List Char) : Prop := ∀ c ∈ s, 0x20 ≤ c.toNat

/-- One look at every character tells whether a text is printable. -/
instance (s : List Char) : Decidable (Printable s) :=
  decidable_of_iff (s.all fun c => decide (0x20 ≤ c.toNat)) (by simp [Printable])

/-- A printable text stays so behind a printable character. -/
theorem Printable.cons {c : Char} {s : List Char} (hc : 0x20 ≤ c.toNat) (hs : Printable s) :
    Printable (c :: s) := List.forall_mem_cons.mpr ⟨hc, hs⟩

/-- Printable texts make a printable one. -/
theorem Printable.append {s t : List Char} (hs : Printable s) (ht : Printable t) :
    Printable (s ++ t) := List.forall_mem_append.mpr ⟨hs, ht⟩

/-! ## Texts -/

namespace Quoted

/-- A hexadecimal digit is a single byte and is read back. -/
theorem hexDigit_spec : ∀ n < 16, (hexDigit n).utf8Size = 1 ∧ hexValue? (hexDigit n) = some n := by
  decide

/-- A hexadecimal digit is no control character. -/
theorem le_toNat_hexDigit : ∀ n < 16, 0x20 ≤ (hexDigit n).toNat := by decide

/-- A control character is read back from its code. -/
theorem readFrom_code {c : Char} (h : c.toNat < 0x20) (done rest : List Char) :
    readFrom .plain done
      (['\\', 'u', '0', '0', hexDigit (c.toNat / 16), hexDigit (c.toNat % 16)] ++ rest)
      = readFrom .plain (c :: done) rest := by
  obtain ⟨hsize, hvalue⟩ := hexDigit_spec (c.toNat / 16) (by omega)
  obtain ⟨hsize', hvalue'⟩ := hexDigit_spec (c.toNat % 16) (by omega)
  have hzero : hexValue? '0' = some 0 ∧ '0'.utf8Size = 1 := by decide
  have hcode : c.toNat / 16 * 16 + c.toNat % 16 = c.toNat := by omega
  have hunit : unit none c.toNat = .ok (.inl c) := by
    rw [unit, if_neg (by omega), if_neg (by omega), Char.ofNat_toNat]
  simp [readFrom, hsize, hvalue, hsize', hvalue', hzero, hcode, hunit]

/-- The spelling of a character is read back. -/
theorem readFrom_encodeChar (c : Char) (done rest : List Char) :
    readFrom .plain done (encodeChar c ++ rest) = readFrom .plain (c :: done) rest := by
  unfold encodeChar
  split
  case h_8 _ hquote hbackslash _ _ _ _ _ =>
    split
    case isTrue control => exact readFrom_code control done rest
    case isFalse control =>
      rw [List.singleton_append, readFrom, if_neg hquote, if_neg hbackslash, if_neg control]
  all_goals simp [readFrom, escaped?]

/-- The spelling of a text is read back. -/
theorem readFrom_encode (s done rest : List Char) :
    readFrom .plain done (encode s ++ '"' :: rest) = .ok (.ofList (done.reverse ++ s), rest) := by
  induction s generalizing done with
  | nil => simp [readFrom]
  | cons c s ih => rw [encode_cons, List.append_assoc, readFrom_encodeChar, ih]; simp

/-- **A text in quotes is read back**, whatever characters it has and whatever follows. -/
theorem read_write (s : String) (rest : List Char) :
    read (encode s.toList ++ '"' :: rest) = .ok (s, rest) := by
  rw [read, readFrom_encode]
  simp

/-- What follows a text in quotes stands at its end. -/
theorem suffix_write (s : String) (rest : List Char) : rest <:+ write s rest :=
  ⟨'"' :: (encode s.toList ++ ['"']), by simp [write]⟩

/-- The spelling of a character has no control characters. -/
theorem printable_encodeChar (c : Char) : Printable (encodeChar c) := by
  unfold encodeChar
  split
  case h_8 =>
    split
    case isTrue control =>
      have hhigh := le_toNat_hexDigit (c.toNat / 16) (by omega)
      have hlow := le_toNat_hexDigit (c.toNat % 16) (by omega)
      exact .append (s := ['\\', 'u', '0', '0']) (by decide)
        (.cons hhigh (.cons hlow (by decide)))
    case isFalse control => exact .cons (Nat.le_of_not_lt control) (by decide)
  all_goals decide

/-- The spelling of a text has no control characters. -/
theorem printable_encode (s : List Char) : Printable (encode s) := by
  intro d hd
  obtain ⟨c, -, hd⟩ := List.mem_flatMap.mp hd
  exact printable_encodeChar c d hd

/-- A text in quotes has no control characters. -/
theorem printable_write (s : String) {rest : List Char} (h : Printable rest) :
    Printable (write s rest) :=
  .cons (by decide) (.append (printable_encode s.toList) (.cons (by decide) h))

end Quoted

/-! ## Numbers -/

namespace Numeral

/-- Whether all characters are digits. -/
def Digits (s : List Char) : Prop := ∀ c ∈ s, c.isDigit = true

/-- **Whether a numeral is one that may be spelled**: digits before the point, without a zero in
front of others, digits after it, and at least one digit in the exponent. -/
structure Spelled (n : Numeral) : Prop where
  whole_digits : Digits n.whole
  whole_ne_nil : n.whole ≠ []
  whole_zero : ∀ rest, n.whole = '0' :: rest → rest = []
  fraction_digits : Digits n.fraction
  exponent_digits : ∀ sign digits, n.exponent = some (sign, digits) → digits ≠ [] ∧ Digits digits

/-- Whether a text does not go on with the digits in front of it. -/
def EndsDigits (rest : List Char) : Prop := ∀ c ∈ rest.head?, c.isDigit = false

/-- Whether a text does not go on with the number in front of it. -/
def EndsNumber (rest : List Char) : Prop :=
  ∀ c ∈ rest.head?, c.isDigit = false ∧ c ≠ '.' ∧ c ≠ 'e' ∧ c ≠ 'E'

/-- The fraction with its point, if there is one. -/
def pointed (n : Numeral) : List Char := if n.fraction.isEmpty then [] else '.' :: n.fraction

/-- The exponent with its sign, if there is one. -/
def scaled (n : Numeral) : List Char :=
  match n.exponent with
  | none => []
  | some (.bare, digits) => 'e' :: digits
  | some (.plus, digits) => 'e' :: '+' :: digits
  | some (.minus, digits) => 'e' :: '-' :: digits

/-- A numeral is its sign, its whole part, its fraction and its power of ten, one after the
other. -/
theorem chars_eq (n : Numeral) :
    n.chars = (if n.negative then ['-'] else []) ++ (n.whole ++ (n.pointed ++ n.scaled)) := by
  rw [chars, List.append_assoc, List.append_assoc]
  rfl

/-! ### Reading the parts -/

/-- Digits are taken up to where they end. -/
theorem takeDigits_append {digits rest : List Char} (h : Digits digits) (ends : EndsDigits rest) :
    takeDigits (digits ++ rest) = (digits, rest) := by
  have htake : rest.takeWhile Char.isDigit = [] ∧ rest.dropWhile Char.isDigit = rest := by
    cases rest with
    | nil => exact ⟨rfl, rfl⟩
    | cons c rest =>
      have hc : c.isDigit = false := ends c rfl
      simp [List.takeWhile, List.dropWhile, hc]
  rw [takeDigits, List.takeWhile_append_of_pos h, List.dropWhile_append_of_pos h, htake.1, htake.2,
    List.append_nil]

/-- A digit starts a number before the point. -/
theorem readWhole_append {n : Numeral} (spelled : n.Spelled) (ended : Blunder) {rest : List Char}
    (ends : EndsDigits rest) : readWhole ended (n.whole ++ rest) = .ok (n.whole, rest) := by
  obtain ⟨hdigits, hne, hzero, -, -⟩ := spelled
  cases hwhole : n.whole with
  | nil => exact absurd hwhole hne
  | cons c digits =>
    rw [hwhole] at hdigits
    by_cases hc : c = '0'
    · subst hc
      obtain rfl := hzero digits hwhole
      cases rest with
      | nil => rfl
      | cons d rest =>
        have hd : d.isDigit = false := ends d rfl
        simp [readWhole, hd]
    · have hdigit : c.isDigit = true := hdigits c (by simp)
      simp only [List.cons_append, readWhole, hdigit, if_true]
      rw [← List.cons_append, takeDigits_append hdigits ends]

/-- What follows the digits of a fraction does not go on with them. -/
theorem endsDigits_scaled (n : Numeral) {rest : List Char} (ends : EndsNumber rest) :
    EndsDigits (n.scaled ++ rest) := by
  unfold scaled
  split
  case h_1 => exact fun c hc => (ends c hc).1
  all_goals simp [EndsDigits]

/-- What follows the digits before the point does not go on with them. -/
theorem endsDigits_pointed (n : Numeral) {rest : List Char} (ends : EndsNumber rest) :
    EndsDigits (n.pointed ++ (n.scaled ++ rest)) := by
  unfold pointed
  split
  · exact n.endsDigits_scaled ends
  · simp [EndsDigits]

/-- What follows a number without a fraction does not start with a point. -/
theorem head?_scaled_ne (n : Numeral) {rest : List Char} (ends : EndsNumber rest) :
    (n.scaled ++ rest).head? ≠ some '.' := by
  unfold scaled
  split
  case h_1 => exact fun hc => (ends '.' hc).2.1 rfl
  all_goals simp

/-- The fraction is read back. -/
theorem readFraction_append {n : Numeral} (spelled : n.Spelled) (ended : Blunder)
    {rest : List Char} (ends : EndsNumber rest) :
    readFraction ended (n.pointed ++ (n.scaled ++ rest)) = .ok (n.fraction, n.scaled ++ rest) := by
  have hhead := n.head?_scaled_ne ends
  have htake := takeDigits_append spelled.fraction_digits (n.endsDigits_scaled ends)
  generalize n.scaled ++ rest = later at hhead htake
  unfold pointed
  cases hfraction : n.fraction with
  | nil =>
    simp only [List.isEmpty_nil, if_true, List.nil_append]
    unfold readFraction
    split
    · simp at hhead
    · rfl
  | cons c digits =>
    rw [hfraction] at htake
    simp only [List.isEmpty_cons, Bool.false_eq_true, if_false, List.cons_append, readFraction]
    rw [← List.cons_append, htake]

/-- The exponent is read back. -/
theorem readExponent_append {n : Numeral} (spelled : n.Spelled) (ended : Blunder)
    {rest : List Char} (ends : EndsNumber rest) :
    readExponent ended (n.scaled ++ rest) = .ok (n.exponent, rest) := by
  have hdigits : ∀ sign digits, n.exponent = some (sign, digits) →
      ∃ d ds, digits = d :: ds ∧ d.isDigit = true
        ∧ takeDigits (digits ++ rest) = (digits, rest) := by
    intro sign digits hexponent
    obtain ⟨hne, hall⟩ := spelled.exponent_digits sign digits hexponent
    obtain ⟨d, ds, rfl⟩ := List.exists_cons_of_ne_nil hne
    exact ⟨d, ds, rfl, hall d (by simp), takeDigits_append hall fun c hc => (ends c hc).1⟩
  unfold scaled
  cases hexponent : n.exponent with
  | none =>
    cases rest with
    | nil => rfl
    | cons c rest =>
      obtain ⟨-, -, he, hE⟩ := ends c rfl
      simp [readExponent, he, hE]
  | some exponent =>
    obtain ⟨sign, digits⟩ := exponent
    obtain ⟨d, ds, rfl, hd, htake⟩ := hdigits sign digits hexponent
    rw [List.cons_append] at htake
    cases sign with
    | bare =>
      -- A digit is no sign, so the exponent is read without one.
      have hplus : d ≠ '+' := by rintro rfl; simp at hd
      have hminus : d ≠ '-' := by rintro rfl; simp at hd
      simp [readExponent, hplus, hminus, htake]
    | plus => simp [readExponent, htake]
    | minus => simp [readExponent, htake]

/-- A text without a sign starts with the digits before the point. -/
theorem read_of_head?_ne {s : List Char} (h : s.head? ≠ some '-') (ended : Blunder) :
    read ended s = do
      let (whole, s) ← readWhole ended s
      let (fraction, s) ← readFraction ended s
      let (exponent, s) ← readExponent ended s
      return (⟨false, whole, fraction, exponent⟩, s) := by
  unfold read
  split
  next negative s' hsign =>
    split at hsign
    · simp at h
    · obtain ⟨rfl, rfl⟩ := Prod.mk.inj hsign
      rfl

/-- **A numeral is read back**, wherever the text does not go on with it. -/
theorem read_chars {n : Numeral} (spelled : n.Spelled) (ended : Blunder) {rest : List Char}
    (ends : EndsNumber rest) : read ended (n.chars ++ rest) = .ok (n, rest) := by
  have hwhole := readWhole_append spelled ended (n.endsDigits_pointed ends)
  have hfraction := readFraction_append spelled ended ends
  have hexponent := readExponent_append spelled ended ends
  rw [chars_eq, List.append_assoc, List.append_assoc, List.append_assoc]
  obtain ⟨negative, whole, fraction, exponent⟩ := n
  cases negative with
  | true =>
    simp only [if_true, List.cons_append, List.nil_append, read, hwhole, hfraction, hexponent, bind,
      Except.bind, pure, Except.pure]
  | false =>
    have hhead : (whole ++ (pointed ⟨false, whole, fraction, exponent⟩
        ++ (scaled ⟨false, whole, fraction, exponent⟩ ++ rest))).head? ≠ some '-' := by
      rw [List.head?_append_of_ne_nil _ spelled.whole_ne_nil]
      intro hminus
      simpa using spelled.whole_digits '-' (List.mem_of_head? hminus)
    simp only [Bool.false_eq_true, if_false, List.nil_append, read_of_head?_ne hhead, hwhole,
      hfraction, hexponent, bind, Except.bind, pure, Except.pure]

/-! ### The characters of a numeral -/

/-- Digits are no control characters. -/
theorem Digits.printable {s : List Char} (h : Digits s) : Printable s := by
  intro c hc
  have hdigit := Char.isDigit_iff_toNat.mp (h c hc)
  have hzero : '0'.toNat = 0x30 := rfl
  omega

/-- A numeral starts with a sign or a digit. -/
theorem exists_cons_chars {n : Numeral} (spelled : n.Spelled) :
    ∃ c rest, n.chars = c :: rest ∧ startsNumber c = true := by
  obtain ⟨d, ds, hwhole⟩ := List.exists_cons_of_ne_nil spelled.whole_ne_nil
  have hd : d.isDigit = true := spelled.whole_digits d (by simp [hwhole])
  rw [chars_eq, hwhole]
  cases n.negative with
  | true => exact ⟨'-', _, rfl, rfl⟩
  | false => exact ⟨d, _, rfl, by simp [startsNumber, hd]⟩

/-- A fraction has no control characters. -/
theorem printable_pointed {n : Numeral} (spelled : n.Spelled) : Printable n.pointed := by
  unfold pointed
  split
  · decide
  · exact .cons (by decide) spelled.fraction_digits.printable

/-- An exponent has no control characters. -/
theorem printable_scaled {n : Numeral} (spelled : n.Spelled) : Printable n.scaled := by
  have hdigits : ∀ sign digits, n.exponent = some (sign, digits) → Printable digits :=
    fun sign digits h => (spelled.exponent_digits sign digits h).2.printable
  unfold scaled
  split
  case h_1 => decide
  case h_2 h => exact .cons (by decide) (hdigits _ _ h)
  case h_3 h => exact .cons (by decide) (.cons (by decide) (hdigits _ _ h))
  case h_4 h => exact .cons (by decide) (.cons (by decide) (hdigits _ _ h))

/-- A numeral has no control characters. -/
theorem printable_chars {n : Numeral} (spelled : n.Spelled) : Printable n.chars := by
  have hsign : Printable (if n.negative then ['-'] else []) := by split <;> decide
  rw [chars_eq]
  exact hsign.append (spelled.whole_digits.printable.append
    ((printable_pointed spelled).append (printable_scaled spelled)))

/-! ### Whole numbers -/

/-- The digits of a number are digits. -/
theorem digits_toDigits (n : Nat) : Digits (Nat.toDigits 10 n) := fun _ hc =>
  Nat.isDigit_of_mem_toDigits (by decide) (by decide) hc

/-- The digits of a positive number do not start with a zero. -/
theorem head?_toDigits_ne {n : Nat} (h : n ≠ 0) : (Nat.toDigits 10 n).head? ≠ some '0' := by
  induction n using Nat.strong_induction_on with
  | _ n ih =>
    by_cases hlt : n < 10
    · rw [Nat.toDigits_of_lt_base hlt]
      interval_cases n <;> simp_all
    · rw [Nat.toDigits_of_base_le (by decide) (by omega),
        List.head?_append_of_ne_nil _ Nat.toDigits_ne_nil]
      exact ih (n / 10) (by omega) (by omega)

/-- A number may be spelled by its digits. -/
theorem spelled_toDigits (negative : Bool) (n : Nat) :
    Spelled ⟨negative, Nat.toDigits 10 n, [], none⟩ where
  whole_digits := digits_toDigits n
  whole_ne_nil := Nat.toDigits_ne_nil
  whole_zero := by
    intro rest hwhole
    by_cases h : n = 0
    · simp_all
    · exact absurd (congrArg List.head? hwhole) (head?_toDigits_ne h)
  fraction_digits := by simp [Digits]
  exponent_digits := by simp

/-- A number that fits a word is its own significand. -/
theorem significand_eq {digits : List Char} {value : Nat}
    (h : Nat.ofDigitChars 10 digits value ≤ maxWord) :
    significand value digits = (Nat.ofDigitChars 10 digits value, []) := by
  induction digits generalizing value with
  | nil => simp [significand]
  | cons c digits ih =>
    rw [Nat.ofDigitChars_cons] at h ⊢
    -- What has been read so far fits, since more digits do not make it smaller.
    have hle : 10 * value + (c.toNat - '0'.toNat) ≤ maxWord := by
      rw [Nat.ofDigitChars_eq_ofDigitChars_zero] at h
      have hpos : 0 < 10 ^ digits.length := by positivity
      nlinarith
    have hvalue : value * 10 + digitValue c = 10 * value + (c.toNat - '0'.toNat) := by
      rw [digitValue, Nat.mul_comm]
    rw [significand, hvalue, if_pos hle, ih h]

/-- A natural number that fits is read off its digits, with nothing left. -/
theorem significand_toDigits {n : Nat} (h : n ≤ maxWord) :
    significand 0 (Nat.toDigits 10 n) = (n, []) := by
  rw [significand_eq (by rwa [Nat.ofDigitChars_ten_toDigits]), Nat.ofDigitChars_ten_toDigits]

/-- **A word is the value of its spelling.** -/
theorem number?_ofNat {n : Nat} (h : n ≤ maxWord) : (ofNat n).number? = .ok (.natural n) := by
  simp [number?, ofNat, significand_toDigits h]

/-- **A signed word is the value of its spelling.** -/
theorem number?_ofInt {n : Int} (hlow : -9223372036854775808 ≤ n)
    (hhigh : n < 9223372036854775808) :
    (ofInt n).number? = .ok (if n < 0 then .negative n.natAbs else .natural n.natAbs) := by
  have hfits : n.natAbs ≤ maxWord := by
    simp only [maxWord, UInt64.size]
    omega
  by_cases hneg : n < 0
  · have hrange : 0 < n.natAbs ∧ n.natAbs ≤ 9223372036854775808 := by omega
    simp [number?, ofInt, significand_toDigits hfits, hneg, hrange]
  · simp [number?, ofInt, significand_toDigits hfits, hneg]

end Numeral

end TownTraffic.Json
