/-!
# Natural numbers in text

A natural number is written as an optional plus sign and one or more decimal digits, and must be
below a bound. The digits are read from the left, so the first fault from the left is reported.

* **`natural`** — reads a number; **`NaturalFault`** — why a text is not one.
* **`digitsOf`** — the decimal digits of a number.
-/

namespace TownTraffic.Text

/-- Why a text is not a number below the bound. -/
inductive NaturalFault where
  /-- There is nothing to read. -/
  | empty
  /-- A character is not a digit. -/
  | strayCharacter
  /-- The bound is reached. -/
  | tooLarge
deriving Repr, DecidableEq

/-- The fault in words. -/
def NaturalFault.message : NaturalFault → String
  | .empty => "cannot parse integer from empty string"
  | .strayCharacter => "invalid digit found in string"
  | .tooLarge => "number too large to fit in target type"

/-- The value of a decimal digit. -/
def digit? (c : Char) : Option Nat :=
  if '0' ≤ c ∧ c ≤ '9' then some (c.toNat - '0'.toNat) else none

/-- Continues a number below `bound` with more digits. -/
def naturalFrom (bound : Nat) : (value : Nat) → List Char → Except NaturalFault Nat
  | value, [] => .ok value
  | value, c :: rest =>
    match digit? c with
    | none => .error .strayCharacter
    | some d =>
      if value * 10 + d < bound then naturalFrom bound (value * 10 + d) rest
      else .error .tooLarge

/-- Reads a number below `bound`. -/
def natural (bound : Nat) : List Char → Except NaturalFault Nat
  | [] => .error .empty
  | ['+'] => .error .strayCharacter
  | '+' :: rest => naturalFrom bound 0 rest
  | s => naturalFrom bound 0 s

/-- The decimal digits of a number. -/
def digitsOf (n : Nat) : List Char := Nat.toDigits 10 n

end TownTraffic.Text
