import TownTraffic.Json.Fault

/-!
# JSON numbers

A `Numeral` is a number as it is spelled. Its value (`Numeral.number?`) is a whole number if it is
spelled as one and fits a 64-bit word, and a binary64 number otherwise.

* **`Numeral.chars`** — the spelling; **`Numeral.read`** reads one off the front of a text.
* **`Numeral.ofNat`**, **`Numeral.ofInt`**, **`Numeral.ofBinary32`** — spellings of values.
* **`Numeral.number?`** — the value, unless its magnitude is beyond binary64.
-/

namespace TownTraffic.Json

/-- How the sign of an exponent is spelled. -/
inductive ExponentSign where
  | bare
  | plus
  | minus
deriving Repr, DecidableEq

/-- A number as it is spelled. -/
structure Numeral where
  negative : Bool
  /-- The digits before the point. -/
  whole : List Char
  /-- The digits after the point; none if there is no point. -/
  fraction : List Char
  exponent : Option (ExponentSign × List Char)
deriving Repr, DecidableEq

/-- The value of a number. -/
inductive Number where
  /-- A whole number below `2 ^ 64`. -/
  | natural (n : Nat)
  /-- A negative whole number from `-2 ^ 63`, given without its sign. -/
  | negative (n : Nat)
  | real (x : Float)
deriving Repr, DecidableEq

/-- The number as a finding. -/
def Number.found : Number → Found
  | .natural n => .integer n
  | .negative n => .integer (-n)
  | .real x => .real x

namespace Numeral

/-! ## Spelling -/

/-- The characters of a numeral. -/
def chars (n : Numeral) : List Char :=
  (if n.negative then ['-'] else []) ++ n.whole
    ++ (if n.fraction.isEmpty then [] else '.' :: n.fraction)
    ++ match n.exponent with
      | none => []
      | some (.bare, digits) => 'e' :: digits
      | some (.plus, digits) => 'e' :: '+' :: digits
      | some (.minus, digits) => 'e' :: '-' :: digits

/-- The spelling of a natural number. -/
def ofNat (n : Nat) : Numeral := ⟨false, Nat.toDigits 10 n, [], none⟩

/-- The spelling of an integer. -/
def ofInt (n : Int) : Numeral := ⟨n < 0, Nat.toDigits 10 n.natAbs, [], none⟩

/-- The spelling of a finite binary32 number: the shortest one that reads back. -/
def ofBinary32 (x : Float32) : Option Numeral :=
  (Decimal.ofBinary32 x).map fun (negative, d) =>
    let spelling := Decimal.Layout.wire.spell d
    ⟨negative, spelling.whole, spelling.fraction,
      spelling.exponent.map fun e =>
        (if e < 0 then .minus else .plus, Nat.toDigits 10 e.natAbs)⟩

/-! ## Reading a spelling -/

/-- Splits the digits off the front of a text. -/
def takeDigits (s : List Char) : List Char × List Char :=
  (s.takeWhile Char.isDigit, s.dropWhile Char.isDigit)

/-- Reads the exponent, if one follows. -/
def readExponent (ended : Blunder) (s : List Char) :
    Except Fault (Option (ExponentSign × List Char) × List Char) :=
  match s with
  | c :: rest =>
    if c = 'e' ∨ c = 'E' then
      let (sign, rest) : ExponentSign × List Char :=
        match rest with
        | '+' :: rest => (.plus, rest)
        | '-' :: rest => (.minus, rest)
        | _ => (.bare, rest)
      match takeDigits rest with
      | ([], []) => .error (.before ended [])
      | ([], other) => .error (.upon .numberBroken other)
      | (digits, rest) => .ok (some (sign, digits), rest)
    else .ok (none, s)
  | [] => .ok (none, [])

/-- Reads the fraction, if a point follows. -/
def readFraction (ended : Blunder) (s : List Char) : Except Fault (List Char × List Char) :=
  match s with
  | '.' :: rest =>
    match takeDigits rest with
    | ([], []) => .error (.upon ended [])
    | ([], other) => .error (.upon .numberBroken other)
    | digitsAndRest => .ok digitsAndRest
  | _ => .ok ([], s)

/-- Reads the digits before the point; only a lone zero may start with zero. -/
def readWhole (ended : Blunder) (s : List Char) : Except Fault (List Char × List Char) :=
  match s with
  | [] => .error (.before ended [])
  | '0' :: rest =>
    match rest with
    | c :: _ => if c.isDigit then .error (.upon .numberBroken rest) else .ok (['0'], rest)
    | [] => .ok (['0'], [])
  | c :: _ => if c.isDigit then .ok (takeDigits s) else .error (.upon .numberBroken s)

/-- Reads a numeral off the front of a text that starts with a sign or a digit. What is blamed when
the text ends inside the number is `ended`. -/
def read (ended : Blunder) (s : List Char) : Except Fault (Numeral × List Char) := do
  let (negative, s) : Bool × List Char :=
    match s with
    | '-' :: rest => (true, rest)
    | _ => (false, s)
  let (whole, s) ← readWhole ended s
  let (fraction, s) ← readFraction ended s
  let (exponent, s) ← readExponent ended s
  return (⟨negative, whole, fraction, exponent⟩, s)

/-! ## Values -/

/-- The greatest 64-bit word. -/
def maxWord : Nat := UInt64.size - 1

/-- The greatest exponent that is told from infinity. -/
def maxExponent : Nat := 2147483647

/-- The value of a digit. -/
def digitValue (c : Char) : Nat := c.toNat - '0'.toNat

/-- Appends digits to a significand for as long as it stays within a word, and gives the digits that
did not fit. -/
def significand : Nat → List Char → Nat × List Char
  | value, [] => (value, [])
  | value, c :: rest =>
    if value * 10 + digitValue c ≤ maxWord then significand (value * 10 + digitValue c) rest
    else (value, c :: rest)

/-- The value of exponent digits, or the digits left over once it is beyond `maxExponent`. -/
def exponentValue : Nat → List Char → Except (List Char) Nat
  | value, [] => .ok value
  | value, c :: rest =>
    if value * 10 + digitValue c ≤ maxExponent then exponentValue (value * 10 + digitValue c) rest
    else .error rest

/-- A power of ten as a binary64 number. -/
def tenTo (n : Nat) : Float := Float.ofScientific 1 false n

/-- `x / 10 ^ n`, in steps of at most 308 powers. -/
def dividePowers (x : Float) (n : Nat) : Float :=
  if n ≤ 308 then x / tenTo n
  else if x == 0 then x
  else dividePowers (x / tenTo 308) (n - 308)
termination_by n

/-- `significand · 10 ^ exponent` as a binary64 number, unless that is infinite. -/
def scaled? (significand : Nat) (exponent : Int) : Option Float :=
  let x := significand.toUInt64.toFloat
  if exponent < 0 then some (dividePowers x exponent.natAbs)
  else if exponent ≤ 308 then
    let y := x * tenTo exponent.natAbs
    if y.isInf then none else some y
  else if x == 0 then some x
  else none

/-- The value of a numeral. A magnitude beyond binary64 is refused with the number of characters
of the numeral that were not needed to see it. -/
def number? (n : Numeral) : Except Nat Number :=
  let (value, extra) := significand 0 n.whole
  if n.fraction.isEmpty && n.exponent.isNone && extra.isEmpty then
    if !n.negative then .ok (.natural value)
    else if 0 < value ∧ value ≤ 9223372036854775808 then .ok (.negative value)
    else .ok (.real (-value.toUInt64.toFloat))
  else
    let signed (x : Float) : Number := .real (if n.negative then -x else x)
    let (value, unused) := significand value n.fraction
    let shift : Int := (extra.length : Int) - (n.fraction.length - unused.length : Nat)
    let finish (exponent : Int) : Except Nat Number :=
      match scaled? value exponent with
      | some x => .ok (signed x)
      | none => .error 0
    match n.exponent with
    | none => finish shift
    | some (sign, digits) =>
      match exponentValue 0 digits with
      | .ok e => finish (if sign = .minus then shift - e else shift + e)
      | .error rest => if value = 0 ∨ sign = .minus then .ok (signed 0) else .error rest.length

end Numeral

end TownTraffic.Json
