import TownTraffic.Decimal.Shortest

/-!
# How decimals are laid out

One decimal has many spellings. A `Layout` fixes the choices: which magnitudes are written
positionally, whether a whole number keeps a fraction, how an exponent is written. The formats of
the program are values of it.

* **`Layout.wire`** — numbers in messages and map descriptors.
* **`Layout.wide`** — binary64 numbers quoted in a message about them.
* **`Layout.plain`** — numbers in sentences.
* **`Layout.detailed`** — numbers in the detailed notation of values.
* **`Layout.write`** — the spelling of a number; `Layout.spell` that of its digits.
-/

namespace TownTraffic.Decimal

/-- The choices that a number format makes. -/
structure Layout where
  /-- Whether numbers of this order of magnitude are written without an exponent. -/
  positional : Int → Bool
  /-- Whether a whole number written positionally ends in `.0`. -/
  keepsPoint : Bool
  /-- Whether a positive exponent is written with a plus sign. -/
  signsExponent : Bool

namespace Layout

/-- In messages, numbers from a millionth to below ten million million are written positionally,
and always with a fraction. -/
def wire : Layout := ⟨fun e => -6 ≤ e && e ≤ 12, true, true⟩

/-- Binary64 numbers are written positionally from a hundred-thousandth to below `10 ^ 16`. -/
def wide : Layout := ⟨fun e => -5 ≤ e && e ≤ 15, true, true⟩

/-- In sentences no exponent is ever used, and a whole number has no fraction. -/
def plain : Layout := ⟨fun _ => true, false, false⟩

/-- In detailed notation numbers from a ten-thousandth to below `10 ^ 16` are written
positionally. -/
def detailed : Layout := ⟨fun e => -4 ≤ e && e ≤ 15, true, false⟩

/-- The parts of a spelled number. -/
structure Spelling where
  whole : List Char
  fraction : List Char
  exponent : Option Int
deriving Repr, DecidableEq

/-- The digits of a decimal laid out. The point stands after the first digit if an exponent is
written, and where the power of ten puts it otherwise. -/
def spell (layout : Layout) (d : Scaled) : Spelling :=
  let digits := Nat.toDigits 10 d.digits
  let magnitude : Int := (digits.length : Int) - 1 + d.power
  if layout.positional magnitude then
    let fill := if layout.keepsPoint then ['0'] else []
    if 0 ≤ d.power then
      ⟨digits ++ List.replicate d.power.toNat '0', fill, none⟩
    else
      let places := (-d.power).toNat
      if places < digits.length then
        ⟨digits.take (digits.length - places), digits.drop (digits.length - places), none⟩
      else
        ⟨['0'], List.replicate (places - digits.length) '0' ++ digits, none⟩
  else
    ⟨digits.take 1, digits.drop 1, some magnitude⟩

/-- The characters of a spelling. -/
def Spelling.chars (signsExponent : Bool) (s : Spelling) : List Char :=
  s.whole
    ++ (if s.fraction.isEmpty then [] else '.' :: s.fraction)
    ++ match s.exponent with
      | none => []
      | some e =>
        'e' :: (if e < 0 then ['-'] else if signsExponent then ['+'] else [])
          ++ Nat.toDigits 10 e.natAbs

/-- A finite number given by sign and decimal. -/
def writeDecimal (layout : Layout) (negative : Bool) (d : Scaled) : String :=
  .ofList ((if negative then ['-'] else []) ++ (layout.spell d).chars layout.signsExponent)

/-- The text of a value that is no finite number. -/
def writeOther : Binary.Parts → String
  | .infinite true => "-inf"
  | .infinite false => "inf"
  | _ => "NaN"

/-- A binary32 number. -/
def write (layout : Layout) (x : Float32) : String :=
  match ofBinary32 x with
  | some (negative, d) => layout.writeDecimal negative d
  | none => writeOther (.ofBinary32 x)

/-- A binary64 number. -/
def write64 (layout : Layout) (x : Float) : String :=
  match ofBinary64 x with
  | some (negative, d) => layout.writeDecimal negative d
  | none => writeOther (.ofBinary64 x)

end Layout

end TownTraffic.Decimal
