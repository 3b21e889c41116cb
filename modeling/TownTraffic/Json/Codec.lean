import TownTraffic.Json.Scan
import TownTraffic.Binary.Instance

/-!
# Forms of JSON values

A `Codec` is the form in which values of a type travel: how they are written as JSON, and how they
are read back, both from a text and from a tree that has been read before. A value is read from the
text itself where possible, so that a fault has a place; a tree is needed where the form is only
known after the value has been passed, and its mismatches have none.

* **`Codec`** — the form of a type; **`Wire`** the class of types with one.
* **`Codec.toText`**, **`Codec.ofText`** — the text of a value, and the value of a text.
* **`Codec.numeric`** and its uses — numbers; **`Codec.boolean`**, **`Codec.string`** — scalars.
* **`Codec.optional`**, **`Codec.list`** — an optional value, a list.
-/

namespace TownTraffic.Json

/-- The form in which values of a type travel. -/
structure Codec (α : Type) where
  /-- The value as JSON. -/
  encode : α → Value
  /-- The value of a tree. -/
  decode : Value → Except Mismatch α
  /-- The value in front of a text, with at most `depth` containers inside one another. -/
  read : (depth : Nat) → Reader α

/-- Types whose values travel. -/
class Wire (α : Type) where
  codec : Codec α

namespace Codec

variable {α : Type}

/-- The text of a value. -/
def toText (c : Codec α) (x : α) : String := (c.encode x).toText

/-- Takes the end of a text: nothing but blanks may follow. -/
def atEnd (s : List Char) : Except Fault Unit :=
  match skipBlank s with
  | [] => .ok ()
  | s => .error (.upon .charactersTrailing s)

/-- The value of a whole text, given as characters. -/
def readAll (c : Codec α) (s : List Char) : Except Fault α := do
  let (x, rest) ← c.read maxDepth s
  atEnd rest
  return x

/-- The value of a text. -/
def ofText (c : Codec α) (text : String) : Except Report α :=
  (c.readAll text.toList).mapError (Fault.report text)

/-! ## Numbers -/

/-- A number, of which `accept` makes a value. -/
def numeric (expected : String) (encode : α → Value) (accept : Number → Except Mismatch α) :
    Codec α where
  encode := encode
  decode
    | .number n => accept (Value.numberOf n)
    | v => .error (.wrongType v.found expected)
  read _ s := do
    let s ← startValue s
    match s with
    | c :: _ =>
      if startsNumber c then
        let ((_, n), rest) ← readNumber s
        match accept n with
        | .ok x => .ok (x, rest)
        | .error m => .error (.placed (.mismatch m) (byteCount rest))
      else .error (mismatched expected s)
    | [] => .error (mismatched expected s)

/-- A natural number below a bound; numbers of other kinds are refused. -/
def acceptNatural (expected : String) (bound : Nat) : Number → Except Mismatch Nat
  | .natural n => if n < bound then .ok n else .error (.wrongValue (.integer n) expected)
  | .negative n => .error (.wrongValue (.integer (-n)) expected)
  | .real x => .error (.wrongType (.real x) expected)

/-- A 32-bit word. -/
def word32 (expected : String) : Codec UInt32 :=
  numeric expected (fun n => .number (.ofNat n.toNat)) fun n =>
    (acceptNatural expected UInt32.size n).map UInt32.ofNat

/-- A 64-bit word. -/
def word64 (expected : String) : Codec UInt64 :=
  numeric expected (fun n => .number (.ofNat n.toNat)) fun n =>
    (acceptNatural expected UInt64.size n).map UInt64.ofNat

/-- A signed 64-bit integer. -/
def integer64 (expected : String) : Codec Int64 :=
  numeric expected (fun n => .number (.ofInt n.toInt)) fun
    | .natural n =>
      if n < 9223372036854775808 then .ok (Int64.ofInt n)
      else .error (.wrongValue (.integer n) expected)
    | .negative n => .ok (Int64.ofInt (-n))
    | .real x => .error (.wrongType (.real x) expected)

/-- The binary32 number nearest to a number. -/
def nearest : Number → Float32
  | .natural n => Scalar.ofNat n
  | .negative n => -Scalar.ofNat n
  | .real x => Binary.narrow x

/-- A binary32 number. Every number is accepted and rounded; one that is not finite is written as
null and so cannot be read back. -/
def real32 (expected : String) : Codec Float32 :=
  numeric expected
    (fun x => match Numeral.ofBinary32 x with
      | some n => .number n
      | none => .null)
    fun n => .ok (nearest n)

/-- A binary32 number is written as a number. -/
instance : Wire Float32 := ⟨real32 "f32"⟩

/-- A natural number below two to the 32nd power is written as a number. -/
instance : Wire UInt32 := ⟨word32 "u32"⟩

/-- A natural number below two to the 64th power is written as a number. -/
instance : Wire UInt64 := ⟨word64 "u64"⟩

/-- A signed number of 64 bits is written as a number. -/
instance : Wire Int64 := ⟨integer64 "i64"⟩

/-! ## Other scalars -/

/-- A truth value. -/
def boolean : Codec Bool where
  encode := .boolean
  decode
    | .boolean b => .ok b
    | v => .error (.wrongType v.found "a boolean")
  read _ s := do
    match ← startValue s with
    | 't' :: rest => (readWord ['r', 'u', 'e'] rest).map fun rest => (true, rest)
    | 'f' :: rest => (readWord ['a', 'l', 's', 'e'] rest).map fun rest => (false, rest)
    | s => .error (mismatched "a boolean" s)

/-- A text. -/
def string (expected : String) : Codec String where
  encode := .text
  decode
    | .text s => .ok s
    | v => .error (.wrongType v.found expected)
  read _ s := readName expected s

/-- Null, and nothing else. -/
def nothing : Codec Unit where
  encode _ := .null
  decode
    | .null => .ok ()
    | .object [] => .ok ()
    | v => .error (.wrongType v.found "unit")
  read _ s := do
    match ← startValue s with
    | 'n' :: rest => (readWord ['u', 'l', 'l'] rest).map fun rest => ((), rest)
    | s => .error (mismatched "unit" s)

/-- A truth value is one of two words. -/
instance : Wire Bool := ⟨boolean⟩

/-- A text is written in quotes. -/
instance : Wire String := ⟨string "a string"⟩

/-! ## Optional values and lists -/

/-- A value, or null for none. -/
def optional (c : Codec α) : Codec (Option α) where
  encode
    | some x => c.encode x
    | none => .null
  decode
    | .null => .ok none
    | v => (c.decode v).map some
  read depth s :=
    match skipBlank s with
    | 'n' :: rest => (readWord ['u', 'l', 'l'] rest).map fun rest => (none, rest)
    | s => (c.read depth s).map fun (x, rest) => (some x, rest)

/-- A list of values. -/
def list (c : Codec α) : Codec (List α) where
  encode xs := .list (xs.map c.encode)
  decode
    | .list vs => vs.mapM c.decode
    | v => .error (.wrongType v.found "a sequence")
  read depth s := do
    match ← startValue s with
    | '[' :: rest =>
      descend depth ('[' :: rest) fun depth =>
        closeList (readItems (c.read depth) (rest.length + 1) true rest)
    | s => .error (mismatched "a sequence" s)

/-- What need not be there is written as nothing if it is not. -/
instance [Wire α] : Wire (Option α) := ⟨optional Wire.codec⟩

/-- A list is written item by item. -/
instance [Wire α] : Wire (List α) := ⟨list Wire.codec⟩

end Codec

end TownTraffic.Json
