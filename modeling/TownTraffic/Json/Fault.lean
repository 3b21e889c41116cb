import TownTraffic.Decimal.Layout
import TownTraffic.Text.Quoted

/-!
# Faults of JSON texts

Reading a JSON text as a value of a given form can fail in two ways: the text is no JSON
(`Blunder`), or it is JSON of another form (`Mismatch`). A blunder is always placed. A mismatch is
noticed by the reader of a form, which knows no places; the container around it places it.

* **`Found`** — what stood where something else was expected.
* **`Cause`** — a blunder or a mismatch, with its wording in **`Cause.message`** and its class in
  **`Cause.kind`**.
* **`Fault`** — a cause with its place, or with the text that was still to be read.
* **`Report`** — a cause with line and column, for the reader of a message.
-/

namespace TownTraffic.Json

/-! ## Causes -/

/-- What stood where something else was expected. -/
inductive Found where
  | null
  | boolean (b : Bool)
  | integer (n : Int)
  | real (x : Float)
  | text (s : String)
  | sequence
  | map
  /-- A variant named without its fields. -/
  | bareVariant
deriving Repr, DecidableEq

/-- The finding in words. -/
def Found.words : Found → String
  | .null => "null"
  | .boolean b => "boolean `" ++ (if b then "true" else "false") ++ "`"
  | .integer n => "integer `" ++ toString n ++ "`"
  | .real x => "floating point `" ++ Decimal.Layout.wide.write64 x ++ "`"
  | .text s => "string " ++ Text.quoted s
  | .sequence => "sequence"
  | .map => "map"
  | .bareVariant => "unit variant"

/-- Why a text is no JSON. -/
inductive Blunder where
  | listUnfinished
  | objectUnfinished
  | textUnfinished
  | valueUnfinished
  | colonMissing
  | listSeparatorMissing
  | objectSeparatorMissing
  | wordBroken
  | valueMissing
  | escapeUnknown
  | numberBroken
  | numberTooLarge
  | surrogateAlone
  | controlCharacter
  | keyMissing
  | commaTrailing
  | charactersTrailing
  | surrogateUnpaired
  | nestedTooDeep
deriving Repr, DecidableEq

/-- Why a JSON value has not the expected form. -/
inductive Mismatch where
  | wrongType (found : Found) (expected : String)
  | wrongValue (found : Found) (expected : String)
  | wrongLength (length : Nat) (expected : String)
  | missingField (name : String)
  | duplicateField (name : String)
  | unknownVariant (name : String) (expected : List String)
deriving Repr, DecidableEq

/-- Why a text cannot be read. -/
inductive Cause where
  | blunder (b : Blunder)
  | mismatch (m : Mismatch)
deriving Repr, DecidableEq

/-- The class of a cause: the text ended too early, is otherwise no JSON, or has another form. -/
inductive Kind where
  | ended
  | malformed
  | unsuited
deriving Repr, DecidableEq

/-- The blunder in words. -/
def Blunder.message : Blunder → String
  | .listUnfinished => "EOF while parsing a list"
  | .objectUnfinished => "EOF while parsing an object"
  | .textUnfinished => "EOF while parsing a string"
  | .valueUnfinished => "EOF while parsing a value"
  | .colonMissing => "expected `:`"
  | .listSeparatorMissing => "expected `,` or `]`"
  | .objectSeparatorMissing => "expected `,` or `\x7d`"
  | .wordBroken => "expected ident"
  | .valueMissing => "expected value"
  | .escapeUnknown => "invalid escape"
  | .numberBroken => "invalid number"
  | .numberTooLarge => "number out of range"
  | .surrogateAlone => "lone leading surrogate in hex escape"
  | .controlCharacter =>
    "control character (\\u0000-\\u001F) found while parsing a string"
  | .keyMissing => "key must be a string"
  | .commaTrailing => "trailing comma"
  | .charactersTrailing => "trailing characters"
  | .surrogateUnpaired => "unexpected end of hex escape"
  | .nestedTooDeep => "recursion limit exceeded"

/-- The names a reader may choose from, in words. -/
def namesInWords : List String → String
  | [] => "there are no variants"
  | [a] => "expected `" ++ a ++ "`"
  | [a, b] => "expected `" ++ a ++ "` or `" ++ b ++ "`"
  | names => "expected one of " ++ ", ".intercalate (names.map fun n => "`" ++ n ++ "`")

/-- The mismatch in words. -/
def Mismatch.message : Mismatch → String
  | .wrongType found expected => "invalid type: " ++ found.words ++ ", expected " ++ expected
  | .wrongValue found expected => "invalid value: " ++ found.words ++ ", expected " ++ expected
  | .wrongLength n expected => "invalid length " ++ toString n ++ ", expected " ++ expected
  | .missingField name => "missing field `" ++ name ++ "`"
  | .duplicateField name => "duplicate field `" ++ name ++ "`"
  | .unknownVariant name expected =>
    "unknown variant `" ++ name ++ "`, " ++ namesInWords expected

/-- The cause in words. -/
def Cause.message : Cause → String
  | .blunder b => b.message
  | .mismatch m => m.message

/-- The class of a cause. -/
def Cause.kind : Cause → Kind
  | .blunder .listUnfinished | .blunder .objectUnfinished | .blunder .textUnfinished
  | .blunder .valueUnfinished => .ended
  | .blunder _ => .malformed
  | .mismatch _ => .unsuited

/-! ## Faults and their places -/

/-- The number of bytes of a text. -/
def byteCount (s : List Char) : Nat := s.foldr (fun c n => c.utf8Size + n) 0

/-- An empty text takes no bytes. -/
@[simp] theorem byteCount_nil : byteCount [] = 0 := rfl

/-- A character in front adds its bytes. -/
@[simp] theorem byteCount_cons (c : Char) (s : List Char) :
    byteCount (c :: s) = c.utf8Size + byteCount s := rfl

/-- A cause, with its place if that is known.

A place is given by the number of bytes from there to the end of the text, so that a reader can
name it from the text it has left. -/
inductive Fault where
  /-- The cause lies `bytesLeft` bytes before the end of the text. -/
  | placed (cause : Cause) (bytesLeft : Nat)
  /-- A form did not match when `rest` was still to be read. -/
  | loose (cause : Mismatch) (rest : List Char)
deriving Repr, DecidableEq

namespace Fault

/-- A blunder noticed in front of `rest`. -/
def before (b : Blunder) (rest : List Char) : Fault := .placed (.blunder b) (byteCount rest)

/-- A blunder noticed by looking at the first byte of `rest`, which is part of the blame. -/
def upon (b : Blunder) (rest : List Char) : Fault := .placed (.blunder b) (byteCount rest - 1)

/-- Places a fault that is not placed yet in front of what is left. -/
def settle : Fault → Fault
  | .loose m rest => .placed (.mismatch m) (byteCount rest)
  | .placed c left => .placed c left

/-- The cause alone. -/
def cause : Fault → Cause
  | .placed c _ => c
  | .loose m _ => .mismatch m

end Fault

/-! ## Reports -/

/-- A cause with its line and column, if it has a place. -/
structure Report where
  cause : Cause
  place : Option (Nat × Nat)
deriving Repr, DecidableEq

/-- Line and column after the first `n` bytes of a text: lines count from one, columns are the bytes
since the last line break. -/
def placeAfter (text : ByteArray) (n : Nat) : Nat × Nat :=
  (text.toList.take n).foldl
    (fun (line, column) (b : UInt8) => if b = 10 then (line + 1, 0) else (line, column + 1)) (1, 0)

/-- The report of a fault in a text. -/
def Fault.report (text : String) : Fault → Report
  | .placed cause left =>
    ⟨cause, some (placeAfter text.toUTF8 (text.utf8ByteSize - left))⟩
  | .loose m _ => ⟨.mismatch m, none⟩

/-- The report in words. -/
def Report.message (r : Report) : String :=
  match r.place with
  | some (line, column) =>
    r.cause.message ++ " at line " ++ toString line ++ " column " ++ toString column
  | none => r.cause.message

end TownTraffic.Json
