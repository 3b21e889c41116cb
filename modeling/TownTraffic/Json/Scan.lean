import TownTraffic.Json.Value

/-!
# Reading JSON off the front of a text

A reader takes a text and gives a value and the text that is left, or a fault. This module holds
what all readers share: blanks, words, the steps between the members of a container, and the end of
a container, where a mismatch inside it gets its place.

* **`Reader`** — the type of readers.
* **`skipBlank`**, **`readWord`**, **`readNumber`** — tokens.
* **`nextItem`**, **`nextKey`**, **`readColon`** — the way from one member to the next.
* **`closeList`**, **`closeObject`** — the end of a container.
* **`mismatched`** — the fault of a value that should have been something else.
* **`Value.read`** — reads any value.
-/

namespace TownTraffic.Json

/-- Takes a value off the front of a text. -/
abbrev Reader (α : Type) := List Char → Except Fault (α × List Char)

/-- How many containers may lie inside one another. -/
def maxDepth : Nat := 127

/-! ## Tokens -/

/-- Whether a character may stand between tokens. -/
def isGap (c : Char) : Bool := c = ' ' || c = '\n' || c = '\t' || c = '\r'

/-- The text without the blanks in front of it. -/
def skipBlank (s : List Char) : List Char := s.dropWhile isGap

/-- There are no gaps in front of nothing. -/
@[simp] theorem skipBlank_nil : skipBlank [] = [] := rfl

/-- What is not a gap stays in front. -/
theorem skipBlank_cons_of_not_gap {c : Char} (h : isGap c = false) (s : List Char) :
    skipBlank (c :: s) = c :: s := by simp [skipBlank, List.dropWhile, h]

/-- Goes to the start of a value. -/
def startValue (s : List Char) : Except Fault (List Char) :=
  match skipBlank s with
  | [] => .error (.upon .valueUnfinished [])
  | s => .ok s

/-- Takes the rest of a word whose first letter has been seen. -/
def readWord : (word : List Char) → List Char → Except Fault (List Char)
  | [], s => .ok s
  | _ :: _, [] => .error (.before .valueUnfinished [])
  | w :: word, c :: s => if c = w then readWord word s else .error (.upon .wordBroken (c :: s))

/-- Takes a number, which must lie within binary64. -/
def readNumber (s : List Char) : Except Fault ((Numeral × Number) × List Char) := do
  let (numeral, rest) ← Numeral.read .valueUnfinished s
  match numeral.number? with
  | .ok number => .ok ((numeral, number), rest)
  | .error unused => .error (.placed (.blunder .numberTooLarge) (byteCount rest + unused))

/-- Whether a number starts with this character. -/
def startsNumber (c : Char) : Bool := c = '-' || c.isDigit

/-! ## Between the members of a container -/

/-- Goes to the next item of a list; `false` at its end. -/
def nextItem (first : Bool) (s : List Char) : Except Fault (Bool × List Char) :=
  match skipBlank s with
  | [] => .error (.upon .listUnfinished [])
  | ']' :: rest => .ok (false, ']' :: rest)
  | c :: rest =>
    if first then .ok (true, c :: rest)
    else if c = ',' then
      match skipBlank rest with
      | [] => .error (.upon .valueUnfinished [])
      | ']' :: rest => .error (.upon .commaTrailing (']' :: rest))
      | s => .ok (true, s)
    else .error (.upon .listSeparatorMissing (c :: rest))

/-- Takes the next key of an object; none at its end. -/
def nextKey (first : Bool) (s : List Char) : Except Fault (Option String × List Char) :=
  match skipBlank s with
  | [] => .error (.upon .objectUnfinished [])
  | '}' :: rest => .ok (none, '}' :: rest)
  | c :: rest =>
    if first then
      if c = '"' then (Quoted.read rest).map fun (key, rest) => (some key, rest)
      else .error (.upon .keyMissing (c :: rest))
    else if c = ',' then
      match skipBlank rest with
      | [] => .error (.upon .valueUnfinished [])
      | '"' :: rest => (Quoted.read rest).map fun (key, rest) => (some key, rest)
      | '}' :: rest => .error (.upon .commaTrailing ('}' :: rest))
      | s => .error (.upon .keyMissing s)
    else .error (.upon .objectSeparatorMissing (c :: rest))

/-- Takes the colon after a key. -/
def readColon (s : List Char) : Except Fault (List Char) :=
  match skipBlank s with
  | [] => .error (.upon .objectUnfinished [])
  | ':' :: rest => .ok rest
  | s => .error (.upon .colonMissing s)

/-! ## The end of a container -/

/-- Takes the end of a list. -/
def endList (s : List Char) : Except Fault (List Char) :=
  match skipBlank s with
  | [] => .error (.upon .listUnfinished [])
  | ']' :: rest => .ok rest
  | ',' :: rest =>
    match skipBlank rest with
    | ']' :: rest => .error (.upon .commaTrailing (']' :: rest))
    | s => .error (.upon .charactersTrailing s)
  | s => .error (.upon .charactersTrailing s)

/-- How far the look for the end of a list goes, whether it is there or not. -/
def afterList (s : List Char) : List Char :=
  match skipBlank s with
  | ']' :: rest => rest
  | ',' :: rest => skipBlank rest
  | s => s

/-- Takes the end of an object. -/
def endObject (s : List Char) : Except Fault (List Char) :=
  match skipBlank s with
  | [] => .error (.upon .objectUnfinished [])
  | '}' :: rest => .ok rest
  | ',' :: rest => .error (.upon .commaTrailing (',' :: rest))
  | s => .error (.upon .charactersTrailing s)

/-- How far the look for the end of an object goes, whether it is there or not. -/
def afterObject (s : List Char) : List Char :=
  match skipBlank s with
  | '}' :: rest => rest
  | s => s

/-- Closes a container: its end must follow, and a mismatch inside it that has no place yet is
placed where the look for the end arrives. -/
def close {α : Type} (finish : List Char → Except Fault (List Char)) (after : List Char → List Char)
    (inner : Except Fault (α × List Char)) : Except Fault (α × List Char) :=
  match inner with
  | .ok (x, rest) => (finish rest).map fun rest => (x, rest)
  | .error (.loose m rest) => .error (.placed (.mismatch m) (byteCount (after rest)))
  | .error f => .error f

/-- Closes a list. -/
def closeList {α : Type} : Except Fault (α × List Char) → Except Fault (α × List Char) :=
  close endList afterList

/-- Closes an object. -/
def closeObject {α : Type} : Except Fault (α × List Char) → Except Fault (α × List Char) :=
  close endObject afterObject

/-- Opens a container, `opening` being the text from its bracket on, if it may lie so deep. -/
def descend {α : Type} (depth : Nat) (opening : List Char) (inner : Nat → Except Fault α) :
    Except Fault α :=
  match depth with
  | 0 => .error (.upon .nestedTooDeep opening)
  | depth + 1 => inner depth

/-! ## Mismatches -/

/-- The fault of a value in front of a text, blanks skipped, where something else was expected. A
scalar is read to its end first; a container is blamed as it opens. -/
def mismatched (expected : String) (s : List Char) : Fault :=
  let blame (found : Found) (rest : List Char) : Fault :=
    .placed (.mismatch (.wrongType found expected)) (byteCount rest)
  match s with
  | 'n' :: rest =>
    match readWord ['u', 'l', 'l'] rest with
    | .ok rest => blame .null rest
    | .error f => f
  | 't' :: rest =>
    match readWord ['r', 'u', 'e'] rest with
    | .ok rest => blame (.boolean true) rest
    | .error f => f
  | 'f' :: rest =>
    match readWord ['a', 'l', 's', 'e'] rest with
    | .ok rest => blame (.boolean false) rest
    | .error f => f
  | '"' :: rest =>
    match Quoted.read rest with
    | .ok (t, rest) => blame (.text t) rest
    | .error f => f
  | '[' :: _ => blame .sequence s
  | '{' :: _ => blame .map s
  | c :: _ =>
    if startsNumber c then
      match readNumber s with
      | .ok ((_, number), rest) => blame number.found rest
      | .error f => f
    else .upon .valueMissing s
  | [] => .upon .valueUnfinished []

/-- Takes a name: a string where `expected` is wanted. -/
def readName (expected : String) (s : List Char) : Except Fault (String × List Char) := do
  match ← startValue s with
  | '"' :: rest => Quoted.read rest
  | s => .error (mismatched expected s)

/-! ## Any value -/

/-- Reads the items of a list up to its end. The length of the text bounds their number. -/
def readItems {α : Type} (item : Reader α) : (bound : Nat) → (first : Bool) → Reader (List α)
  | 0, _, s => .error (.upon .listUnfinished s)
  | bound + 1, first, s => do
    match ← nextItem first s with
    | (false, s) => .ok ([], s)
    | (true, s) =>
      let (x, s) ← item s
      let (xs, s) ← readItems item bound false s
      .ok (x :: xs, s)

/-- Reads the members of an object up to its end. The length of the text bounds their number. -/
def readMembers {α : Type} (member : Reader α) :
    (bound : Nat) → (first : Bool) → Reader (List (String × α))
  | 0, _, s => .error (.upon .objectUnfinished s)
  | bound + 1, first, s => do
    match ← nextKey first s with
    | (none, s) => .ok ([], s)
    | (some key, s) =>
      let (x, s) ← member (← readColon s)
      let (xs, s) ← readMembers member bound false s
      .ok ((key, x) :: xs, s)

/-- Reads any value, with at most `depth` containers inside one another. -/
def Value.read : (depth : Nat) → Reader Value
  | depth, s => do
    match ← startValue s with
    | 'n' :: rest => (readWord ['u', 'l', 'l'] rest).map fun rest => (.null, rest)
    | 't' :: rest => (readWord ['r', 'u', 'e'] rest).map fun rest => (.boolean true, rest)
    | 'f' :: rest => (readWord ['a', 'l', 's', 'e'] rest).map fun rest => (.boolean false, rest)
    | '"' :: rest => (Quoted.read rest).map fun (t, rest) => (.text t, rest)
    | '[' :: rest =>
      match depth with
      | 0 => .error (.upon .nestedTooDeep ('[' :: rest))
      | depth + 1 =>
        (closeList (readItems (Value.read depth) (rest.length + 1) true rest)).map
          fun (items, rest) => (.list items, rest)
    | '{' :: rest =>
      match depth with
      | 0 => .error (.upon .nestedTooDeep ('{' :: rest))
      | depth + 1 =>
        (closeObject (readMembers (Value.read depth) (rest.length + 1) true rest)).map
          fun (members, rest) => (.object members, rest)
    | c :: rest =>
      if startsNumber c then
        (readNumber (c :: rest)).map fun ((numeral, _), rest) => (.number numeral, rest)
      else .error (.upon .valueMissing (c :: rest))
    | [] => .error (.upon .valueUnfinished [])

end TownTraffic.Json
