import TownTraffic.Json.Numeral
import TownTraffic.Json.Quoted

/-!
# JSON values

A JSON document as a tree. Numbers keep their spelling and objects the order of their members, so a
tree has one text, which `Value.write` puts in front of a given rest.

* **`Value`** — the tree; **`Value.found`** names it as a finding.
* **`Value.write`** — its text, without blanks; **`Value.text`** the same as a string.
-/

namespace TownTraffic.Json

/-- A JSON document. -/
inductive Value where
  | null
  | boolean (b : Bool)
  | number (n : Numeral)
  | text (s : String)
  | list (items : List Value)
  | object (members : List (String × Value))

namespace Value

/-- There is a value, the one that is nothing. -/
instance : Inhabited Value := ⟨.null⟩

/-! ## Writing -/

mutual

/-- The text of a value in front of `rest`. -/
def write : Value → List Char → List Char
  | .null, rest => 'n' :: 'u' :: 'l' :: 'l' :: rest
  | .boolean true, rest => 't' :: 'r' :: 'u' :: 'e' :: rest
  | .boolean false, rest => 'f' :: 'a' :: 'l' :: 's' :: 'e' :: rest
  | .number n, rest => n.chars ++ rest
  | .text s, rest => Quoted.write s rest
  | .list [], rest => '[' :: ']' :: rest
  | .list (v :: vs), rest => '[' :: v.write (writeItems vs rest)
  | .object [], rest => '{' :: '}' :: rest
  | .object ((k, v) :: ms), rest =>
    '{' :: Quoted.write k (':' :: v.write (writeMembers ms rest))

/-- The further items of a list, and its end. -/
def writeItems : List Value → List Char → List Char
  | [], rest => ']' :: rest
  | v :: vs, rest => ',' :: v.write (writeItems vs rest)

/-- The further members of an object, and its end. -/
def writeMembers : List (String × Value) → List Char → List Char
  | [], rest => '}' :: rest
  | (k, v) :: ms, rest => ',' :: Quoted.write k (':' :: v.write (writeMembers ms rest))

end

/-- The text of a value. -/
def toText (v : Value) : String := .ofList (v.write [])

/-! ## Findings -/

/-- The value of a number; one beyond binary64 counts as infinite. -/
def numberOf (n : Numeral) : Number :=
  match n.number? with
  | .ok value => value
  | .error _ => .real (if n.negative then -1 / 0 else 1 / 0)

/-- A value as a finding. -/
def found : Value → Found
  | .null => .null
  | .boolean b => .boolean b
  | .number n => (numberOf n).found
  | .text s => .text s
  | .list _ => .sequence
  | .object _ => .map

end Value

end TownTraffic.Json
