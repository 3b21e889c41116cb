import TownTraffic.Json.Scan

/-!
# Passing over a value

A member that no form knows must still be JSON, but nothing of it is kept: its numbers may be of any
size, its escapes need not name characters, and it may nest to any depth. The open containers are
held in a list.

* **`skipValue`** — passes over one value.
-/

namespace TownTraffic.Json

/-- An open container. -/
inductive Bracket where
  | list
  | object
deriving Repr, DecidableEq

namespace Skip

/-- Where the pass stands: before a value, or inside the innermost container, where a comma may or
may not follow. -/
inductive Stand where
  | value
  | inside (commaAllowed : Bool)
deriving Repr, DecidableEq

/-- Takes the key and the colon in front of a member of an object; nothing in front of a list
item. -/
def readLabel (b : Bracket) (s : List Char) : Except Fault (List Char) :=
  match b with
  | .list => .ok s
  | .object =>
    match skipBlank s with
    | [] => .error (.upon .objectUnfinished [])
    | '"' :: rest => do readColon (← Quoted.skip rest)
    | s => .error (.upon .keyMissing s)

/-- The blunder of a text that ends inside a container. -/
def unfinished : Bracket → Blunder
  | .list => .listUnfinished
  | .object => .objectUnfinished

/-- The blunder of a member that is followed by neither a comma nor the end. -/
def separatorMissing : Bracket → Blunder
  | .list => .listSeparatorMissing
  | .object => .objectSeparatorMissing

/-- The character that ends a container. -/
def closing : Bracket → Char
  | .list => ']'
  | .object => '}'

/-- Runs the pass for at most `steps` steps, each of which takes a character or is followed by one
that does. -/
def run : (steps : Nat) → Stand → List Bracket → List Char → Except Fault (List Char)
  | 0, _, _, s => .error (.upon .valueUnfinished s)
  | _ + 1, .inside _, [], s => .ok s
  | steps + 1, .inside commaAllowed, b :: outer, s =>
    match skipBlank s with
    | [] => .error (.upon (unfinished b) [])
    | c :: rest =>
      if c = closing b then run steps (.inside true) outer rest
      else if commaAllowed then
        if c = ',' then do run steps .value (b :: outer) (← readLabel b rest)
        else .error (.upon (separatorMissing b) (c :: rest))
      else do run steps .value (b :: outer) (← readLabel b (c :: rest))
  | steps + 1, .value, open_, s => do
    match ← startValue s with
    | 'n' :: rest => run steps (.inside true) open_ (← readWord ['u', 'l', 'l'] rest)
    | 't' :: rest => run steps (.inside true) open_ (← readWord ['r', 'u', 'e'] rest)
    | 'f' :: rest => run steps (.inside true) open_ (← readWord ['a', 'l', 's', 'e'] rest)
    | '"' :: rest => run steps (.inside true) open_ (← Quoted.skip rest)
    | '[' :: rest => run steps (.inside false) (.list :: open_) rest
    | '{' :: rest => run steps (.inside false) (.object :: open_) rest
    | c :: rest =>
      if startsNumber c then
        run steps (.inside true) open_ (← Numeral.read .numberBroken (c :: rest)).2
      else .error (.upon .valueMissing (c :: rest))
    | [] => .error (.upon .valueUnfinished [])

end Skip

/-- Passes over one value. -/
def skipValue (s : List Char) : Except Fault (List Char) :=
  Skip.run (2 * s.length + 2) .value [] s

end TownTraffic.Json
