import TownTraffic.Text.Blank
import TownTraffic.Text.Natural

/-!
# Selections of start spots

A viewer may mark all start spots or only some, given by their numbers and separated by commas.

* **`Selection.selects`** — whether a spot is marked.
* **`Selection.ofText`** — reads a selection.
-/

namespace TownTraffic

/-- Which start spots are marked. -/
inductive Selection where
  | all
  | only (spots : List Nat)
deriving Repr, DecidableEq

/-- A part of a text that is no number of a spot. -/
structure SelectionFault where
  part : String
  reason : Text.NaturalFault
deriving Repr, DecidableEq

/-- The fault in words. -/
def SelectionFault.message (f : SelectionFault) : String :=
  "invalid start position '" ++ f.part ++ "': " ++ f.reason.message

namespace Selection

/-- Whether a spot is marked. -/
def selects : Selection → Nat → Bool
  | all, _ => true
  | only spots, i => spots.contains i

/-- The number in a part of a text. -/
def spotOf (part : List Char) : Except SelectionFault Nat :=
  let part := Text.trim part
  (Text.natural UInt64.size part).mapError fun reason => ⟨.ofList part, reason⟩

/-- The selection in a text, its characters given. -/
def ofChars (s : List Char) : Except SelectionFault Selection :=
  let s := Text.trim s
  if s.map Char.toLower = ['a', 'l', 'l'] then .ok all
  else ((s.splitOn ',').mapM spotOf).map only

/-- The selection in a text. -/
def ofText (text : String) : Except SelectionFault Selection := ofChars text.toList

/-- All spots are selected where all are. -/
@[simp] theorem selects_all (i : Nat) : all.selects i = true := rfl

/-- Where only some spots are selected, those are. -/
@[simp] theorem selects_only (spots : List Nat) (i : Nat) :
    (only spots).selects i = true ↔ i ∈ spots := by simp [selects]

end Selection

end TownTraffic
