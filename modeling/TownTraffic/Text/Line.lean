import TownTraffic.Text.Blank
import TownTraffic.Text.Utf8

/-!
# Lines of a byte stream

A line ends with a line feed, which belongs to it. The last line of a stream may lack its end; it
is a line nevertheless, unless it is empty.

* **`Line.cut`** — the first line of a stream, and what follows it.
* **`Line.split`** — all lines of a stream; **`Line.flatten_split`**: nothing is lost.
* **`Line.text`** — the text on a line, without the blanks at its ends.
-/

namespace TownTraffic.Text.Line

/-- The byte that ends a line. -/
def feed : UInt8 := 10

/-- The first line of a stream, and what follows it. -/
def cut : List UInt8 → List UInt8 × List UInt8
  | [] => ([], [])
  | b :: rest => if b = feed then ([b], rest) else (b :: (cut rest).1, (cut rest).2)

/-- The lines of a stream. -/
def split : List UInt8 → List (List UInt8)
  | [] => []
  | b :: rest =>
    if b = feed then [b] :: split rest
    else match split rest with
      | [] => [[b]]
      | line :: lines => (b :: line) :: lines

/-- The text on a line, without the blanks at its ends. -/
def text (line : List UInt8) : Except Utf8Fault String :=
  (Utf8.decode line).map fun chars => .ofList (trim chars)

/-- An empty text has no line. -/
@[simp] theorem cut_nil : cut [] = ([], []) := rfl

/-- An empty text has no lines. -/
@[simp] theorem split_nil : split [] = [] := rfl

/-- A stream of which something is left has a line. -/
theorem split_eq_cons {s : List UInt8} (h : s ≠ []) : split s = (cut s).1 :: split (cut s).2 := by
  induction s with
  | nil => exact absurd rfl h
  | cons b rest ih =>
    by_cases hb : b = feed
    · simp [split, cut, hb]
    · cases rest with
      | nil => simp [split, cut, hb]
      | cons c rest =>
        rw [split, if_neg hb, ih (by simp)]
        simp [cut, hb]

/-- A finished line in front of a stream is its first line. -/
theorem cut_of_not_mem {line : List UInt8} (h : feed ∉ line) (rest : List UInt8) :
    cut (line ++ feed :: rest) = (line ++ [feed], rest) := by
  induction line with
  | nil => simp [cut]
  | cons b line ih =>
    have hb : b ≠ feed := fun e => h (by simp [e])
    have ih := ih fun hm => h (List.mem_cons_of_mem b hm)
    simp [cut, hb, ih]

/-- A finished line in front of a stream is one line more. -/
theorem split_of_not_mem {line : List UInt8} (h : feed ∉ line) (rest : List UInt8) :
    split (line ++ feed :: rest) = (line ++ [feed]) :: split rest := by
  rw [split_eq_cons (by simp), cut_of_not_mem h]

/-- No byte of a stream is lost between its lines. -/
theorem flatten_split (s : List UInt8) : (split s).flatten = s := by
  induction s with
  | nil => rfl
  | cons b rest ih =>
    rw [split]
    by_cases hb : b = feed
    · rw [if_pos hb]
      simp [ih]
    · rw [if_neg hb]
      cases h : split rest with
      | nil => rw [h] at ih; simpa using ih
      | cons line lines => rw [h] at ih; simpa using ih

end TownTraffic.Text.Line
