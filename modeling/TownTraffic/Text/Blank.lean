/-!
# Blanks at the ends of a line

The blanks are the 25 characters that Unicode calls white space. `trim` takes them off both ends
of a text; lines of a connection and arguments of a command are trimmed before they are read.
-/

namespace TownTraffic.Text

/-- Whether a character is white space in Unicode. -/
def isBlank (c : Char) : Bool :=
  let n := c.toNat
  (9 ≤ n && n ≤ 13) || n == 0x20 || n == 0x85 || n == 0xa0 || n == 0x1680
    || (0x2000 ≤ n && n ≤ 0x200a) || n == 0x2028 || n == 0x2029 || n == 0x202f || n == 0x205f
    || n == 0x3000

/-- A text without the blanks at its end. -/
def trimEnd (s : List Char) : List Char := (s.reverse.dropWhile isBlank).reverse

/-- A text without the blanks at either end. -/
def trim (s : List Char) : List Char := trimEnd (s.dropWhile isBlank)

/-- Nothing is left of an empty text. -/
@[simp] theorem trim_nil : trim [] = [] := rfl

/-- A text without blanks at its ends is its own trimming. -/
theorem trim_eq_self {s : List Char} (first : ∀ c, s.head? = some c → isBlank c = false)
    (last : ∀ c, s.getLast? = some c → isBlank c = false) : trim s = s := by
  have drop_eq : ∀ t : List Char, (∀ c, t.head? = some c → isBlank c = false) →
      t.dropWhile isBlank = t := by
    intro t h
    cases t with
    | nil => rfl
    | cons c t => simp [List.dropWhile, h c rfl]
  rw [trim, trimEnd, drop_eq s first, drop_eq s.reverse, List.reverse_reverse]
  simpa using last

end TownTraffic.Text
