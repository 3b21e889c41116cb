import TownTraffic.Text.Quoted

/-!
# Detailed notation

Messages about unexpected values show them in full: the name of the value's shape, then its fields
by name. A `Detail` is a value prepared for this notation, `Detail.text` the notation.
-/

namespace TownTraffic.Text

/-- A value prepared to be shown in full. -/
inductive Detail where
  /-- A value that is shown by a word. -/
  | word (text : String)
  /-- A value that wraps another one. -/
  | wrap (name : String) (inner : Detail)
  /-- A value with named fields. -/
  | record (name : String) (fields : List (String × Detail))
  | list (items : List Detail)

namespace Detail

mutual

/-- The detailed notation of a value. -/
def text : Detail → String
  | word text => text
  | wrap name inner => name ++ "(" ++ inner.text ++ ")"
  | record name [] => name
  | record name ((field, d) :: fields) =>
    name ++ " \x7b " ++ field ++ ": " ++ d.text ++ textFields fields ++ " \x7d"
  | list [] => "[]"
  | list (d :: items) => "[" ++ d.text ++ textItems items ++ "]"

/-- The further fields of a value. -/
def textFields : List (String × Detail) → String
  | [] => ""
  | (field, d) :: fields => ", " ++ field ++ ": " ++ d.text ++ textFields fields

/-- The further items of a list. -/
def textItems : List Detail → String
  | [] => ""
  | d :: items => ", " ++ d.text ++ textItems items

end

/-- A text, between quotation marks. -/
def ofString (s : String) : Detail := word (quoted s)

/-- A truth value. -/
def ofBool (b : Bool) : Detail := word (if b then "true" else "false")

/-- A whole number. -/
def ofInt (n : Int) : Detail := word (toString n)

/-- An optional value. -/
def ofOption : Option Detail → Detail
  | some d => wrap "Some" d
  | none => word "None"

end Detail

/-- Types whose values can be shown in full. -/
class Detailed (α : Type) where
  detail : α → Detail

end TownTraffic.Text
