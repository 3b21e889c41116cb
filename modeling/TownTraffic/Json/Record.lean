import TownTraffic.Json.Codec
import TownTraffic.Json.Skip

/-!
# Records

A record travels as an object with one member a field, and may also be read from a list of the
fields in order. Members may come in any order; unknown ones are passed over, a field may not come
twice, and one that is missing needs a stand-in.

* **`Field`** — one field; **`Fields`** — the fields of a record.
* **`Fields.empty`** — nothing read yet; **`Fields.finish`** — the values of what has been read.
* **`Fields.encodeMembers`** — the members; **`Fields.read`**, **`Fields.decode`** — the values.
* **`Codec.record`** — the form of a record type.
-/

namespace TownTraffic.Json

/-- One field of a record. -/
structure Field (α : Type) where
  name : String
  codec : Codec α
  /-- Stands in when an object has no such member. -/
  whenMissing : Option α
  /-- Stands in when a list ends before the field. -/
  whenShort : Option α

namespace Field

variable {α : Type}

/-- A field that must be given. -/
def required [w : Wire α] (name : String) : Field α := ⟨name, w.codec, none, none⟩

/-- A field with an optional value, which an object may leave out. -/
def optional [w : Wire α] (name : String) : Field (Option α) :=
  ⟨name, Wire.codec, some none, none⟩

/-- A field with a value of its own when it is left out. -/
def default [w : Wire α] (name : String) (value : α) : Field α :=
  ⟨name, w.codec, some value, some value⟩

end Field

/-- The fields of a record. `Fields σ τ` has values that form the nested pair `σ`; what has been
read of them so far is the nested pair `τ` of optional values. -/
inductive Fields : Type → Type → Type 1 where
  | nil : Fields Unit Unit
  | cons {α σ τ : Type} (field : Field α) (rest : Fields σ τ) : Fields (α × σ) (Option α × τ)

namespace Fields

/-- What to do with a member of an object. -/
inductive Step (α : Type) where
  /-- No field has this name. -/
  | unknown
  /-- The field has been given before. -/
  | again
  /-- The value is still to be taken. -/
  | take (value : α)

/-- The step with its value carried on. -/
def Step.map {α β : Type} (f : α → β) : Step α → Step β
  | .unknown => .unknown
  | .again => .again
  | .take value => .take (f value)

/-- The names of the fields. -/
def names {σ τ : Type} : Fields σ τ → List String
  | .nil => []
  | .cons field rest => field.name :: rest.names

/-- The number of fields. -/
def size {σ τ : Type} : Fields σ τ → Nat
  | .nil => 0
  | .cons _ rest => rest.size + 1

/-- Nothing read yet. -/
def empty {σ τ : Type} : Fields σ τ → τ
  | .nil => ()
  | .cons _ rest => (none, rest.empty)

/-- The values, once every member has been read. The first field without one is missed. -/
def finish {σ τ : Type} : Fields σ τ → τ → Except Mismatch σ
  | .nil, _ => .ok ()
  | .cons field rest, (slot, slots) =>
    match slot.or field.whenMissing with
    | none => .error (.missingField field.name)
    | some x => (rest.finish slots).map fun xs => (x, xs)

/-- The members of an object that holds the values. -/
def encodeMembers {σ τ : Type} : Fields σ τ → σ → List (String × Value)
  | .nil, _ => []
  | .cons field rest, (x, xs) => (field.name, field.codec.encode x) :: rest.encodeMembers xs

/-- How many fields are expected, in words. -/
def expected {σ τ : Type} (fields : Fields σ τ) (what : String) : String :=
  what ++ " with " ++ toString fields.size ++ if fields.size = 1 then " element" else " elements"

/-! ## From a tree -/

/-- Takes one member of an object. -/
def decodeMember {σ τ : Type} : Fields σ τ → String → Value → τ → Step (Except Mismatch τ)
  | .nil, _, _, _ => .unknown
  | .cons field rest, key, v, (slot, slots) =>
    if key = field.name then
      if slot.isSome then .again
      else .take ((field.codec.decode v).map fun x => (some x, slots))
    else (rest.decodeMember key v slots).map fun r => r.map fun slots => (slot, slots)

/-- Takes the members of an object in their order. -/
def decodeMembers {σ τ : Type} (fields : Fields σ τ) :
    List (String × Value) → τ → Except Mismatch τ
  | [], slots => .ok slots
  | (key, v) :: members, slots =>
    match fields.decodeMember key v slots with
    | .unknown => fields.decodeMembers members slots
    | .again => .error (.duplicateField key)
    | .take (.error m) => .error m
    | .take (.ok slots) => fields.decodeMembers members slots

/-- Takes the items of a list in the order of the fields, `taken` being those before them. Items
beyond the last field are one length too many. -/
def decodeItems {σ τ : Type} (expected : String) (taken : Nat) :
    Fields σ τ → List Value → Except Mismatch σ
  | .nil, [] => .ok ()
  | .nil, extra =>
    .error (.wrongLength (taken + extra.length)
      (toString taken ++ if taken = 1 then " element in sequence" else " elements in sequence"))
  | .cons field rest, [] =>
    match field.whenShort with
    | some x => (decodeItems expected taken rest []).map fun xs => (x, xs)
    | none => .error (.wrongLength taken expected)
  | .cons field rest, v :: vs => do
    let x ← field.codec.decode v
    let xs ← decodeItems expected (taken + 1) rest vs
    return (x, xs)

/-- The values of an object or a list; `what` names the record. -/
def decode {σ τ : Type} (fields : Fields σ τ) (what : String) : Value → Except Mismatch σ
  | .object members => do fields.finish (← fields.decodeMembers members fields.empty)
  | .list items => decodeItems (fields.expected what) 0 fields items
  | v => .error (.wrongType v.found what)

/-! ## From a text -/

/-- Takes one member of an object, its key and colon already taken. -/
def readMember {σ τ : Type} (depth : Nat) : Fields σ τ → String → τ → Step (Reader τ)
  | .nil, _, _ => .unknown
  | .cons field rest, key, (slot, slots) =>
    if key = field.name then
      if slot.isSome then .again
      else .take fun s => (field.codec.read depth s).map fun (x, s) => ((some x, slots), s)
    else
      (rest.readMember depth key slots).map fun r s =>
        (r s).map fun (slots, s) => ((slot, slots), s)

/-- Takes the members of an object up to its end. The length of the text bounds their number. -/
def readMembers {σ τ : Type} (depth : Nat) (fields : Fields σ τ) :
    (bound : Nat) → (first : Bool) → τ → Reader τ
  | 0, _, _, s => .error (.upon .objectUnfinished s)
  | bound + 1, first, slots, s => do
    match ← nextKey first s with
    | (none, s) => .ok (slots, s)
    | (some key, s) =>
      match fields.readMember depth key slots with
      | .again => .error (.loose (.duplicateField key) s)
      | .unknown => fields.readMembers depth bound false slots (← skipValue (← readColon s))
      | .take reader =>
        let (slots, s) ← reader (← readColon s)
        fields.readMembers depth bound false slots s

/-- Takes the items of a list in the order of the fields. -/
def readItems {σ τ : Type} (expected : String) (depth : Nat) :
    (taken : Nat) → Fields σ τ → Reader σ
  | _, .nil, s => .ok ((), s)
  | taken, .cons field rest, s => do
    match ← nextItem (taken == 0) s with
    | (false, s) =>
      match field.whenShort with
      | some x =>
        let (xs, s) ← readItems expected depth taken rest s
        .ok ((x, xs), s)
      | none => .error (.loose (.wrongLength taken expected) s)
    | (true, s) =>
      let (x, s) ← field.codec.read depth s
      let (xs, s) ← readItems expected depth (taken + 1) rest s
      .ok ((x, xs), s)

/-- The values in front of a text; `what` names the record. -/
def read {σ τ : Type} (fields : Fields σ τ) (what : String) (depth : Nat) : Reader σ := fun s => do
  let s ← startValue s
  match s with
  | '[' :: rest =>
    descend depth s fun depth =>
      closeList (readItems (fields.expected what) depth 0 fields rest)
  | '{' :: rest =>
    descend depth s fun depth =>
      closeObject do
        let (slots, s) ← fields.readMembers depth (rest.length + 1) true fields.empty rest
        match fields.finish slots with
        | .ok xs => .ok (xs, s)
        | .error m => .error (.loose m s)
  | s => .error (mismatched what s)

end Fields

namespace Codec

/-- The form of a record type: `what` names it, `parts` takes a value apart, `build` puts it
together. -/
def record {α σ τ : Type} (what : String) (fields : Fields σ τ) (parts : α → σ)
    (build : σ → α) : Codec α where
  encode x := .object (fields.encodeMembers (parts x))
  decode v := (fields.decode what v).map build
  read depth s := (fields.read what depth s).map fun (xs, rest) => (build xs, rest)

end Codec

end TownTraffic.Json
