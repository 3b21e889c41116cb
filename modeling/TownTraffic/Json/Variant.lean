import TownTraffic.Json.Record

/-!
# Variants

A value of one of several variants travels under the variant's name. `Codec.choice` writes a variant
without fields as its name alone and one with fields as an object with a single member of that name.
`Codec.tagged` writes an object whose member `type` holds the name, next to the fields; since that
member may stand anywhere, the fields are kept as a tree until the name is known.

* **`Variant`** — a name and the fields that go with it.
* **`Named`** — a value spelled as a name and, if its variant has fields, their members.
* **`Codec.choice`**, **`Codec.tagged`** — the two forms.
-/

namespace TownTraffic.Json

/-- What goes with the name of a variant. -/
inductive Payload (α : Type) where
  /-- Nothing. -/
  | bare (value : α)
  /-- The fields of a record, given by their readers, which are told what the record is called. -/
  | record (decode : String → Value → Except Mismatch α) (read : String → (depth : Nat) → Reader α)

/-- A variant of a type. -/
structure Variant (α : Type) where
  name : String
  payload : Payload α

namespace Variant

variable {α : Type}

/-- A variant without fields. -/
def bare (name : String) (value : α) : Variant α := ⟨name, .bare value⟩

/-- A variant with fields, of which `build` makes the value. -/
def record {σ τ : Type} (name : String) (fields : Fields σ τ) (build : σ → α) : Variant α :=
  ⟨name, .record (fun what v => (fields.decode what v).map build) fun what depth s =>
    (fields.read what depth s).map fun (xs, rest) => (build xs, rest)⟩

end Variant

/-- A value spelled as the name of its variant and the members of its fields, if it has any. -/
structure Named where
  name : String
  members : Option (List (String × Value))

/-- The variants of a type, and which of them a value is. -/
structure Variants (α : Type) where
  /-- The name of the type. -/
  typeName : String
  variants : List (Variant α)
  spell : α → Named

namespace Variants

variable {α : Type}

/-- The names of the variants. -/
def names (vs : Variants α) : List String := vs.variants.map (·.name)

/-- The variant of a given name. -/
def find (vs : Variants α) (name : String) : Except Mismatch (Variant α) :=
  match vs.variants.find? (·.name == name) with
  | some v => .ok v
  | none => .error (.unknownVariant name vs.names)

/-- A variant with fields, in words. -/
def inWords (vs : Variants α) (v : Variant α) : String :=
  "struct variant " ++ vs.typeName ++ "::" ++ v.name

/-- Takes the name of a variant off the front of a text. -/
def readName (vs : Variants α) : Reader (Variant α) := fun s => do
  let (name, rest) ← Json.readName "variant identifier" s
  match vs.find name with
  | .ok v => .ok (v, rest)
  | .error m => .error (.placed (.mismatch m) (byteCount rest))

/-! ## Names outside -/

/-- The value of a name alone, which must be that of a variant without fields. -/
def ofBareName (v : Variant α) : Except Mismatch α :=
  match v.payload with
  | .bare x => .ok x
  | .record _ _ => .error (.wrongType .bareVariant "struct variant")

/-- The value of a tree. -/
def decodeChoice (vs : Variants α) : Value → Except Mismatch α
  | .text name => do ofBareName (← vs.find name)
  | .object [(name, v)] => do
    let variant ← vs.find name
    match variant.payload with
    | .bare x => (Codec.nothing.decode v).map fun _ => x
    | .record decode _ =>
      match v with
      | .object _ | .list _ => decode (vs.inWords variant) v
      | v => .error (.wrongType v.found "struct variant")
  | .object _ => .error (.wrongValue .map "map with a single key")
  | v => .error (.wrongType v.found "string or map")

/-- The value in front of a text. -/
def readChoice (vs : Variants α) (depth : Nat) : Reader α := fun s => do
  let s ← startValue s
  match s with
  | '{' :: rest =>
    descend depth s fun depth => do
      let (variant, s) ← vs.readName rest
      let s ← readColon s
      let (x, s) ← match variant.payload with
        | .bare x => (Codec.nothing.read depth s).map fun (_, s) => (x, s)
        | .record _ read => read (vs.inWords variant) depth s
      match skipBlank s with
      | '}' :: rest => .ok (x, rest)
      | [] => .error (.before .objectUnfinished [])
      | s => .error (.before .valueMissing s)
  | '"' :: _ =>
    let (variant, rest) ← vs.readName s
    match ofBareName variant with
    | .ok x => .ok (x, rest)
    | .error m => .error (.loose m rest)
  | s => .error (.upon .valueMissing s)

/-! ## Names inside -/

/-- The member that holds the name. -/
def tag : String := "type"

/-- The name of the variants' form, in words. -/
def taggedInWords (vs : Variants α) : String := "internally tagged enum " ++ vs.typeName

/-- The value of a variant whose fields are in a tree. -/
def decodePayload (vs : Variants α) (v : Variant α) (fieldsOf : Value) : Except Mismatch α :=
  match v.payload with
  | .record decode _ => decode (vs.inWords v) fieldsOf
  | .bare x =>
    match fieldsOf with
    | .list items => (Fields.decodeItems "" 0 .nil items).map fun _ => x
    | _ => .ok x

/-- The name of the variant in a tree. -/
def decodeName (vs : Variants α) : Value → Except Mismatch (Variant α)
  | .text name => vs.find name
  | v => .error (.wrongType v.found "variant identifier")

/-- Takes the name of the variant out of the members of an object, and keeps the others. -/
def splitTag (vs : Variants α) (found : Option (Variant α)) (kept : List (String × Value)) :
    List (String × Value) → Except Mismatch (Variant α × Value)
  | [] =>
    match found with
    | some v => .ok (v, .object kept.reverse)
    | none => .error (.missingField tag)
  | (key, v) :: members =>
    if key = tag then
      match found with
      | some _ => .error (.duplicateField tag)
      | none => do vs.splitTag (some (← vs.decodeName v)) kept members
    else vs.splitTag found ((key, v) :: kept) members

/-- The value of a tree. -/
def decodeTagged (vs : Variants α) : Value → Except Mismatch α
  | .object members => do
    let (v, fieldsOf) ← vs.splitTag none [] members
    vs.decodePayload v fieldsOf
  | .list [] => .error (.missingField tag)
  | .list (name :: items) => do vs.decodePayload (← vs.decodeName name) (.list items)
  | v => .error (.wrongType v.found vs.taggedInWords)

/-- Takes the members of an object up to its end, the one with the name apart. The length of the
text bounds their number. -/
def readTaggedMembers (vs : Variants α) (depth : Nat) : (bound : Nat) → (first : Bool) →
    Option (Variant α) → List (String × Value) → Reader (Variant α × Value)
  | 0, _, _, _, s => .error (.upon .objectUnfinished s)
  | bound + 1, first, found, kept, s => do
    match ← nextKey first s with
    | (none, s) =>
      match found with
      | some v => .ok ((v, .object kept.reverse), s)
      | none => .error (.loose (.missingField tag) s)
    | (some key, s) =>
      if key = tag then
        if found.isSome then .error (.loose (.duplicateField tag) s)
        else
          let (v, s) ← vs.readName (← readColon s)
          vs.readTaggedMembers depth bound false (some v) kept s
      else
        let (v, s) ← Value.read depth (← readColon s)
        vs.readTaggedMembers depth bound false found ((key, v) :: kept) s

/-- Takes the items of a list up to its end, the name first. -/
def readTaggedItems (vs : Variants α) (depth : Nat) : Reader (Variant α × Value) := fun s => do
  match ← nextItem true s with
  | (false, s) => .error (.loose (.missingField tag) s)
  | (true, s) =>
    let (v, s) ← vs.readName s
    let (items, s) ← readItems (Value.read depth) (s.length + 1) false s
    .ok ((v, .list items), s)

/-- The value in front of a text. Mismatches of the fields have no place. -/
def readTagged (vs : Variants α) (depth : Nat) : Reader α := fun s => do
  let s ← startValue s
  let ((v, fieldsOf), rest) ← match s with
    | '[' :: rest => descend depth s fun depth => closeList (vs.readTaggedItems depth rest)
    | '{' :: rest =>
      descend depth s fun depth =>
        closeObject (vs.readTaggedMembers depth (rest.length + 1) true none [] rest)
    | s => .error (mismatched vs.taggedInWords s)
  match vs.decodePayload v fieldsOf with
  | .ok x => .ok (x, rest)
  | .error m => .error (.loose m rest)

end Variants

namespace Codec

variable {α : Type}

/-- The form with the name outside. -/
def choice (vs : Variants α) : Codec α where
  encode x :=
    match vs.spell x with
    | ⟨name, none⟩ => .text name
    | ⟨name, some members⟩ => .object [(name, .object members)]
  decode := vs.decodeChoice
  read := vs.readChoice

/-- The form with the name inside. -/
def tagged (vs : Variants α) : Codec α where
  encode x :=
    .object ((Variants.tag, .text (vs.spell x).name) :: (vs.spell x).members.getD [])
  decode := vs.decodeTagged
  read := vs.readTagged

end Codec

end TownTraffic.Json
