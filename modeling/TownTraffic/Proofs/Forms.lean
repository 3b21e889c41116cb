import TownTraffic.Proofs.Decimals
import TownTraffic.Proofs.Trees
import TownTraffic.Json.Variant

/-!
# Values survive their forms

A value is conveyed by a form as another value if its tree may be read and is decoded as that one;
it is carried if it is conveyed as itself. The forms of compound values convey what their parts
convey, so one lemma for each way of putting forms together is all that a message needs.

* **`Codec.Conveys`**, **`Codec.Carries`** — the values that a form conveys, or carries.
* **`Fields.Convey`**, **`Variants.Conveys`** — the same for records and variants.
* **`Codec.ofText_toText`** — what is carried under the name of its variant is read back from its
  text; **`Codec.ofText_toText_of_conveys`** what is conveyed is read as the other value.
-/

namespace TownTraffic.Json

variable {α : Type}

/-- **Whether a form carries a value** with at most `depth` containers inside one another. -/
structure Codec.Carries (c : Codec α) (depth : Nat) (x : α) : Prop where
  /-- The tree of the value may be read. -/
  fits : (c.encode x).Fits depth
  /-- The tree is decoded as the value. -/
  decode_encode : c.decode (c.encode x) = .ok x

/-- **Whether a form conveys a value as another one**, with at most `depth` containers inside one
another. -/
structure Codec.Conveys (c : Codec α) (depth : Nat) (x y : α) : Prop where
  /-- The tree of the value may be read. -/
  fits : (c.encode x).Fits depth
  /-- The tree is decoded as the other value. -/
  decode_encode : c.decode (c.encode x) = .ok y

namespace Codec

/-- What is carried is conveyed as itself. -/
theorem Carries.conveys {c : Codec α} {depth : Nat} {x : α} (carries : c.Carries depth x) :
    c.Conveys depth x x := ⟨carries.fits, carries.decode_encode⟩

/-- What is conveyed as itself is carried. -/
theorem Conveys.carries {c : Codec α} {depth : Nat} {x : α} (conveys : c.Conveys depth x x) :
    c.Carries depth x := ⟨conveys.fits, conveys.decode_encode⟩

/-! ## Scalars -/

/-- A number is conveyed if its spelling has a value that is accepted. -/
theorem conveys_numeric {expected : String} {encode : α → Value}
    {accept : Number → Except Mismatch α} {x y : α} {n : Numeral} {value : Number}
    (hencode : encode x = .number n) (spelled : n.Spelled) (hvalue : n.number? = .ok value)
    (haccept : accept value = .ok y) (depth : Nat) :
    (numeric expected encode accept).Conveys depth x y where
  fits := by
    simp only [numeric, hencode, Value.fits_number]
    exact ⟨spelled, value, hvalue⟩
  decode_encode := by simp only [numeric, hencode, Value.numberOf, hvalue, haccept]

/-- A number is carried if its spelling has a value that is accepted as the number. -/
theorem carries_numeric {expected : String} {encode : α → Value}
    {accept : Number → Except Mismatch α} {x : α} {n : Numeral} {value : Number}
    (hencode : encode x = .number n) (spelled : n.Spelled) (hvalue : n.number? = .ok value)
    (haccept : accept value = .ok x) (depth : Nat) :
    (numeric expected encode accept).Carries depth x :=
  (conveys_numeric hencode spelled hvalue haccept depth).carries

/-- A number below two to the 32nd power is carried. -/
theorem carries_word32 (expected : String) (depth : Nat) (n : UInt32) :
    (word32 expected).Carries depth n := by
  have hlt : n.toNat < UInt32.size := n.toNat_lt_size
  have hvalue := Numeral.number?_ofNat (hlt.le.trans (by decide))
  refine carries_numeric (x := n) rfl (Numeral.spelled_toDigits false n.toNat) hvalue ?_ depth
  simp [acceptNatural, hlt, Except.map]

/-- A number below two to the 64th power is carried. -/
theorem carries_word64 (expected : String) (depth : Nat) (n : UInt64) :
    (word64 expected).Carries depth n := by
  have hlt : n.toNat < UInt64.size := n.toNat_lt_size
  have hvalue := Numeral.number?_ofNat (Nat.le_sub_one_of_lt hlt)
  refine carries_numeric (x := n) rfl (Numeral.spelled_toDigits false n.toNat) hvalue ?_ depth
  simp [acceptNatural, hlt, Except.map]

/-- A signed number of 64 bits is carried. -/
theorem carries_integer64 (expected : String) (depth : Nat) (n : Int64) :
    (integer64 expected).Carries depth n := by
  have hlow := n.le_toInt
  have hhigh := n.toInt_lt
  have hvalue := Numeral.number?_ofInt (n := n.toInt) (by omega) (by omega)
  refine carries_numeric (x := n) rfl (Numeral.spelled_toDigits _ n.toInt.natAbs) hvalue ?_ depth
  by_cases hneg : n.toInt < 0
  · have habs : -(n.toInt.natAbs : Int) = n.toInt := by omega
    simp only [if_pos hneg, habs, Int64.ofInt_toInt]
  · have habs : (n.toInt.natAbs : Int) = n.toInt := by omega
    have hlt : n.toInt.natAbs < 9223372036854775808 := by omega
    simp only [if_neg hneg, if_pos hlt, habs, Int64.ofInt_toInt]

/-- **Whether a binary32 number is read back** from its text. -/
def ReadsBack (x : Float32) : Prop := (real32 "f32").ofText ((real32 "f32").toText x) = .ok x

/-- A number that cannot be read is an error, as it would be in any tree. -/
theorem read_real32_of_error {n : Numeral} (spelled : n.Spelled) (depth : Nat) {s : List Char}
    {fault : Fault} (hread : readNumber (n.chars ++ s) = .error fault) :
    (real32 "f32").read depth (n.chars ++ s) = .error fault := by
  obtain ⟨c, digits, hchars, hstarts⟩ := Numeral.exists_cons_chars spelled
  have hstart := Value.startValue_cons (Value.not_gap_of_startsNumber hstarts).1 (digits ++ s)
  rw [hchars, List.cons_append] at hread ⊢
  simp only [real32, numeric, hstart, hstarts, if_true, hread, bind, Except.bind]

/-- A number that can be read is rounded to the nearest one in binary32. -/
theorem read_real32_of_ok {n : Numeral} (spelled : n.Spelled) (depth : Nat) {value : Number}
    {s rest : List Char} (hread : readNumber (n.chars ++ s) = .ok ((n, value), rest)) :
    (real32 "f32").read depth (n.chars ++ s) = .ok (nearest value, rest) := by
  obtain ⟨c, digits, hchars, hstarts⟩ := Numeral.exists_cons_chars spelled
  have hstart := Value.startValue_cons (Value.not_gap_of_startsNumber hstarts).1 (digits ++ s)
  rw [hchars, List.cons_append] at hread ⊢
  simp only [real32, numeric, hstart, hstarts, if_true, hread, bind, Except.bind]

/-- What has no decimal numeral, an infinity or no number at all, is written as nothing. -/
theorem real32_toText_of_none {x : Float32} (h : Numeral.ofBinary32 x = none) :
    (real32 "f32").toText x = "null" := by
  simp only [toText, real32, numeric, h]
  rfl

/-- A finite number is written as its decimal numeral. -/
theorem real32_encode_of_some {x : Float32} {n : Numeral} (h : Numeral.ofBinary32 x = some n) :
    (real32 "f32").encode x = .number n := by
  simp only [real32, numeric, h]

/-- What is read back from its text is carried. -/
theorem carries_real32 {x : Float32} (h : ReadsBack x) (depth : Nat) :
    (real32 "f32").Carries depth x := by
  unfold ReadsBack at h
  cases hn : Numeral.ofBinary32 x with
  | none =>
    rw [real32_toText_of_none hn] at h
    cases h
  | some n =>
    have spelled := Numeral.spelled_ofBinary32 hn
    have hread := Numeral.read_chars spelled .valueUnfinished Value.Ends.nil.endsNumber
    rw [ofText, toText, real32_encode_of_some hn, Value.toText, String.toList_ofList, Value.write,
      readAll] at h
    cases hvalue : n.number? with
    | error unused =>
      -- A number beyond binary64 would not have been read back.
      have hnumber : readNumber (n.chars ++ [])
          = .error (.placed (.blunder .numberTooLarge) (byteCount [] + unused)) := by
        simp only [readNumber, hread, hvalue, bind, Except.bind]
      rw [read_real32_of_error spelled maxDepth hnumber] at h
      cases h
    | ok value =>
      have hnumber := Value.readNumber_append spelled hvalue Value.Ends.nil
      rw [read_real32_of_ok spelled maxDepth hnumber] at h
      have haccept : nearest value = x := Except.ok.inj h
      exact carries_numeric (by simp [hn]) spelled hvalue (by rw [haccept]) depth

/-- A truth value is carried. -/
theorem carries_boolean (depth : Nat) (b : Bool) : boolean.Carries depth b where
  fits := Value.fits_boolean depth b
  decode_encode := rfl

/-- A text is carried. -/
theorem carries_string (expected : String) (depth : Nat) (s : String) :
    (string expected).Carries depth s where
  fits := Value.fits_text depth s
  decode_encode := rfl

/-! ## Optional values and lists -/

/-- An optional value is carried if the value is, and is not written as null. -/
theorem carries_optional {c : Codec α} {depth : Nat} {o : Option α}
    (h : ∀ x ∈ o, c.Carries depth x ∧ c.encode x ≠ .null) : (optional c).Carries depth o := by
  cases o with
  | none => exact ⟨Value.fits_null depth, rfl⟩
  | some x =>
    obtain ⟨carries, hne⟩ := h x rfl
    refine ⟨carries.fits, ?_⟩
    simp only [optional, carries.decode_encode, Except.map]

/-- A list is conveyed item by item. -/
theorem conveys_list {c : Codec α} {depth : Nat} {xs : List α} {f : α → α}
    (h : ∀ x ∈ xs, c.Conveys depth x (f x)) : (list c).Conveys (depth + 1) xs (xs.map f) where
  fits := by
    refine Value.fits_list.mpr ?_
    simpa using fun x hx => (h x hx).fits
  decode_encode := by
    simp only [list]
    induction xs with
    | nil => rfl
    | cons x xs ih =>
      obtain ⟨hx, h⟩ := List.forall_mem_cons.mp h
      rw [List.map_cons, List.mapM_cons, hx.decode_encode, ih h]
      rfl

end Codec

/-! ## Records -/

namespace Fields

variable {σ τ : Type}

/-- Whether the form of each field carries its value. -/
def Carry {σ τ : Type} : Fields σ τ → (depth : Nat) → σ → Prop
  | .nil, _, _ => True
  | .cons field rest, depth, (x, xs) => field.codec.Carries depth x ∧ rest.Carry depth xs

/-- Whether the form of each field conveys its value as the other one. -/
def Convey {σ τ : Type} : Fields σ τ → (depth : Nat) → σ → σ → Prop
  | .nil, _, _, _ => True
  | .cons field rest, depth, (x, xs), (y, ys) =>
    field.codec.Conveys depth x y ∧ rest.Convey depth xs ys

/-- What is carried is conveyed as itself. -/
theorem Carry.convey {fields : Fields σ τ} {depth : Nat} {xs : σ} (carry : fields.Carry depth xs) :
    fields.Convey depth xs xs := by
  induction fields with
  | nil => trivial
  | cons field rest ih => exact ⟨carry.1.conveys, ih carry.2⟩

/-- Every value read. -/
def filled {σ τ : Type} : Fields σ τ → σ → τ
  | .nil, _ => ()
  | .cons _ rest, (x, xs) => (some x, rest.filled xs)

/-- Where every field has been read, the record is complete. -/
theorem finish_filled (fields : Fields σ τ) (xs : σ) :
    fields.finish (fields.filled xs) = .ok xs := by
  induction fields with
  | nil => rfl
  | cons field rest ih => simp [finish, filled, ih, Except.map]

/-- Members of a record are named as its fields. -/
theorem map_fst_encodeMembers (fields : Fields σ τ) (xs : σ) :
    (fields.encodeMembers xs).map Prod.fst = fields.names := by
  induction fields with
  | nil => rfl
  | cons field rest ih => simp [encodeMembers, names, ih]

/-- The members of an object fit if the fields convey their values. -/
theorem fits_of_mem_encodeMembers {fields : Fields σ τ} {depth : Nat} {xs ys : σ}
    (convey : fields.Convey depth xs ys) : ∀ m ∈ fields.encodeMembers xs, m.2.Fits depth := by
  induction fields with
  | nil => simp [encodeMembers]
  | cons field rest ih =>
    obtain ⟨hx, hxs⟩ := convey
    exact List.forall_mem_cons.mpr ⟨hx.fits, ih hxs⟩

/-- Members of other names leave a field alone. -/
theorem decodeMembers_cons_of_ne {field : Field α} {rest : Fields σ τ}
    {members : List (String × Value)} (h : ∀ m ∈ members, m.1 ≠ field.name) (slot : Option α)
    (slots : τ) :
    (Fields.cons field rest).decodeMembers members (slot, slots)
      = (rest.decodeMembers members slots).map fun slots => (slot, slots) := by
  induction members generalizing slots with
  | nil => rfl
  | cons m members ih =>
    obtain ⟨key, v⟩ := m
    obtain ⟨hkey, hmembers⟩ := List.forall_mem_cons.mp h
    simp only [decodeMembers, decodeMember, if_neg hkey]
    cases rest.decodeMember key v slots with
    | unknown => exact ih hmembers slots
    | again => rfl
    | take r =>
      cases r with
      | error m => rfl
      | ok slots => exact ih hmembers slots

/-- The members of an object fill the fields. -/
theorem decodeMembers_encodeMembers {fields : Fields σ τ} (nodup : fields.names.Nodup) {depth : Nat}
    {xs ys : σ} (convey : fields.Convey depth xs ys) :
    fields.decodeMembers (fields.encodeMembers xs) fields.empty = .ok (fields.filled ys) := by
  induction fields with
  | nil => rfl
  | cons field rest ih =>
    obtain ⟨hx, hxs⟩ := convey
    obtain ⟨hname, nodup⟩ := List.nodup_cons.mp nodup
    have hne : ∀ m ∈ rest.encodeMembers xs.2, m.1 ≠ field.name := by
      intro m hm heq
      rw [← rest.map_fst_encodeMembers xs.2, ← heq] at hname
      exact hname (List.mem_map_of_mem hm)
    have hfirst : (Fields.cons field rest).decodeMember field.name (field.codec.encode xs.1)
        (none, rest.empty) = .take (.ok (some ys.1, rest.empty)) := by
      simp only [decodeMember, if_true, Option.isSome_none, Bool.false_eq_true, if_false,
        hx.decode_encode, Except.map]
    simp only [encodeMembers, empty, decodeMembers, hfirst, decodeMembers_cons_of_ne hne,
      ih nodup hxs, Except.map, filled]

/-- **An object that holds the values is decoded as the values they are conveyed as.** -/
theorem decode_encodeMembers {fields : Fields σ τ} (nodup : fields.names.Nodup) {depth : Nat}
    {xs ys : σ} (convey : fields.Convey depth xs ys) (what : String) :
    fields.decode what (.object (fields.encodeMembers xs)) = .ok ys := by
  simp only [decode, decodeMembers_encodeMembers nodup convey, bind, Except.bind, finish_filled]

end Fields

/-- A record is conveyed field by field. -/
theorem Codec.conveys_record {σ τ : Type} {what : String} {fields : Fields σ τ} {parts : α → σ}
    {build : σ → α} {depth : Nat} {x y : α} (nodup : fields.names.Nodup) (ys : σ)
    (convey : fields.Convey depth (parts x) ys) (hbuild : build ys = y) :
    (record what fields parts build).Conveys (depth + 1) x y where
  fits := Value.fits_object.mpr (Fields.fits_of_mem_encodeMembers convey)
  decode_encode := by
    simp only [record, Fields.decode_encodeMembers nodup convey, Except.map, hbuild]

/-- A record is carried if its fields carry their values. -/
theorem Codec.carries_record {σ τ : Type} {what : String} {fields : Fields σ τ} {parts : α → σ}
    {build : σ → α} {depth : Nat} {x : α} (nodup : fields.names.Nodup)
    (carry : fields.Carry depth (parts x)) (hbuild : build (parts x) = x) :
    (record what fields parts build).Carries (depth + 1) x :=
  (conveys_record nodup _ carry.convey hbuild).carries

/-! ## Variants -/

namespace Variants

variable {vs : Variants α} {depth : Nat} {x y : α} {v : Variant α}

/-- The members of the fields of a value. -/
def members (vs : Variants α) (x : α) : List (String × Value) := (vs.spell x).members.getD []

/-- **Whether a value is carried as a variant**: the variant has its name, the members of its fields
fit and do not take the place of the name, and they are decoded as the value. -/
structure Carries (vs : Variants α) (depth : Nat) (x : α) (v : Variant α) : Prop where
  find : vs.find (vs.spell x).name = .ok v
  fits : ∀ m ∈ vs.members x, m.2.Fits depth
  fst_ne_tag : ∀ m ∈ vs.members x, m.1 ≠ tag
  decode : vs.decodePayload v (.object (vs.members x)) = .ok x

/-- **Whether a value is conveyed as another one of a variant**, likewise. -/
structure Conveys (vs : Variants α) (depth : Nat) (x y : α) (v : Variant α) : Prop where
  find : vs.find (vs.spell x).name = .ok v
  fits : ∀ m ∈ vs.members x, m.2.Fits depth
  fst_ne_tag : ∀ m ∈ vs.members x, m.1 ≠ tag
  decode : vs.decodePayload v (.object (vs.members x)) = .ok y

/-- What is carried is conveyed as itself. -/
theorem Carries.conveys (carries : vs.Carries depth x v) : vs.Conveys depth x x v :=
  ⟨carries.find, carries.fits, carries.fst_ne_tag, carries.decode⟩

/-- What is conveyed as itself is carried. -/
theorem Conveys.carries (conveys : vs.Conveys depth x x v) : vs.Carries depth x v :=
  ⟨conveys.find, conveys.fits, conveys.fst_ne_tag, conveys.decode⟩

/-- A value of a variant without fields is carried. -/
theorem carries_bare {name : String} (hspell : vs.spell x = ⟨name, none⟩)
    (hfind : vs.find name = .ok (.bare name x)) (depth : Nat) :
    vs.Carries depth x (.bare name x) where
  find := by rw [hspell, hfind]
  fits := by simp [members, hspell]
  fst_ne_tag := by simp [members, hspell]
  decode := rfl

/-- A value of a variant with fields is conveyed field by field. -/
theorem conveys_record {σ τ : Type} {name : String} {fields : Fields σ τ} {build : σ → α}
    {xs : σ} (hspell : vs.spell x = ⟨name, some (fields.encodeMembers xs)⟩)
    (hfind : vs.find name = .ok (.record name fields build)) (ys : σ) (hbuild : build ys = y)
    (nodup : (tag :: fields.names).Nodup) (convey : fields.Convey depth xs ys) :
    vs.Conveys depth x y (.record name fields build) where
  find := by rw [hspell, hfind]
  fits := by
    rw [members, hspell]
    exact Fields.fits_of_mem_encodeMembers convey
  fst_ne_tag := by
    rw [members, hspell]
    intro m hm heq
    have hnames := fields.map_fst_encodeMembers xs
    exact (List.nodup_cons.mp nodup).1 (hnames ▸ heq ▸ List.mem_map_of_mem hm)
  decode := by
    rw [members, hspell]
    simp only [decodePayload, Variant.record, Option.getD_some,
      Fields.decode_encodeMembers (List.nodup_cons.mp nodup).2 convey, Except.map, hbuild]

/-- A value of a variant with fields is carried if the fields carry its parts. -/
theorem carries_record {σ τ : Type} {name : String} {fields : Fields σ τ} {build : σ → α} {xs : σ}
    (hspell : vs.spell x = ⟨name, some (fields.encodeMembers xs)⟩)
    (hfind : vs.find name = .ok (.record name fields build)) (hbuild : build xs = x)
    (nodup : (tag :: fields.names).Nodup) (carry : fields.Carry depth xs) :
    vs.Carries depth x (.record name fields build) :=
  (conveys_record hspell hfind _ hbuild nodup carry.convey).carries

/-! ### Names outside -/

/-- A variant without fields is carried by its name alone. -/
theorem carries_choice {name : String} (hspell : vs.spell x = ⟨name, none⟩)
    (hfind : vs.find name = .ok (.bare name x)) (depth : Nat) :
    (Codec.choice vs).Carries depth x where
  fits := by
    simp only [Codec.choice, hspell]
    exact Value.fits_text depth name
  decode_encode := by
    simp only [Codec.choice, hspell, decodeChoice, hfind, bind, Except.bind]
    rfl

/-! ### Names inside -/

/-- Behind the name the members are kept as they are. -/
theorem splitTag_of_ne (vs : Variants α) {ms : List (String × Value)}
    (h : ∀ m ∈ ms, m.1 ≠ tag) (v : Variant α) (kept : List (String × Value)) :
    vs.splitTag (some v) kept ms = .ok (v, .object (kept.reverse ++ ms)) := by
  induction ms generalizing kept with
  | nil => simp [splitTag]
  | cons m ms ih =>
    obtain ⟨hm, h⟩ := List.forall_mem_cons.mp h
    rw [splitTag, if_neg hm, ih h]
    simp

/-- What is conveyed as a variant is conveyed with the name inside. -/
theorem Conveys.tagged (conveys : vs.Conveys depth x y v) :
    (Codec.tagged vs).Conveys (depth + 1) x y where
  fits := by
    refine Value.fits_object.mpr (List.forall_mem_cons.mpr ⟨Value.fits_text depth _, ?_⟩)
    exact conveys.fits
  decode_encode := by
    have hsplit := vs.splitTag_of_ne conveys.fst_ne_tag v []
    have hdecode := conveys.decode
    rw [members] at hsplit hdecode
    simp only [Codec.tagged, decodeTagged, splitTag, if_true, decodeName, conveys.find, hsplit,
      bind, Except.bind, List.reverse_nil, List.nil_append, hdecode]

/-- What is carried as a variant is carried with the name inside. -/
theorem Carries.tagged (carries : vs.Carries depth x v) :
    (Codec.tagged vs).Carries (depth + 1) x := carries.conveys.tagged.carries

/-- Behind the name the members are read and kept as they are. -/
theorem readTaggedMembers_of_ne (vs : Variants α) {ms : List (String × Value)}
    (fits : ∀ m ∈ ms, m.2.Fits depth) (h : ∀ m ∈ ms, m.1 ≠ tag) {bound : Nat}
    (hbound : ms.length < bound) (v : Variant α) (kept : List (String × Value)) (rest : List Char) :
    vs.readTaggedMembers depth bound false (some v) kept (Value.membersText false ms rest)
      = .ok ((v, .object (kept.reverse ++ ms)), '}' :: rest) := by
  induction ms generalizing bound kept with
  | nil =>
    obtain ⟨bound, rfl⟩ := Nat.exists_eq_succ_of_ne_zero (Nat.ne_zero_of_lt hbound)
    simp [readTaggedMembers, Value.nextKey_membersText_nil, bind, Except.bind]
  | cons m ms ih =>
    obtain ⟨bound, rfl⟩ := Nat.exists_eq_succ_of_ne_zero (Nat.ne_zero_of_lt hbound)
    obtain ⟨hfits, fits⟩ := List.forall_mem_cons.mp fits
    obtain ⟨hm, h⟩ := List.forall_mem_cons.mp h
    have hvalue := Value.read_write hfits (Value.ends_membersText ms rest)
    have hmembers := ih fits h (Nat.lt_of_succ_lt_succ hbound) (m :: kept)
    simp [readTaggedMembers, Value.nextKey_membersText_cons, Value.readColon_cons, hm, hvalue,
      hmembers, bind, Except.bind]

/-- The name of a variant is read off its text. -/
theorem readName_write {name : String} (hfind : vs.find name = .ok v) (rest : List Char) :
    vs.readName (Quoted.write name rest) = .ok (v, rest) := by
  have hread : Json.readName "variant identifier" (Quoted.write name rest) = .ok (name, rest) :=
    Quoted.read_write name rest
  simp only [readName, hread, hfind, bind, Except.bind]

/-- The members of an object are read, the name first. -/
theorem Conveys.readTaggedMembers_membersText (conveys : vs.Conveys depth x y v) {bound : Nat}
    (hbound : (vs.members x).length + 1 < bound) (rest : List Char) :
    vs.readTaggedMembers depth bound true none []
        (Value.membersText true ((tag, .text (vs.spell x).name) :: vs.members x) rest)
      = .ok ((v, .object (vs.members x)), '}' :: rest) := by
  obtain ⟨bound, rfl⟩ := Nat.exists_eq_succ_of_ne_zero (Nat.ne_zero_of_lt hbound)
  have hname := readName_write conveys.find (Value.membersText false (vs.members x) rest)
  have hmembers := vs.readTaggedMembers_of_ne conveys.fits conveys.fst_ne_tag
    (Nat.lt_of_succ_lt_succ hbound) v [] rest
  simpa [readTaggedMembers, Value.nextKey_membersText_cons, Value.readColon_cons, Value.write,
    hname, bind, Except.bind] using hmembers

/-- **What is conveyed as a variant is read** off a text with the name inside. -/
theorem Conveys.readTagged_write (conveys : vs.Conveys depth x y v) (rest : List Char) :
    vs.readTagged (depth + 1) (((Codec.tagged vs).encode x).write rest) = .ok (y, rest) := by
  have hbound := Value.length_le_membersText true
    ((tag, .text (vs.spell x).name) :: vs.members x) rest
  have hmembers := conveys.readTaggedMembers_membersText (Nat.lt_succ_of_le hbound) rest
  have hstart := Value.startValue_cons (c := '{') rfl
    (Value.membersText true ((tag, .text (vs.spell x).name) :: vs.members x) rest)
  have hclose : closeObject (.ok ((v, Value.object (vs.members x)), '}' :: rest))
      = .ok ((v, .object (vs.members x)), rest) := rfl
  rw [show (Codec.tagged vs).encode x
    = .object ((tag, .text (vs.spell x).name) :: vs.members x) from rfl, Value.write_object]
  simp only [readTagged, hstart, descend, hmembers, hclose, conveys.decode, bind, Except.bind]

end Variants

namespace Codec

variable {vs : Variants α} {depth : Nat} {x y : α} {v : Variant α}

/-- **What is conveyed as a variant is read** off its whole text. -/
theorem ofText_toText_of_conveys (hdepth : depth + 1 = maxDepth)
    (conveys : vs.Conveys depth x y v) : (tagged vs).ofText ((tagged vs).toText x) = .ok y := by
  have hread : (tagged vs).read maxDepth (((tagged vs).encode x).write []) = .ok (y, []) := by
    rw [← hdepth]
    exact conveys.readTagged_write []
  rw [ofText, toText, Value.toText, String.toList_ofList]
  simp only [readAll, hread, bind, Except.bind, atEnd, skipBlank_nil, pure, Except.pure,
    Except.mapError]

/-- **What is carried as a variant is read back** from its whole text. -/
theorem ofText_toText (hdepth : depth + 1 = maxDepth) (carries : vs.Carries depth x v) :
    (tagged vs).ofText ((tagged vs).toText x) = .ok x :=
  ofText_toText_of_conveys hdepth carries.conveys

/-- The whole text of a value with its name inside is that of an object. -/
theorem toList_toText_tagged (vs : Variants α) (x : α) :
    ((tagged vs).toText x).toList
      = Value.write (.object ((Variants.tag, .text (vs.spell x).name) :: vs.members x)) [] := by
  rw [toText, Value.toText, String.toList_ofList]
  rfl

/-- The text of a variant is printable. -/
theorem printable_toText (carries : vs.Carries depth x v) :
    Printable ((tagged vs).toText x).toList := by
  rw [toList_toText_tagged]
  exact Value.printable_write carries.tagged.fits nofun

/-- The text of a variant starts with a brace. -/
theorem head?_toText (vs : Variants α) (x : α) :
    ((tagged vs).toText x).toList.head? = some '{' := by
  rw [toList_toText_tagged]
  rfl

/-- The text of a variant ends with a brace. -/
theorem getLast?_toText (vs : Variants α) (x : α) :
    ((tagged vs).toText x).toList.getLast? = some '}' := by
  rw [toList_toText_tagged]
  obtain ⟨s, hs⟩ := Value.suffix_write_object
    ((Variants.tag, .text (vs.spell x).name) :: vs.members x) []
  rw [← hs, List.getLast?_concat]

end Codec

end TownTraffic.Json
