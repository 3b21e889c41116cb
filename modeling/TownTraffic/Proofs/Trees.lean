import TownTraffic.Proofs.Literals

/-!
# Trees are read back

The text of a JSON tree is read back as the tree, wherever it is followed by the end of the text or
by what may follow a value in a container. The inside of a list or an object is looked at as the
readers do, which take one item or one member after the other and ask each time whether it is the
first.

* **`Value.Fits`** — the trees that are read back with containers nested to a given depth.
* **`Value.read_write`** — they are.
* **`Value.printable_write`** — their texts have no control characters.
-/

namespace TownTraffic.Json

namespace Value

/-- **Whether a tree can be read with at most `depth` containers inside one another**: its numbers
are spelled as they may be, and lie within binary64. -/
def Fits : (depth : Nat) → Value → Prop
  | _, .null => True
  | _, .boolean _ => True
  | _, .number n => n.Spelled ∧ ∃ value, n.number? = .ok value
  | _, .text _ => True
  | 0, .list _ => False
  | depth + 1, .list vs => ∀ v ∈ vs, v.Fits depth
  | 0, .object _ => False
  | depth + 1, .object ms => ∀ m ∈ ms, m.2.Fits depth

/-- Nothing is read at any depth. -/
@[simp] theorem fits_null (depth : Nat) : Fits depth .null := by cases depth <;> trivial

/-- Truth values are read at any depth. -/
@[simp] theorem fits_boolean (depth : Nat) (b : Bool) : Fits depth (.boolean b) := by
  cases depth <;> trivial

/-- Texts are read at any depth. -/
@[simp] theorem fits_text (depth : Nat) (s : String) : Fits depth (.text s) := by
  cases depth <;> trivial

/-- Numbers are read at any depth, if they are spelled as they may be and have a value. -/
@[simp] theorem fits_number {depth : Nat} {n : Numeral} :
    Fits depth (.number n) ↔ n.Spelled ∧ ∃ value, n.number? = .ok value := by
  cases depth <;> rfl

/-- A list takes one container of what may be inside one another. -/
@[simp] theorem fits_list {depth : Nat} {vs : List Value} :
    Fits (depth + 1) (.list vs) ↔ ∀ v ∈ vs, v.Fits depth := .rfl

/-- An object takes one container of what may be inside one another. -/
@[simp] theorem fits_object {depth : Nat} {ms : List (String × Value)} :
    Fits (depth + 1) (.object ms) ↔ ∀ m ∈ ms, m.2.Fits depth := .rfl

/-- Whether a text is at the end of a value: it is empty, or a container goes on or ends there. -/
def Ends (rest : List Char) : Prop := ∀ c ∈ rest.head?, c = ',' ∨ c = ']' ∨ c = '}'

/-- An empty text is at the end of a value. -/
theorem Ends.nil : Ends [] := by simp [Ends]

/-- What ends a value ends a number. -/
theorem Ends.endsNumber {rest : List Char} (ends : Ends rest) : Numeral.EndsNumber rest := by
  intro c hc
  obtain rfl | rfl | rfl := ends c hc <;> decide

/-- Whether a text starts with what may be a value. -/
def Opens (s : List Char) : Prop := ∃ c rest, s = c :: rest ∧ isGap c = false ∧ c ≠ ']'

/-! ## The first character -/

/-- A text that starts with a value is read from its first character on. -/
theorem startValue_cons {c : Char} (h : isGap c = false) (s : List Char) :
    startValue (c :: s) = .ok (c :: s) := by
  rw [startValue, skipBlank_cons_of_not_gap h]

/-- A sign or a digit is no blank and closes no list. -/
theorem not_gap_of_startsNumber {c : Char} (h : startsNumber c = true) :
    isGap c = false ∧ c ≠ ']' := by
  refine ⟨?_, by rintro rfl; simp [startsNumber] at h⟩
  by_contra hgap
  simp only [isGap, Bool.not_eq_false, Bool.or_eq_true, decide_eq_true_eq] at hgap
  obtain ((rfl | rfl) | rfl) | rfl := hgap <;> simp [startsNumber] at h

/-- The text of a tree starts a value. -/
theorem opens_write {v : Value} {depth : Nat} (fits : v.Fits depth) (rest : List Char) :
    Opens (v.write rest) := by
  cases v with
  | null => exact ⟨_, _, rfl, rfl, by decide⟩
  | boolean b => cases b <;> exact ⟨_, _, rfl, rfl, by decide⟩
  | number n =>
    obtain ⟨c, s, hchars, hstarts⟩ := Numeral.exists_cons_chars (fits_number.mp fits).1
    exact ⟨c, s ++ rest, by rw [write, hchars, List.cons_append], not_gap_of_startsNumber hstarts⟩
  | text s => exact ⟨_, _, rfl, rfl, by decide⟩
  | list vs => cases vs <;> exact ⟨_, _, rfl, rfl, by decide⟩
  | object ms => cases ms <;> exact ⟨_, _, rfl, rfl, by decide⟩

/-! ## The inside of a container -/

/-- What stands between the opening bracket of a list, or one of its items, and what follows the
list. -/
def itemsText : (first : Bool) → List Value → List Char → List Char
  | true, v :: vs, rest => v.write (writeItems vs rest)
  | _, vs, rest => writeItems vs rest

/-- What stands between the opening brace of an object, or one of its members, and what follows the
object. -/
def membersText : (first : Bool) → List (String × Value) → List Char → List Char
  | true, (k, v) :: ms, rest => Quoted.write k (':' :: v.write (writeMembers ms rest))
  | _, ms, rest => writeMembers ms rest

/-- A list is written between brackets. -/
theorem write_list (vs : List Value) (rest : List Char) :
    write (.list vs) rest = '[' :: itemsText true vs rest := by cases vs <;> rfl

/-- An object is written between braces. -/
theorem write_object (ms : List (String × Value)) (rest : List Char) :
    write (.object ms) rest = '{' :: membersText true ms rest := by cases ms <;> rfl

/-- An item ends where a list goes on or ends. -/
theorem ends_itemsText (vs : List Value) (rest : List Char) : Ends (itemsText false vs rest) := by
  cases vs <;> simp [Ends, itemsText, writeItems]

/-- A member ends where an object goes on or ends. -/
theorem ends_membersText (ms : List (String × Value)) (rest : List Char) :
    Ends (membersText false ms rest) := by
  cases ms <;> simp [Ends, membersText, writeMembers]

/-- A list ends in front of its bracket. -/
theorem nextItem_itemsText_nil (first : Bool) (rest : List Char) :
    nextItem first (itemsText first [] rest) = .ok (false, ']' :: rest) := by
  cases first <;> rfl

/-- The next item of a list follows, behind a comma unless it is the first. -/
theorem nextItem_itemsText_cons {v : Value} {depth : Nat} (fits : v.Fits depth) (first : Bool)
    (vs : List Value) (rest : List Char) :
    nextItem first (itemsText first (v :: vs) rest)
      = .ok (true, v.write (itemsText false vs rest)) := by
  obtain ⟨c, s, hwrite, hgap, hc⟩ := opens_write fits (writeItems vs rest)
  have hcomma : isGap ',' = false := rfl
  cases first <;>
    simp [nextItem, itemsText, writeItems, hwrite, skipBlank_cons_of_not_gap, hgap, hcomma, hc]

/-- An object ends in front of its brace. -/
theorem nextKey_membersText_nil (first : Bool) (rest : List Char) :
    nextKey first (membersText first [] rest) = .ok (none, '}' :: rest) := by
  cases first <;> rfl

/-- The next key of an object follows, behind a comma unless it is the first. -/
theorem nextKey_membersText_cons (first : Bool) (m : String × Value)
    (ms : List (String × Value)) (rest : List Char) :
    nextKey first (membersText first (m :: ms) rest)
      = .ok (some m.1, ':' :: m.2.write (membersText false ms rest)) := by
  have hcomma : isGap ',' = false := rfl
  have hquote : isGap '"' = false := rfl
  cases first <;>
    simp [nextKey, membersText, writeMembers, Quoted.write, skipBlank_cons_of_not_gap, hcomma,
      hquote, Quoted.read_write, Except.map]

/-- The colon after a key is taken. -/
theorem readColon_cons (s : List Char) : readColon (':' :: s) = .ok s := rfl

/-! ### What follows a container -/

/-- What follows a member of an object stands at its end. -/
theorem suffix_member (k : String) {s t : List Char} (h : s <:+ t) :
    s <:+ Quoted.write k (':' :: t) :=
  (h.trans (List.suffix_cons ':' t)).trans (Quoted.suffix_write k _)

mutual

/-- What follows a value stands at its end. -/
theorem suffix_write : ∀ (v : Value) (rest : List Char), rest <:+ v.write rest
  | .null, _ => ⟨['n', 'u', 'l', 'l'], rfl⟩
  | .boolean true, _ => ⟨['t', 'r', 'u', 'e'], rfl⟩
  | .boolean false, _ => ⟨['f', 'a', 'l', 's', 'e'], rfl⟩
  | .number n, rest => List.suffix_append n.chars rest
  | .text s, rest => Quoted.suffix_write s rest
  | .list [], _ => ⟨['[', ']'], rfl⟩
  | .list (v :: vs), rest =>
    have hitems := (List.suffix_cons _ _).trans (suffix_writeItems vs rest)
    (hitems.trans (suffix_write v _)).trans (List.suffix_cons '[' _)
  | .object [], _ => ⟨['{', '}'], rfl⟩
  | .object ((k, v) :: ms), rest =>
    have hmembers := (List.suffix_cons _ _).trans (suffix_writeMembers ms rest)
    (suffix_member k (hmembers.trans (suffix_write v _))).trans (List.suffix_cons '{' _)

/-- A list is closed in front of what follows it. -/
theorem suffix_writeItems : ∀ (vs : List Value) (rest : List Char),
    ']' :: rest <:+ writeItems vs rest
  | [], _ => List.suffix_rfl
  | v :: vs, rest =>
    ((suffix_writeItems vs rest).trans (suffix_write v _)).trans (List.suffix_cons ',' _)

/-- An object is closed in front of what follows it. -/
theorem suffix_writeMembers : ∀ (ms : List (String × Value)) (rest : List Char),
    '}' :: rest <:+ writeMembers ms rest
  | [], _ => List.suffix_rfl
  | (k, v) :: ms, rest =>
    have hmembers := suffix_writeMembers ms rest
    (suffix_member k (hmembers.trans (suffix_write v _))).trans (List.suffix_cons ',' _)

end

/-- The closing brace of an object stands in front of what follows it. -/
theorem suffix_write_object (ms : List (String × Value)) (rest : List Char) :
    '}' :: rest <:+ write (.object ms) rest := by
  cases ms with
  | nil => exact List.suffix_cons '{' _
  | cons m ms =>
    have hmembers := suffix_writeMembers ms rest
    exact (suffix_member m.1 (hmembers.trans (suffix_write m.2 _))).trans (List.suffix_cons '{' _)

/-- The items of a list are no more than the characters of its text. -/
theorem length_lt_writeItems (vs : List Value) (rest : List Char) :
    vs.length < (writeItems vs rest).length := by
  induction vs with
  | nil => simp [writeItems]
  | cons v vs ih =>
    have hle := (suffix_write v (writeItems vs rest)).length_le
    simp only [writeItems, List.length_cons]
    omega

/-- A list has no more items than its text has characters. -/
theorem length_le_itemsText (first : Bool) (vs : List Value) (rest : List Char) :
    vs.length ≤ (itemsText first vs rest).length := by
  cases first with
  | false => exact (length_lt_writeItems vs rest).le
  | true =>
    cases vs with
    | nil => exact Nat.zero_le _
    | cons v vs =>
      have hlt := length_lt_writeItems vs rest
      have hle := (suffix_write v (writeItems vs rest)).length_le
      simp only [itemsText, List.length_cons]
      omega

/-- The members of an object are no more than the characters of its text. -/
theorem length_lt_writeMembers (ms : List (String × Value)) (rest : List Char) :
    ms.length < (writeMembers ms rest).length := by
  induction ms with
  | nil => simp [writeMembers]
  | cons m ms ih =>
    have hle := (suffix_member m.1 (suffix_write m.2 (writeMembers ms rest))).length_le
    simp only [writeMembers, List.length_cons]
    omega

/-- An object has no more members than its text has characters. -/
theorem length_le_membersText (first : Bool) (ms : List (String × Value)) (rest : List Char) :
    ms.length ≤ (membersText first ms rest).length := by
  cases first with
  | false => exact (length_lt_writeMembers ms rest).le
  | true =>
    cases ms with
    | nil => exact Nat.zero_le _
    | cons m ms =>
      have hlt := length_lt_writeMembers ms rest
      have hle := (suffix_member m.1 (suffix_write m.2 (writeMembers ms rest))).length_le
      simp only [membersText, List.length_cons]
      omega

/-! ## Reading a tree -/

/-! ### Dispatch on the first character -/

/-- A value that starts with a quote is a text. -/
theorem read_quote (depth : Nat) (s : List Char) :
    Value.read depth ('"' :: s) = (Quoted.read s).map fun (t, rest) => (.text t, rest) := by
  rw [Value.read]
  rfl

/-- A value that starts with a bracket is a list. -/
theorem read_bracket (depth : Nat) (s : List Char) :
    Value.read (depth + 1) ('[' :: s)
      = (closeList (readItems (Value.read depth) (s.length + 1) true s)).map
          fun (items, rest) => (.list items, rest) := by
  rw [Value.read]
  rfl

/-- A value that starts with a brace is an object. -/
theorem read_brace (depth : Nat) (s : List Char) :
    Value.read (depth + 1) ('{' :: s)
      = (closeObject (readMembers (Value.read depth) (s.length + 1) true s)).map
          fun (members, rest) => (.object members, rest) := by
  rw [Value.read]
  rfl

/-- What starts with a sign or a digit is read as a number. -/
theorem read_of_startsNumber {c : Char} (h : startsNumber c = true) (depth : Nat) (s : List Char) :
    Value.read depth (c :: s)
      = (readNumber (c :: s)).map fun ((numeral, _), rest) => (.number numeral, rest) := by
  rw [Value.read, startValue_cons (not_gap_of_startsNumber h).1]
  simp only [bind, Except.bind]
  -- None of the other characters that start a value is a sign or a digit.
  split
  case h_7 _ heq =>
    obtain ⟨rfl, rfl⟩ := List.cons.inj heq
    rw [if_pos h]
  all_goals simp_all [startsNumber]

/-! ### From the parts to the whole -/

/-- A number is read back with its value. -/
theorem readNumber_append {n : Numeral} {value : Number} (spelled : n.Spelled)
    (hvalue : n.number? = .ok value) {rest : List Char} (ends : Ends rest) :
    readNumber (n.chars ++ rest) = .ok ((n, value), rest) := by
  simp only [readNumber, Numeral.read_chars spelled .valueUnfinished ends.endsNumber, hvalue, bind,
    Except.bind]

/-- The items of a list are read back if each of them is. -/
theorem readItems_itemsText {depth : Nat} {vs : List Value} (fits : ∀ v ∈ vs, v.Fits depth)
    (h : ∀ v ∈ vs, ∀ rest, Ends rest → Value.read depth (v.write rest) = .ok (v, rest))
    {bound : Nat} (hbound : vs.length < bound) (first : Bool) (rest : List Char) :
    readItems (Value.read depth) bound first (itemsText first vs rest) = .ok (vs, ']' :: rest) := by
  induction vs generalizing bound first with
  | nil =>
    obtain ⟨bound, rfl⟩ := Nat.exists_eq_succ_of_ne_zero (Nat.ne_zero_of_lt hbound)
    simp [readItems, nextItem_itemsText_nil, bind, Except.bind]
  | cons v vs ih =>
    obtain ⟨bound, rfl⟩ := Nat.exists_eq_succ_of_ne_zero (Nat.ne_zero_of_lt hbound)
    obtain ⟨hfits, fits⟩ := List.forall_mem_cons.mp fits
    obtain ⟨hv, h⟩ := List.forall_mem_cons.mp h
    have hitem := hv (itemsText false vs rest) (ends_itemsText vs rest)
    have hitems := ih fits h (Nat.lt_of_succ_lt_succ hbound) false
    simp [readItems, nextItem_itemsText_cons hfits, hitem, hitems, bind, Except.bind]

/-- The members of an object are read back if each of their values is. -/
theorem readMembers_membersText {depth : Nat} {ms : List (String × Value)}
    (h : ∀ m ∈ ms, ∀ rest, Ends rest → Value.read depth (m.2.write rest) = .ok (m.2, rest))
    {bound : Nat} (hbound : ms.length < bound) (first : Bool) (rest : List Char) :
    readMembers (Value.read depth) bound first (membersText first ms rest)
      = .ok (ms, '}' :: rest) := by
  induction ms generalizing bound first with
  | nil =>
    obtain ⟨bound, rfl⟩ := Nat.exists_eq_succ_of_ne_zero (Nat.ne_zero_of_lt hbound)
    simp [readMembers, nextKey_membersText_nil, bind, Except.bind]
  | cons m ms ih =>
    obtain ⟨bound, rfl⟩ := Nat.exists_eq_succ_of_ne_zero (Nat.ne_zero_of_lt hbound)
    obtain ⟨hm, h⟩ := List.forall_mem_cons.mp h
    have hvalue := hm (membersText false ms rest) (ends_membersText ms rest)
    have hmembers := ih h (Nat.lt_of_succ_lt_succ hbound) false
    simp [readMembers, nextKey_membersText_cons, readColon_cons, hvalue, hmembers, bind,
      Except.bind]

/-- **A tree is read back** from its text, wherever a value ends. -/
theorem read_write : ∀ {depth : Nat} {v : Value} {rest : List Char}, v.Fits depth → Ends rest →
    Value.read depth (v.write rest) = .ok (v, rest)
  | _, .null, _, _, _ => by
    rw [Value.read]
    rfl
  | _, .boolean b, _, _, _ => by
    rw [Value.read]
    cases b <;> rfl
  | _, .number n, _, fits, ends => by
    obtain ⟨spelled, value, hvalue⟩ := fits_number.mp fits
    obtain ⟨c, s, hchars, hstarts⟩ := Numeral.exists_cons_chars spelled
    have hread := readNumber_append spelled hvalue ends
    rw [hchars] at hread
    rw [write, hchars, List.cons_append, read_of_startsNumber hstarts, ← List.cons_append, hread]
    rfl
  | _, .text s, _, _, _ => by
    rw [write, Quoted.write, read_quote, Quoted.read_write]
    rfl
  | _ + 1, .list vs, rest, fits, _ => by
    -- The text that is left is long enough as fuel for all items.
    have hbound := Nat.lt_succ_of_le (length_le_itemsText true vs rest)
    have hitems := readItems_itemsText fits (fun v hv _ ends => read_write (fits v hv) ends) hbound
      true rest
    rw [write_list, read_bracket, hitems]
    rfl
  | _ + 1, .object ms, rest, fits, _ => by
    have hbound := Nat.lt_succ_of_le (length_le_membersText true ms rest)
    have hmembers := readMembers_membersText (fun m hm _ ends => read_write (fits m hm) ends) hbound
      true rest
    rw [write_object, read_brace, hmembers]
    rfl

/-! ## The characters of a text -/

mutual

/-- **The text of a tree has no control characters.** -/
theorem printable_write : ∀ {v : Value} {depth : Nat} {rest : List Char}, v.Fits depth →
    Printable rest → Printable (v.write rest)
  | .null, _, _, _, h => .append (s := ['n', 'u', 'l', 'l']) (by decide) h
  | .boolean true, _, _, _, h => .append (s := ['t', 'r', 'u', 'e']) (by decide) h
  | .boolean false, _, _, _, h => .append (s := ['f', 'a', 'l', 's', 'e']) (by decide) h
  | .number n, _, _, fits, h =>
    .append (Numeral.printable_chars (fits_number.mp fits).1) h
  | .text s, _, _, _, h => Quoted.printable_write s h
  | .list [], _, _, _, h => .cons (by decide) (.cons (by decide) h)
  | .list (v :: vs), _ + 1, _, fits, h =>
    have hv := List.forall_mem_cons.mp fits
    .cons (by decide) (printable_write hv.1 (printable_writeItems hv.2 h))
  | .object [], _, _, _, h => .cons (by decide) (.cons (by decide) h)
  | .object ((k, v) :: ms), _ + 1, _, fits, h =>
    have hm := List.forall_mem_cons.mp fits
    .cons (by decide) (Quoted.printable_write k
      (.cons (by decide) (printable_write hm.1 (printable_writeMembers hm.2 h))))

/-- The items of a list are printable, as far as its end. -/
theorem printable_writeItems : ∀ {vs : List Value} {depth : Nat} {rest : List Char},
    (∀ v ∈ vs, v.Fits depth) → Printable rest → Printable (writeItems vs rest)
  | [], _, _, _, h => .cons (by decide) h
  | v :: vs, _, _, fits, h =>
    have hv := List.forall_mem_cons.mp fits
    .cons (by decide) (printable_write hv.1 (printable_writeItems hv.2 h))

/-- The members of an object are printable, as far as its end. -/
theorem printable_writeMembers : ∀ {ms : List (String × Value)} {depth : Nat} {rest : List Char},
    (∀ m ∈ ms, m.2.Fits depth) → Printable rest → Printable (writeMembers ms rest)
  | [], _, _, _, h => .cons (by decide) h
  | (k, v) :: ms, _, _, fits, h =>
    have hm := List.forall_mem_cons.mp fits
    .cons (by decide) (Quoted.printable_write k
      (.cons (by decide) (printable_write hm.1 (printable_writeMembers hm.2 h))))

end

end Value

end TownTraffic.Json
