import TownTraffic.Proofs.Literals
import TownTraffic.Text.Blank
import TownTraffic.Text.Natural
import Mathlib.Data.List.Forall2
import Mathlib.Data.List.TakeWhile

/-!
# Texts that are typed

What is typed has blanks wherever they do no harm, letters in capitals or not, and numbers with
commas between them. Each kind of text is described apart from how it is read.

* **`Trimmed`**, **`trimmed_iff`** — a text between blanks.
* **`toLower_eq_iff`** — a letter, in capitals or not.
* **`Spells`**, **`natural_eq_ok_iff`** — how numbers are written, and that these are read.
* **`CutAtCommas`**, **`map_trim_splitOn_trim`** — the parts of a text; blanks around the whole text
  are blanks around its first and its last part.
* **`mapM_eq_ok_iff`**, **`mapM_eq_error_iff`** — a list that is read, and the first member at which
  it is not.
-/

namespace TownTraffic

namespace Text

/-! ## Blanks around a text -/

/-- Whether a text has nothing but blanks. -/
def Blank (s : List Char) : Prop := ∀ c ∈ s, isBlank c = true

/-- One look at every character tells whether there are only blanks. -/
instance (s : List Char) : Decidable (Blank s) :=
  decidable_of_iff (s.all isBlank = true) List.all_eq_true

/-- **Whether a text is another one with blanks around it**, which has none at its own ends. -/
structure Trimmed (s core : List Char) : Prop where
  around : ∃ before after, Blank before ∧ Blank after ∧ s = before ++ core ++ after
  first : ∀ c, core.head? = some c → isBlank c = false
  last : ∀ c, core.getLast? = some c → isBlank c = false

/-- What is left when the blanks in front are taken off does not start with one. -/
theorem isBlank_of_head?_dropWhile {s : List Char} {c : Char}
    (h : (s.dropWhile isBlank).head? = some c) : isBlank c = false := by
  have hfirst := List.head?_dropWhile_not isBlank s
  rwa [h] at hfirst

section

variable {s before after core : List Char}

/-- Blanks in front do not matter. -/
theorem trim_append_left (h : Blank before) : trim (before ++ s) = trim s := by
  rw [trim, List.dropWhile_append_of_pos h, trim]

/-- Blanks behind do not matter where only the end is trimmed. -/
theorem trimEnd_append (h : Blank after) : trimEnd (s ++ after) = trimEnd s := by
  have hreverse : ∀ c ∈ after.reverse, isBlank c = true := fun c hc => h c (List.mem_reverse.mp hc)
  rw [trimEnd, List.reverse_append, List.dropWhile_append_of_pos hreverse, trimEnd]

/-- Blanks behind do not matter. -/
theorem trim_append_right (h : Blank after) : trim (s ++ after) = trim s := by
  have hafter : after.dropWhile isBlank = [] := List.dropWhile_eq_nil_iff.mpr h
  rw [trim, trim, List.dropWhile_append]
  split
  case isTrue hempty => rw [hafter, List.isEmpty_iff.mp hempty]
  case isFalse => rw [trimEnd_append h]

/-- What is trimmed off is blank, and what is left has no blanks at its ends. -/
theorem trimmed_trim (s : List Char) : Trimmed s (trim s) := by
  set t := s.dropWhile isBlank with ht
  have hsplit : t = trim s ++ (t.reverse.takeWhile isBlank).reverse := by
    rw [trim, ← ht, trimEnd, ← List.reverse_append, List.takeWhile_append_dropWhile,
      List.reverse_reverse]
  constructor
  case around =>
    refine ⟨s.takeWhile isBlank, (t.reverse.takeWhile isBlank).reverse, ?_, ?_, ?_⟩
    · exact fun c hc => List.mem_takeWhile_imp hc
    · exact fun c hc => List.mem_takeWhile_imp (List.mem_reverse.mp hc)
    · rw [List.append_assoc, ← hsplit, ht, List.takeWhile_append_dropWhile]
  case first =>
    intro c hc
    -- The first character that is left is also the first behind the blanks in front.
    have hhead : t.head? = some c := by rw [hsplit, List.head?_append, hc, Option.some_or]
    exact isBlank_of_head?_dropWhile hhead
  case last =>
    intro c hc
    rw [trim, trimEnd, List.getLast?_reverse] at hc
    exact isBlank_of_head?_dropWhile hc

/-- **Trimming finds the text between the blanks.** -/
theorem trimmed_iff : Trimmed s core ↔ trim s = core := by
  constructor
  · rintro ⟨⟨before, after, hbefore, hafter, rfl⟩, hfirst, hlast⟩
    rw [trim_append_right hafter, trim_append_left hbefore, trim_eq_self hfirst hlast]
  · rintro rfl
    exact trimmed_trim s

end

/-! ## Letters -/

/-- Capital letters are moved to the small ones, and no other character is. -/
theorem toNat_toLower (c : Char) :
    c.toLower.toNat = if 65 ≤ c.toNat ∧ c.toNat ≤ 90 then c.toNat + 32 else c.toNat := by
  have hcapital : (c.val ≥ 'A'.val ∧ c.val ≤ 'Z'.val) ↔ 65 ≤ c.toNat ∧ c.toNat ≤ 90 := Iff.rfl
  unfold Char.toLower
  split
  case isTrue h =>
    rw [if_pos (hcapital.mp h)]
    obtain ⟨hlow, hhigh⟩ := hcapital.mp h
    show (c.val + 32).toNat = c.toNat + 32
    rw [UInt32.toNat_add, Nat.mod_eq_of_lt]
    · rfl
    · show c.toNat + 32 < _
      omega
  case isFalse h => rw [if_neg (mt hcapital.mpr h)]

/-- A small letter stands for itself and for its capital. -/
theorem toLower_eq_iff {small capital : Char}
    (hcapital : 65 ≤ capital.toNat ∧ capital.toNat ≤ 90)
    (hsmall : small.toNat = capital.toNat + 32) (c : Char) :
    c.toLower = small ↔ c = small ∨ c = capital := by
  rw [← Char.toNat_inj, ← Char.toNat_inj, ← Char.toNat_inj, toNat_toLower]
  split <;> omega

/-! ## Numbers -/

open Json.Numeral (Digits digits_toDigits)

/-- **How a number is written**: in decimal digits, at least one, behind an optional plus sign. -/
inductive Spells : List Char → Nat → Prop
  | bare {digits : List Char} (ne_nil : digits ≠ []) (all : Digits digits) :
    Spells digits (Nat.ofDigitChars 10 digits 0)
  | signed {digits : List Char} (ne_nil : digits ≠ []) (all : Digits digits) :
    Spells ('+' :: digits) (Nat.ofDigitChars 10 digits 0)

/-- A number is written by its digits. -/
theorem spells_digitsOf (n : Nat) : Spells (digitsOf n) n := by
  have hspells := Spells.bare Nat.toDigits_ne_nil (digits_toDigits n)
  rwa [Nat.ofDigitChars_ten_toDigits] at hspells

/-- After a plus sign there are digits, and their value is the number. -/
theorem spells_signed_iff {s : List Char} {n : Nat} :
    Spells ('+' :: s) n ↔ s ≠ [] ∧ Digits s ∧ Nat.ofDigitChars 10 s 0 = n := by
  constructor
  · intro hspells
    cases hspells with
    | bare _ all => exact absurd (all '+' List.mem_cons_self) (by decide)
    | signed ne_nil all => exact ⟨ne_nil, all, rfl⟩
  · rintro ⟨ne_nil, all, rfl⟩
    exact .signed ne_nil all

/-- Without a plus sign there are digits only, and their value is the number. -/
theorem spells_iff {s : List Char} {n : Nat} (unsigned : ∀ rest, s ≠ '+' :: rest) :
    Spells s n ↔ s ≠ [] ∧ Digits s ∧ Nat.ofDigitChars 10 s 0 = n := by
  constructor
  · intro hspells
    cases hspells with
    | bare ne_nil all => exact ⟨ne_nil, all, rfl⟩
    | signed _ _ => exact absurd rfl (unsigned _)
  · rintro ⟨ne_nil, all, rfl⟩
    exact .bare ne_nil all

/-- A digit is as much as it is away from zero. -/
theorem digit?_eq (c : Char) :
    digit? c = if c.isDigit = true then some (c.toNat - '0'.toNat) else none := by
  have hiff : ('0' ≤ c ∧ c ≤ '9') ↔ c.isDigit = true := by
    rw [Char.isDigit_iff_toNat, Char.le_def, Char.le_def]
    exact Iff.rfl
  rw [digit?, if_congr hiff rfl rfl]

/-- More digits do not make a number smaller. -/
theorem le_ofDigitChars (s : List Char) (value : Nat) : value ≤ Nat.ofDigitChars 10 s value := by
  rw [Nat.ofDigitChars_eq_ofDigitChars_zero]
  exact Nat.le_add_right_of_le (Nat.le_mul_of_pos_left _ (Nat.pow_pos (by decide)))

/-- Digits are read on just if the whole number stays below the bound. -/
theorem naturalFrom_eq_ok_iff {bound value : Nat} (h : value < bound) (s : List Char) (n : Nat) :
    naturalFrom bound value s = .ok n
      ↔ Digits s ∧ Nat.ofDigitChars 10 s value = n ∧ n < bound := by
  -- On the digits, for any value read so far that is below the bound.
  induction s generalizing value with
  | nil =>
    rw [naturalFrom, Except.ok.injEq, Nat.ofDigitChars_nil]
    constructor
    · rintro rfl
      exact ⟨by simp [Digits], rfl, h⟩
    · exact fun hn => hn.2.1
  | cons c s ih =>
    rw [naturalFrom, digit?_eq, Nat.ofDigitChars_cons, Nat.mul_comm 10 value]
    by_cases hc : c.isDigit = true
    · have hdigits : Digits (c :: s) ↔ Digits s := by simp [Digits, hc]
      rw [if_pos hc, hdigits]
      dsimp only
      by_cases hlt : value * 10 + (c.toNat - '0'.toNat) < bound
      · rw [if_pos hlt, ih hlt]
      · rw [if_neg hlt]
        constructor
        · rintro ⟨⟩
        · -- Once the bound is reached, the number does not get below it again.
          rintro ⟨-, rfl, hbound⟩
          exact absurd ((le_ofDigitChars s _).trans_lt hbound) hlt
    · rw [if_neg hc]
      constructor
      · rintro ⟨⟩
      · rintro ⟨hdigits, -⟩
        exact absurd (hdigits c List.mem_cons_self) hc

/-- **A number is read just if it is written and below the bound.** -/
theorem natural_eq_ok_iff {bound : Nat} (h : 0 < bound) (s : List Char) (n : Nat) :
    natural bound s = .ok n ↔ Spells s n ∧ n < bound := by
  unfold natural
  split
  case h_1 => simp [spells_iff]
  case h_2 => simp [spells_signed_iff]
  case h_3 digits hne =>
    have hne : digits ≠ [] := hne
    rw [naturalFrom_eq_ok_iff h, spells_signed_iff, and_assoc, and_iff_right hne, and_assoc]
  case h_4 hne _ hunsigned =>
    rw [naturalFrom_eq_ok_iff h, spells_iff hunsigned, and_assoc, and_iff_right hne, and_assoc]

/-- A digit is no blank. -/
theorem isBlank_of_isDigit {c : Char} (h : c.isDigit = true) : isBlank c = false := by
  have hbounds : 48 ≤ c.toNat ∧ c.toNat ≤ 57 := Char.isDigit_iff_toNat.mp h
  simp only [isBlank, Bool.or_eq_false_iff, Bool.and_eq_false_iff, beq_eq_false_iff_ne,
    decide_eq_false_iff_not]
  omega

/-! ## Parts between commas -/

/-- **Whether a text is cut at its commas** into parts. -/
structure CutAtCommas (s : List Char) (parts : List (List Char)) : Prop where
  joined : [','].intercalate parts = s
  ne_nil : parts ≠ []
  free : ∀ part ∈ parts, ',' ∉ part

/-- No part of a text that is cut at its commas has a comma. -/
theorem not_mem_of_mem_splitOn {s part : List Char} (h : part ∈ s.splitOn ',') : ',' ∉ part := by
  induction s generalizing part with
  | nil =>
    rw [List.splitOn_nil, List.mem_singleton] at h
    simp [h]
  | cons c s ih =>
    rw [List.splitOn_cons_eq_if_modifyHead] at h
    split at h
    case isTrue =>
      rcases List.mem_cons.mp h with rfl | hpart
      · simp
      · exact ih hpart
    case isFalse hc =>
      obtain ⟨p, ps, hparts⟩ := List.exists_cons_of_ne_nil (List.splitOn_ne_nil ',' s)
      rw [hparts, List.modifyHead_cons] at h
      rcases List.mem_cons.mp h with rfl | hpart
      · rw [List.mem_cons, not_or]
        exact ⟨fun heq => hc (by simp [← heq]), ih (by simp [hparts])⟩
      · exact ih (by simp [hparts, hpart])

/-- A text is cut at its commas in one way. -/
theorem cutAtCommas_iff {s : List Char} {parts : List (List Char)} :
    CutAtCommas s parts ↔ s.splitOn ',' = parts := by
  constructor
  · rintro ⟨rfl, hne, hfree⟩
    exact List.splitOn_intercalate ',' hfree hne
  · rintro rfl
    exact ⟨List.intercalate_splitOn ',', List.splitOn_ne_nil ',' s,
      fun part hpart => not_mem_of_mem_splitOn hpart⟩

/-- A blank is no comma. -/
theorem Blank.not_mem {s : List Char} (h : Blank s) : ',' ∉ s :=
  fun hcomma => absurd (h ',' hcomma) (by decide)

namespace CutAtCommas

variable {s before after part : List Char} {parts : List (List Char)}

/-- Blanks in front of a text are in front of its first part. -/
theorem append_left (cut : CutAtCommas s (part :: parts)) (h : Blank before) :
    CutAtCommas (before ++ s) ((before ++ part) :: parts) where
  joined := by
    rw [← cut.joined]
    cases parts with
    | nil => rw [List.intercalate_singleton, List.intercalate_singleton]
    | cons next parts =>
      rw [List.intercalate_cons_cons, List.intercalate_cons_cons, List.append_assoc,
        List.append_assoc, List.append_assoc]
  ne_nil := List.cons_ne_nil _ _
  free := by
    obtain ⟨hpart, hparts⟩ := List.forall_mem_cons.mp cut.free
    refine List.forall_mem_cons.mpr ⟨?_, hparts⟩
    rw [List.mem_append, not_or]
    exact ⟨h.not_mem, hpart⟩

/-- Blanks behind a text are behind its last part. -/
theorem append_right (cut : CutAtCommas s (parts ++ [part])) (h : Blank after) :
    CutAtCommas (s ++ after) (parts ++ [part ++ after]) where
  joined := by
    rw [← cut.joined]
    clear cut
    induction parts with
    | nil => rw [List.nil_append, List.nil_append, List.intercalate_singleton,
        List.intercalate_singleton]
    | cons first parts ih =>
      rw [List.cons_append, List.cons_append, List.intercalate_cons_of_ne_nil (by simp),
        List.intercalate_cons_of_ne_nil (by simp), ih, List.append_assoc, List.append_assoc,
        List.append_assoc]
  ne_nil := by simp
  free := by
    obtain ⟨hparts, hpart⟩ := List.forall_mem_append.mp cut.free
    refine List.forall_mem_append.mpr ⟨hparts, List.forall_mem_singleton.mpr ?_⟩
    rw [List.mem_append, not_or]
    exact ⟨hpart part (List.mem_singleton_self _), h.not_mem⟩

end CutAtCommas

/-- **Blanks around a text are blanks around its parts.** Whether the whole text is trimmed or not,
its trimmed parts are the same. -/
theorem map_trim_splitOn_trim (s : List Char) :
    ((trim s).splitOn ',').map trim = (s.splitOn ',').map trim := by
  obtain ⟨before, after, hbefore, hafter, hs⟩ := (trimmed_trim s).around
  set t := trim s
  obtain ⟨first, rest, hfirst⟩ := List.exists_cons_of_ne_nil (List.splitOn_ne_nil ',' t)
  have hleft := (cutAtCommas_iff.mpr hfirst).append_left hbefore
  -- The first part may be the last one as well: the blanks in front are put there beforehand.
  obtain hnil | ⟨init, last, hlast⟩ := List.eq_nil_or_concat' ((before ++ first) :: rest)
  · cases hnil
  · rw [hlast] at hleft
    have hboth := hleft.append_right hafter
    calc (t.splitOn ',').map trim
        = ((before ++ first) :: rest).map trim := by
          rw [hfirst, List.map_cons, List.map_cons, trim_append_left hbefore]
      _ = (init ++ [last ++ after]).map trim := by
          rw [hlast, List.map_append, List.map_append, List.map_singleton, List.map_singleton,
            trim_append_right hafter]
      _ = (s.splitOn ',').map trim := by rw [hs, cutAtCommas_iff.mp hboth]

end Text

/-! ## Results -/

section Results

variable {α β ε ε' : Type}

/-- Renaming an error makes no result. -/
theorem mapError_eq_ok_iff {x : Except ε α} {f : ε → ε'} {a : α} :
    x.mapError f = .ok a ↔ x = .ok a := by
  cases x <;> simp [Except.mapError]

/-- A function of the result keeps the error. -/
theorem map_eq_error_iff {x : Except ε α} {f : α → β} {e : ε} :
    x.map f = .error e ↔ x = .error e := by
  cases x <;> simp [Except.map]

/-- Two stages end well if both of them do. -/
theorem bind_eq_ok_iff {x : Except ε α} {f : α → Except ε β} {b : β} :
    x >>= f = .ok b ↔ ∃ a, x = .ok a ∧ f a = .ok b := by
  cases x with
  | error e =>
    constructor
    · rintro ⟨⟩
    · rintro ⟨a, ⟨⟩, -⟩
  | ok a =>
    constructor
    · exact fun h => ⟨a, rfl, h⟩
    · rintro ⟨a', ⟨⟩, h⟩
      exact h

variable {f : α → Except ε β} {x : α} {xs : List α}

/-- A list is turned into results if its first member is, and the others are. -/
theorem mapM_cons_eq_ok_iff {ys : List β} : (x :: xs).mapM f = .ok ys
    ↔ ∃ y ys', f x = .ok y ∧ xs.mapM f = .ok ys' ∧ ys = y :: ys' := by
  simp only [List.mapM_cons, bind_eq_ok_iff]
  constructor
  · rintro ⟨y, hy, ys', hys', ⟨⟩⟩
    exact ⟨y, ys', hy, hys', rfl⟩
  · rintro ⟨y, ys', hy, hys', rfl⟩
    exact ⟨y, hy, ys', hys', rfl⟩

/-- A list fails at its first member, or later if its first member does not fail. -/
theorem mapM_cons_eq_error_iff {e : ε} : (x :: xs).mapM f = .error e
    ↔ f x = .error e ∨ (∃ y, f x = .ok y) ∧ xs.mapM f = .error e := by
  rw [List.mapM_cons]
  cases hx : f x with
  | error e' =>
    constructor
    · rintro ⟨⟩
      exact .inl rfl
    · rintro (⟨⟨⟩⟩ | ⟨⟨y, ⟨⟩⟩, -⟩)
      rfl
  | ok y =>
    cases hxs : xs.mapM f with
    | error e' =>
      constructor
      · rintro ⟨⟩
        exact .inr ⟨⟨y, rfl⟩, rfl⟩
      · rintro (⟨⟨⟩⟩ | ⟨-, ⟨⟩⟩)
        rfl
    | ok ys =>
      constructor
      · rintro ⟨⟩
      · rintro (⟨⟨⟩⟩ | ⟨-, ⟨⟩⟩)

/-- **A list is mapped just if each of its members is.** -/
theorem mapM_eq_ok_iff {ys : List β} :
    xs.mapM f = .ok ys ↔ List.Forall₂ (fun x y => f x = .ok y) xs ys := by
  induction xs generalizing ys with
  | nil =>
    rw [List.mapM_nil, List.forall₂_nil_left_iff]
    show Except.ok [] = Except.ok ys ↔ _
    rw [Except.ok.injEq]
    exact eq_comm
  | cons x xs ih => simp only [mapM_cons_eq_ok_iff, List.forall₂_cons_left_iff, ih]

/-- **A list is not mapped just if one of its members is the first that is not.** -/
theorem mapM_eq_error_iff {e : ε} :
    xs.mapM f = .error e ↔ ∃ before x after, xs = before ++ x :: after
      ∧ (∀ y ∈ before, ∃ z, f y = .ok z) ∧ f x = .error e := by
  -- The first member fails, or the first failing one is among the others.
  induction xs with
  | nil =>
    constructor
    · rintro ⟨⟩
    · rintro ⟨before, x, after, heq, -⟩
      simp at heq
  | cons x xs ih =>
    rw [mapM_cons_eq_error_iff, ih]
    constructor
    · rintro (hx | ⟨hx, before, bad, after, rfl, hbefore, hbad⟩)
      · exact ⟨[], x, xs, rfl, List.forall_mem_nil _, hx⟩
      · exact ⟨x :: before, bad, after, rfl, List.forall_mem_cons.mpr ⟨hx, hbefore⟩, hbad⟩
    · rintro ⟨before, bad, after, heq, hbefore, hbad⟩
      cases before with
      | nil =>
        obtain ⟨rfl, rfl⟩ := List.cons.inj heq
        exact .inl hbad
      | cons first before =>
        obtain ⟨rfl, rfl⟩ := List.cons.inj heq
        obtain ⟨hx, hbefore⟩ := List.forall_mem_cons.mp hbefore
        exact .inr ⟨hx, before, bad, after, rfl, hbefore, hbad⟩

end Results

end TownTraffic
