import TownTraffic.Screen.Selection
import TownTraffic.Proofs.Entries

/-!
# How selections are written

A selection is the word for all spots, or numbers between commas; blanks may stand around the text
and around each number. What is read is what is written so, and a text that is not is refused for
the first of its parts that is no number.

* **`SaysAll`**, **`Names`** — the word for all spots, and the number of one.
* **`Written`**, **`Refused`** — how selections are written, and where a text is none.
* **`ofChars_eq_ok_iff`**, **`ofChars_eq_error_iff`** — what is read and what is refused.
* **`Typed`**, **`written_listed`** — numbers as they are typed are a selection.
* **`reads_written`** — selections are read as they are written.
-/

namespace TownTraffic

namespace Selection

open Text

/-- Whether a text is the word for all spots, in capitals or not. -/
def SaysAll (s : List Char) : Prop :=
  ∃ first second third, s = [first, second, third] ∧ (first = 'a' ∨ first = 'A')
    ∧ (second = 'l' ∨ second = 'L') ∧ (third = 'l' ∨ third = 'L')

/-- Whether a part of a text is the number of a spot, with blanks around it. -/
def Names (part : List Char) (spot : Nat) : Prop :=
  ∃ s, Trimmed part s ∧ Spells s spot ∧ spot < UInt64.size

/-- **How a selection is written.** -/
inductive Written : List Char → Selection → Prop
  /-- The word for all spots. -/
  | all {s t : List Char} (trimmed : Trimmed s t) (word : SaysAll t) : Written s .all
  /-- Numbers between commas. -/
  | only {s t : List Char} {parts : List (List Char)} {spots : List Nat} (trimmed : Trimmed s t)
    (cut : CutAtCommas t parts) (names : List.Forall₂ Names parts spots) : Written s (.only spots)

/-- **Where a text is no selection**: it is not the word for all spots, and one of its parts, which
is given without the blanks around it, is the first that is no number of a spot. -/
inductive Refused : List Char → List Char → Prop
  | first {s t bad core : List Char} {before after : List (List Char)} (trimmed : Trimmed s t)
    (word : ¬ SaysAll t) (cut : CutAtCommas t (before ++ bad :: after))
    (named : ∀ part ∈ before, ∃ spot, Names part spot) (unnamed : ∀ spot, ¬ Names bad spot)
    (core_eq : Trimmed bad core) : Refused s core

/-! ### The word for all spots -/

/-- A word is the one for all spots if its small letters spell it. -/
theorem map_toLower_eq_iff (s : List Char) :
    s.map Char.toLower = ['a', 'l', 'l'] ↔ SaysAll s := by
  have ha (c : Char) : c.toLower = 'a' ↔ c = 'a' ∨ c = 'A' := toLower_eq_iff (by decide) rfl c
  have hl (c : Char) : c.toLower = 'l' ↔ c = 'l' ∨ c = 'L' := toLower_eq_iff (by decide) rfl c
  match s with
  | [] => simp [SaysAll]
  | [_] => simp [SaysAll]
  | [_, _] => simp [SaysAll]
  | [first, second, third] => simp [SaysAll, ha, hl]
  | _ :: _ :: _ :: _ :: _ => simp [SaysAll]

/-- A number of a spot has only blanks, digits and a sign. -/
theorem Names.of_mem {part : List Char} {spot : Nat} (h : Names part spot) {c : Char}
    (hc : c ∈ part) : isBlank c = true ∨ c = '+' ∨ c.isDigit = true := by
  obtain ⟨s, trimmed, hspells, -⟩ := h
  obtain ⟨before, after, hbefore, hafter, rfl⟩ := trimmed.around
  rw [List.mem_append, List.mem_append] at hc
  obtain (hc | hc) | hc := hc
  · exact .inl (hbefore c hc)
  · cases hspells with
    | bare _ hall => exact .inr (.inr (hall c hc))
    | signed _ hall =>
      obtain rfl | hc := List.mem_cons.mp hc
      · exact .inr (.inl rfl)
      · exact .inr (.inr (hall c hc))
  · exact .inl (hafter c hc)

/-- The word for all spots is no number. -/
theorem SaysAll.not_names {s : List Char} (h : SaysAll s) {parts : List (List Char)}
    {spots : List Nat} (cut : CutAtCommas s parts) : ¬ List.Forall₂ Names parts spots := by
  intro hnames
  obtain ⟨first, second, third, rfl, hfirst, hsecond, hthird⟩ := h
  -- The word has no comma, so that it is its only part, and begins with no digit.
  have hwhole : CutAtCommas [first, second, third] [[first, second, third]] := by
    refine ⟨List.intercalate_singleton, by simp, ?_⟩
    obtain rfl | rfl := hfirst <;> obtain rfl | rfl := hsecond <;> obtain rfl | rfl := hthird <;>
      decide
  obtain rfl := (cutAtCommas_iff.mp cut).symm.trans (cutAtCommas_iff.mp hwhole)
  obtain ⟨spot, -, hname, -⟩ := List.forall₂_cons_left_iff.mp hnames
  have hletter := hname.of_mem (c := first) (by simp)
  obtain rfl | rfl := hfirst <;> revert hletter <;> decide

/-! ### Parts -/

/-- A part is trimmed and read as a number that fits; what cannot be read is reported as it is,
trimmed. -/
theorem spotOf_eq (part : List Char) : spotOf part
    = (natural UInt64.size (trim part)).mapError fun reason => ⟨.ofList (trim part), reason⟩ := rfl

/-- Only what is left when a part is trimmed makes it a number. -/
theorem names_iff {part : List Char} {spot : Nat} :
    Names part spot ↔ Spells (trim part) spot ∧ spot < UInt64.size := by
  constructor
  · rintro ⟨s, trimmed, hspells⟩
    rwa [trimmed_iff.mp trimmed]
  · exact fun hspells => ⟨trim part, trimmed_trim part, hspells⟩

/-- A part is read as a spot just if it names it. -/
theorem spotOf_eq_ok_iff (part : List Char) (spot : Nat) :
    spotOf part = .ok spot ↔ Names part spot := by
  rw [spotOf_eq, mapError_eq_ok_iff, natural_eq_ok_iff (by decide), names_iff]

/-- A part that is no number is given back without the blanks around it. -/
theorem spotOf_eq_error_iff (part core : List Char) :
    (∃ reason, spotOf part = .error ⟨.ofList core, reason⟩)
      ↔ (∀ spot, ¬ Names part spot) ∧ Trimmed part core := by
  constructor
  · rintro ⟨reason, hpart⟩
    constructor
    · intro spot hname
      rw [← spotOf_eq_ok_iff, hpart] at hname
      cases hname
    · rw [spotOf_eq] at hpart
      cases hnatural : natural UInt64.size (trim part) with
      | ok n =>
        rw [hnatural] at hpart
        cases hpart
      | error reason' =>
        rw [hnatural] at hpart
        have hcore := congrArg SelectionFault.part (Except.error.inj hpart)
        exact trimmed_iff.mpr (String.ofList_injective hcore)
  · rintro ⟨hunnamed, trimmed⟩
    rw [spotOf_eq, trimmed_iff.mp trimmed]
    -- A part that could be read would name a spot.
    cases hnatural : natural UInt64.size core with
    | ok n =>
      have hnamed := (natural_eq_ok_iff (by decide) core n).mp hnatural
      exact absurd ⟨core, trimmed, hnamed⟩ (hunnamed n)
    | error reason => exact ⟨reason, rfl⟩

/-! ### Reading -/

/-- The word for all spots selects all of them. -/
theorem ofChars_of_saysAll {s : List Char} (h : SaysAll (trim s)) : ofChars s = .ok all := by
  rw [← map_toLower_eq_iff] at h
  rw [ofChars, if_pos h]

/-- Any other text is cut at its commas, and each part has to name a spot. -/
theorem ofChars_of_not_saysAll {s : List Char} (h : ¬ SaysAll (trim s)) :
    ofChars s = (((trim s).splitOn ',').mapM spotOf).map only := by
  rw [← map_toLower_eq_iff] at h
  rw [ofChars, if_neg h]

/-- **What is read is what is written.** -/
theorem ofChars_eq_ok_iff (s : List Char) (marked : Selection) :
    ofChars s = .ok marked ↔ Written s marked := by
  -- The word for all spots is looked for first, and it is no list of numbers.
  by_cases hword : SaysAll (trim s)
  · rw [ofChars_of_saysAll hword, Except.ok.injEq]
    constructor
    · rintro rfl
      exact .all (trimmed_trim s) hword
    · intro hwritten
      cases hwritten with
      | all => rfl
      | only trimmed cut names =>
        rw [trimmed_iff.mp trimmed] at hword
        exact absurd names (hword.not_names cut)
  · rw [ofChars_of_not_saysAll hword]
    constructor
    · intro hread
      cases hspots : ((trim s).splitOn ',').mapM spotOf with
      | error fault =>
        rw [hspots] at hread
        cases hread
      | ok spots =>
        rw [hspots] at hread
        cases hread
        have hnames := (mapM_eq_ok_iff.mp hspots).imp
          fun part spot => (spotOf_eq_ok_iff part spot).mp
        exact .only (trimmed_trim s) (cutAtCommas_iff.mpr rfl) hnames
    · intro hwritten
      cases hwritten with
      | all trimmed word =>
        rw [trimmed_iff.mp trimmed] at hword
        exact absurd word hword
      | only trimmed cut names =>
        have hspots := mapM_eq_ok_iff.mpr
          (names.imp fun part spot => (spotOf_eq_ok_iff part spot).mpr)
        rw [trimmed_iff.mp trimmed, cutAtCommas_iff.mp cut, hspots]
        rfl

/-- **What is not read is refused for its first part that is no number.** -/
theorem ofChars_eq_error_iff (s core : List Char) :
    (∃ reason, ofChars s = .error ⟨.ofList core, reason⟩) ↔ Refused s core := by
  by_cases hword : SaysAll (trim s)
  · rw [ofChars_of_saysAll hword]
    constructor
    · rintro ⟨reason, ⟨⟩⟩
    · rintro ⟨trimmed, word, -⟩
      rw [trimmed_iff.mp trimmed] at hword
      exact absurd hword word
  · simp only [ofChars_of_not_saysAll hword, map_eq_error_iff, mapM_eq_error_iff, spotOf_eq_ok_iff]
    constructor
    · rintro ⟨reason, before, bad, after, hparts, hnamed, hbad⟩
      obtain ⟨hunnamed, hcore⟩ := (spotOf_eq_error_iff bad core).mp ⟨reason, hbad⟩
      exact .first (trimmed_trim s) hword (cutAtCommas_iff.mpr hparts) hnamed hunnamed hcore
    · rintro ⟨trimmed, word, cut, named, unnamed, hcore⟩
      obtain ⟨reason, hbad⟩ := (spotOf_eq_error_iff _ core).mpr ⟨unnamed, hcore⟩
      rw [trimmed_iff.mp trimmed, cutAtCommas_iff.mp cut]
      exact ⟨reason, _, _, _, rfl, named, hbad⟩

/-! ### Typing -/

/-- A number of a spot as it is typed, with blanks around it. -/
structure Typed where
  before : List Char
  spot : Nat
  after : List Char
  blank_before : Blank before := by decide
  blank_after : Blank after := by decide
  spot_lt : spot < UInt64.size := by decide

/-- The characters that are typed. -/
def Typed.chars (t : Typed) : List Char := t.before ++ digitsOf t.spot ++ t.after

/-- The numbers with commas between them. -/
def listed (typed : List Typed) : List Char := [','].intercalate (typed.map Typed.chars)

/-- What is typed is a number of a spot. -/
theorem Typed.names (t : Typed) : Names t.chars t.spot := by
  have hdigit : ∀ c ∈ digitsOf t.spot, isBlank c = false := fun c hc =>
    isBlank_of_isDigit (Json.Numeral.digits_toDigits t.spot c hc)
  refine ⟨digitsOf t.spot, ⟨⟨t.before, t.after, t.blank_before, t.blank_after, rfl⟩, ?_, ?_⟩,
    spells_digitsOf t.spot, t.spot_lt⟩
  · exact fun c hc => hdigit c (List.mem_of_head? hc)
  · exact fun c hc => hdigit c (List.mem_of_getLast? hc)

/-- What is typed for a spot has no comma. -/
theorem Typed.not_mem_chars (t : Typed) : ',' ∉ t.chars := by
  intro hcomma
  have hkinds := t.names.of_mem hcomma
  revert hkinds
  decide

/-- Numbers between commas are a selection, whatever blanks are around them all. -/
theorem Written.of_names {s : List Char} {parts : List (List Char)} {spots : List Nat}
    (cut : CutAtCommas s parts) (names : List.Forall₂ Names parts spots) :
    Written s (.only spots) := by
  -- The parts are cut from the trimmed text. Trimmed themselves, they are those of the whole text.
  have hsame := map_trim_splitOn_trim s
  rw [cutAtCommas_iff.mp cut] at hsame
  have htrimmed : List.Forall₂ (fun core spot => Spells core spot ∧ spot < UInt64.size)
      (parts.map trim) spots :=
    List.forall₂_map_left_iff.mpr (names.imp fun _ _ => names_iff.mp)
  rw [← hsame, List.forall₂_map_left_iff] at htrimmed
  exact .only (trimmed_trim s) (cutAtCommas_iff.mpr rfl) (htrimmed.imp fun _ _ => names_iff.mpr)

/-- A list of numbers is a selection of them. -/
theorem written_listed {typed : List Typed} (h : typed ≠ []) :
    Written (listed typed) (.only (typed.map Typed.spot)) := by
  have hcut : CutAtCommas (listed typed) (typed.map Typed.chars) := by
    refine ⟨rfl, by simpa using h, ?_⟩
    intro part hpart
    obtain ⟨t, -, rfl⟩ := List.mem_map.mp hpart
    exact t.not_mem_chars
  refine .of_names hcut ?_
  rw [List.forall₂_map_left_iff, List.forall₂_map_right_iff, List.forall₂_same]
  exact fun t _ => t.names

/-- **Selections are read as they are written.** A text is read as a selection just if this is how
the selection is written, and refused with the first part that is no number just if there is such a
part. Above all, numbers that are typed with commas between them and any blanks around them are read
as the selection of just these numbers. -/
theorem reads_written :
    (∀ text marked, ofText text = .ok marked ↔ Written text.toList marked)
      ∧ (∀ text part, (∃ reason, ofText text = .error ⟨.ofList part, reason⟩)
        ↔ Refused text.toList part)
      ∧ ∀ typed : List Typed, typed ≠ [] →
        ofText (.ofList (listed typed)) = .ok (.only (typed.map Typed.spot))
          ∧ ∀ i, (only (typed.map Typed.spot)).selects i = true ↔ ∃ t ∈ typed, t.spot = i := by
  refine ⟨fun text marked => ofChars_eq_ok_iff text.toList marked,
    fun text part => ofChars_eq_error_iff text.toList part, ?_⟩
  intro typed hne
  constructor
  · rw [ofText, String.toList_ofList, ofChars_eq_ok_iff]
    exact written_listed hne
  · intro i
    rw [selects_only, List.mem_map]

/-- The first and the last number of a word and another one twice, between blanks of several
kinds. -/
def scattered : List Typed :=
  [{ before := ['\u3000'], spot := 7, after := [' ', ' '] },
    { before := [], spot := 18446744073709551615, after := ['\t'] },
    { before := [], spot := 0, after := [] }, { before := ['\n'], spot := 7, after := [] }]

/-- Selections that have been typed in any order, with blanks, signs and zeros, are read back. -/
theorem reads_written_scattered :
    scattered ≠ []
      ∧ ofText "\u30007  ,18446744073709551615\t,0,\n7"
        = .ok (.only [7, 18446744073709551615, 0, 7])
      ∧ ¬ (only [7, 18446744073709551615, 0, 7]).selects 1 := by
  have hne : scattered ≠ [] := List.cons_ne_nil _ _
  obtain ⟨hread, hselects⟩ := reads_written.2.2 scattered hne
  refine ⟨hne, hread, ?_⟩
  rw [show [7, 18446744073709551615, 0, 7] = scattered.map Typed.spot from rfl, hselects]
  simp [scattered]

end Selection

end TownTraffic
