import TownTraffic.Session.Inbox
import TownTraffic.Proofs.Entries
import Mathlib.Tactic.IntervalCases

/-!
# Texts on lines of their own

A text is sent as its UTF-8 bytes and a line feed. If it has no line feed and no blanks at its ends,
a stream of such lines is cut into the same texts again.

* **`Utf8.decode_encode`** — the bytes of a text are decoded as the text.
* **`Utf8.mem_of_mem_encode`** — an ASCII byte stands for its character and is no part of another.
* **`Line.Fits`**, **`Line.ofText`** — the texts that have a line to themselves, and their lines.
* **`Line.split_flatMap_ofText`** — a stream of them is split into them.
* **`Inbox.take_ofText`** — the next line of an inbox is the text, whatever has arrived behind it.
-/

namespace TownTraffic.Text

/-! ## Bytes and characters -/

namespace Utf8

/-- The bytes of an array from an index on are put behind those already taken. -/
theorem toList_loop (bytes : ByteArray) (i : Nat) (taken : List UInt8) :
    ByteArray.toList.loop bytes i taken = taken.reverse ++ bytes.data.toList.drop i := by
  fun_induction ByteArray.toList.loop bytes i taken with
  | case1 i taken hlt ih =>
    have hlength : i < bytes.data.toList.length := by simpa using hlt
    have hget : bytes.get! i = bytes.data.toList[i] := by
      cases bytes
      exact getElem!_pos _ i hlt
    rw [ih, List.drop_eq_getElem_cons hlength, hget, List.reverse_cons, List.append_assoc,
      List.singleton_append]
  | case2 i taken hge =>
    rw [List.drop_eq_nil_of_le (by simpa using hge), List.append_nil]

/-- The bytes of a text are those of its characters. -/
theorem encode_eq (text : String) : encode text = text.toList.flatMap String.utf8EncodeChar := by
  rw [encode, ByteArray.toList, toList_loop, List.reverse_nil, List.nil_append, List.drop_zero,
    String.toUTF8_eq_toByteArray, ← String.utf8Encode_toList, List.utf8Encode,
    List.toList_data_toByteArray]

/-! ### One character -/

section

variable {k : Nat} {low high : UInt8} (hlow : low.toNat ≤ k + 0x80) (hhigh : k + 0x80 ≤ high.toNat)

include hlow hhigh

/-- A byte within its bounds is one that may come next. -/
theorem inside_of_le : (UInt8.ofNat (k + 0x80)).toNat = k + 0x80
    ∧ low ≤ UInt8.ofNat (k + 0x80) ∧ UInt8.ofNat (k + 0x80) ≤ high := by
  have hk : (UInt8.ofNat (k + 0x80)).toNat = k + 0x80 :=
    UInt8.toNat_ofNat_of_lt' (hhigh.trans_lt high.toNat_lt)
  rw [UInt8.le_iff_toNat_le, UInt8.le_iff_toNat_le, hk]
  exact ⟨rfl, hlow, hhigh⟩

/-- A byte that may come next goes on with a character. -/
theorem decodeFrom_go_on (start seen missing value index : Nat) (rest : List UInt8) :
    decodeFrom index (some ⟨start, seen, missing + 2, value, low, high⟩)
        (UInt8.ofNat (k + 0x80) :: rest)
      = decodeFrom (index + 1) (some ⟨start, seen + 1, missing + 1, value * 64 + k, 0x80, 0xbf⟩)
          rest := by
  obtain ⟨hk, hinside⟩ := inside_of_le hlow hhigh
  have hmissing : missing + 2 ≠ 1 := by omega
  simp only [decodeFrom, if_pos hinside, if_neg hmissing, hk, Nat.add_sub_cancel]
  rfl

/-- The last byte ends a character. -/
theorem decodeFrom_end (start seen value index : Nat) (rest : List UInt8) :
    decodeFrom index (some ⟨start, seen, 1, value, low, high⟩) (UInt8.ofNat (k + 0x80) :: rest)
      = (decodeFrom (index + 1) none rest).map (Char.ofNat (value * 64 + k) :: ·) := by
  obtain ⟨hk, hinside⟩ := inside_of_le hlow hhigh
  simp only [decodeFrom, if_pos hinside, if_true, hk, Nat.add_sub_cancel]

end

/-- Behind the second byte any of 64 may come. -/
theorem later_bounds (n : Nat) : (0x80 : UInt8).toNat ≤ n % 64 + 0x80
    ∧ n % 64 + 0x80 ≤ (0xbf : UInt8).toNat := by
  have hbounds : (0x80 : UInt8).toNat = 0x80 ∧ (0xbf : UInt8).toNat = 0xbf := ⟨rfl, rfl⟩
  omega

/-- The first of two bytes. -/
theorem lead_of_two {k : Nat} (hlow : 2 ≤ k) (hhigh : k < 32) (start : Nat) :
    lead start (UInt8.ofNat (k + 0xc0)) = some (.inr ⟨start, 1, 1, k, 0x80, 0xbf⟩) := by
  interval_cases k <;> rfl

/-- The first of three bytes. -/
theorem lead_of_three {k : Nat} (hhigh : k < 16) (start : Nat) :
    lead start (UInt8.ofNat (k + 0xe0)) = some (.inr ⟨start, 1, 2, k,
      if k = 0 then 0xa0 else 0x80, if k = 13 then 0x9f else 0xbf⟩) := by
  interval_cases k <;> rfl

/-- The first of four bytes. -/
theorem lead_of_four {k : Nat} (hhigh : k < 5) (start : Nat) :
    lead start (UInt8.ofNat (k + 0xf0)) = some (.inr ⟨start, 1, 3, k,
      if k = 0 then 0x90 else 0x80, if k = 4 then 0x8f else 0xbf⟩) := by
  interval_cases k <;> rfl

/-- The first byte of several tells how the character goes on. -/
theorem decodeFrom_lead {index : Nat} {b : UInt8} {p : Partial}
    (h : lead index b = some (.inr p)) (rest : List UInt8) :
    decodeFrom index none (b :: rest) = decodeFrom (index + 1) (some p) rest := by
  simp only [decodeFrom, h]

/-- A code point in two bytes is put together again. -/
theorem decodeFrom_two {v : Nat} (hlow : 0x80 ≤ v) (hhigh : v ≤ 0x7ff) (index : Nat)
    (rest : List UInt8) :
    decodeFrom index none
        (UInt8.ofNat (v / 64 % 0x20 + 0xc0) :: UInt8.ofNat (v % 64 + 0x80) :: rest)
      = (decodeFrom (index + 2) none rest).map (Char.ofNat v :: ·) := by
  have hv : v / 64 % 0x20 * 64 + v % 64 = v := by omega
  have hlast := later_bounds v
  rw [decodeFrom_lead (lead_of_two (by omega) (by omega) index), decodeFrom_end hlast.1 hlast.2, hv]

/-- A code point in three bytes is put together again, if it is no surrogate. -/
theorem decodeFrom_three {v : Nat} (hlow : 0x800 ≤ v) (hhigh : v ≤ 0xffff)
    (hvalid : v < 0xd800 ∨ 0xdfff < v) (index : Nat) (rest : List UInt8) :
    decodeFrom index none (UInt8.ofNat (v / 4096 % 0x10 + 0xe0)
        :: UInt8.ofNat (v / 64 % 64 + 0x80) :: UInt8.ofNat (v % 64 + 0x80) :: rest)
      = (decodeFrom (index + 3) none rest).map (Char.ofNat v :: ·) := by
  have hv : (v / 4096 % 0x10 * 64 + v / 64 % 64) * 64 + v % 64 = v := by omega
  have hbounds : (0xa0 : UInt8).toNat = 0xa0 ∧ (0x80 : UInt8).toNat = 0x80
      ∧ (0x9f : UInt8).toNat = 0x9f ∧ (0xbf : UInt8).toNat = 0xbf := ⟨rfl, rfl, rfl, rfl⟩
  have hsecond : (if v / 4096 % 0x10 = 0 then (0xa0 : UInt8) else 0x80).toNat ≤ v / 64 % 64 + 0x80
      ∧ v / 64 % 64 + 0x80 ≤ (if v / 4096 % 0x10 = 13 then (0x9f : UInt8) else 0xbf).toNat := by
    constructor <;> split <;> omega
  have hlast := later_bounds v
  rw [decodeFrom_lead (lead_of_three (by omega) index), decodeFrom_go_on hsecond.1 hsecond.2,
    decodeFrom_end hlast.1 hlast.2, hv]

/-- A code point in four bytes is put together again, if it is none beyond the last. -/
theorem decodeFrom_four {v : Nat} (hlow : 0x10000 ≤ v) (hhigh : v < 0x110000) (index : Nat)
    (rest : List UInt8) :
    decodeFrom index none (UInt8.ofNat (v / 262144 % 0x08 + 0xf0)
        :: UInt8.ofNat (v / 4096 % 64 + 0x80) :: UInt8.ofNat (v / 64 % 64 + 0x80)
        :: UInt8.ofNat (v % 64 + 0x80) :: rest)
      = (decodeFrom (index + 4) none rest).map (Char.ofNat v :: ·) := by
  have hv : ((v / 262144 % 0x08 * 64 + v / 4096 % 64) * 64 + v / 64 % 64) * 64 + v % 64 = v := by
    omega
  have hbounds : (0x90 : UInt8).toNat = 0x90 ∧ (0x80 : UInt8).toNat = 0x80
      ∧ (0x8f : UInt8).toNat = 0x8f ∧ (0xbf : UInt8).toNat = 0xbf := ⟨rfl, rfl, rfl, rfl⟩
  have hsecond : (if v / 262144 % 0x08 = 0 then (0x90 : UInt8) else 0x80).toNat
        ≤ v / 4096 % 64 + 0x80
      ∧ v / 4096 % 64 + 0x80
        ≤ (if v / 262144 % 0x08 = 4 then (0x8f : UInt8) else 0xbf).toNat := by
    constructor <;> split <;> omega
  have hthird := later_bounds (v / 64)
  have hlast := later_bounds v
  rw [decodeFrom_lead (lead_of_four (by omega) index), decodeFrom_go_on hsecond.1 hsecond.2,
    decodeFrom_go_on hthird.1 hthird.2, decodeFrom_end hlast.1 hlast.2, hv]

/-- The bytes of a character are decoded as the character. -/
theorem decodeFrom_utf8EncodeChar (c : Char) (index : Nat) (rest : List UInt8) :
    decodeFrom index none (String.utf8EncodeChar c ++ rest)
      = (decodeFrom (index + (String.utf8EncodeChar c).length) none rest).map (c :: ·) := by
  have hvalid : c.toNat < 0xd800 ∨ 0xdfff < c.toNat ∧ c.toNat < 0x110000 := c.valid
  have hc : Char.ofNat c.toNat = c := c.ofNat_toNat
  have hval : c.val.toNat = c.toNat := rfl
  unfold String.utf8EncodeChar
  rw [hval]
  dsimp only
  -- By the number of bytes that the character takes.
  split_ifs with hone htwo hthree
  · have hb : (UInt8.ofNat c.toNat).toNat = c.toNat :=
      UInt8.toNat_ofNat_of_lt' (hone.trans_lt (by decide))
    have hlt : UInt8.ofNat c.toNat < 0x80 := by
      rw [UInt8.lt_iff_toNat_lt, hb]
      exact Nat.lt_succ_of_le hone
    rw [List.singleton_append, decodeFrom_cons_of_lt hlt, hb, hc]
    rfl
  · have htwo := decodeFrom_two (Nat.lt_of_not_le hone) htwo index rest
    rwa [hc] at htwo
  · have hthree := decodeFrom_three (Nat.lt_of_not_le htwo) hthree (by omega) index rest
    rwa [hc] at hthree
  · have hfour := decodeFrom_four (Nat.lt_of_not_le hthree) (by omega) index rest
    rwa [hc] at hfour

/-- **The bytes of a text are decoded as the text.** -/
theorem decode_encode (text : String) : decode (encode text) = .ok text.toList := by
  have hdecode : ∀ (s : List Char) (index : Nat),
      decodeFrom index none (s.flatMap String.utf8EncodeChar) = .ok s := by
    intro s
    induction s with
    | nil => exact fun _ => rfl
    | cons c s ih =>
      intro index
      rw [List.flatMap_cons, decodeFrom_utf8EncodeChar, ih]
      rfl
  rw [encode_eq, decode, hdecode]

/-! ### Bytes that are characters -/

/-- The bytes of a character beyond ASCII lie beyond ASCII. -/
theorem le_of_mem_utf8EncodeChar {c : Char} (hc : 0x80 ≤ c.toNat) {b : UInt8}
    (h : b ∈ String.utf8EncodeChar c) : 0x80 ≤ b.toNat := by
  have hle : ∀ n, 0x80 ≤ n → n < 256 → 0x80 ≤ (UInt8.ofNat n).toNat := by
    intro n hn hlt
    rwa [UInt8.toNat_ofNat_of_lt' hlt]
  have hval : c.val.toNat = c.toNat := rfl
  unfold String.utf8EncodeChar at h
  rw [hval] at h
  dsimp only at h
  split_ifs at h with hone htwo hthree <;>
    simp only [List.mem_cons, List.not_mem_nil, or_false] at h
  · omega
  · obtain rfl | rfl := h <;> exact hle _ (by omega) (by omega)
  · obtain rfl | rfl | rfl := h <;> exact hle _ (by omega) (by omega)
  · obtain rfl | rfl | rfl | rfl := h <;> exact hle _ (by omega) (by omega)

/-- **An ASCII byte stands for its character**, and is no part of another. -/
theorem mem_of_mem_encode {b : UInt8} (hb : b.toNat < 0x80) {text : String} (h : b ∈ encode text) :
    Char.ofNat b.toNat ∈ text.toList := by
  rw [encode_eq, List.mem_flatMap] at h
  obtain ⟨c, hc, h⟩ := h
  by_cases hone : c.toNat < 0x80
  · have hbytes : String.utf8EncodeChar c = [UInt8.ofNat c.toNat] := if_pos (Nat.le_of_lt_succ hone)
    rw [hbytes, List.mem_singleton] at h
    rwa [h, UInt8.toNat_ofNat_of_lt' (hone.trans (by decide)), Char.ofNat_toNat]
  · have hle := le_of_mem_utf8EncodeChar (Nat.le_of_not_lt hone) h
    omega

/-- A text without line feeds is sent without any. -/
theorem feed_not_mem_encode {text : String} (h : '\n' ∉ text.toList) :
    Line.feed ∉ encode text := fun hmem => h (mem_of_mem_encode (by decide) hmem)

end Utf8

/-! ## Lines -/

namespace Line

/-- The bytes of a text on a line of its own. -/
def ofText (text : String) : List UInt8 := Utf8.encode text ++ [feed]

/-- **Whether a text has a line to itself**: it has no line feed, and no blanks at its ends. -/
structure Fits (text : String) : Prop where
  feed_not_mem : '\n' ∉ text.toList
  head? : ∀ c, text.toList.head? = some c → isBlank c = false
  getLast? : ∀ c, text.toList.getLast? = some c → isBlank c = false

/-- The line of a text is the text with a line feed behind it. -/
theorem ofText_eq (text : String) : ofText text = Utf8.encode (text ++ "\n") := by
  rw [Utf8.encode_eq, String.toList_append, List.flatMap_append, ← Utf8.encode_eq]
  rfl

/-- A text is read off its line. -/
theorem text_ofText {text : String} (fits : Fits text) : Line.text (ofText text) = .ok text := by
  have htrim : trim (text ++ "\n").toList = text.toList := by
    rw [String.toList_append, trim_append_right (show Blank "\n".toList by decide),
      trim_eq_self fits.head? fits.getLast?]
  rw [Line.text, ofText_eq, Utf8.decode_encode, Except.map, htrim, String.ofList_toList]

/-- **A stream of texts is split into them.** -/
theorem split_flatMap_ofText {texts : List String} (fits : ∀ text ∈ texts, Fits text) :
    split (texts.flatMap ofText) = texts.map ofText := by
  induction texts with
  | nil => rfl
  | cons text texts ih =>
    obtain ⟨htext, fits⟩ := List.forall_mem_cons.mp fits
    rw [List.flatMap_cons, ofText, List.append_assoc, List.singleton_append,
      split_of_not_mem (Utf8.feed_not_mem_encode htext.feed_not_mem), ih fits]
    rfl

end Line

end TownTraffic.Text

namespace TownTraffic

open Text

/-- **The next line of an inbox is the text that was sent**, whatever has arrived behind it. -/
theorem Inbox.take_ofText {text : String} (fits : Line.Fits text) (rest : List UInt8)
    (ended : Bool) :
    take ⟨Line.ofText text ++ rest, ended⟩ = (.line text, ⟨rest, ended⟩) := by
  have hmem := Utf8.feed_not_mem_encode fits.feed_not_mem
  have htext : Incoming.ofLine (Line.ofText text) = .line text := by
    rw [Incoming.ofLine, Line.text_ofText fits]
  rw [← htext, Line.ofText, List.append_assoc, List.singleton_append, take_of_not_mem hmem]

end TownTraffic
