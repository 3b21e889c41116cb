/-!
# Texts from bytes

A text is stored and sent as UTF-8. `decode` reads the bytes from the left and stops at the first
that cannot continue a character, or that leaves one unfinished.

* **`Utf8Fault`** — why bytes are no text, in words by **`Utf8Fault.message`**.
* **`decode`** — the characters of bytes.
-/

namespace TownTraffic.Text

/-- Why bytes are no text. -/
inductive Utf8Fault where
  /-- The first `length` of the bytes from `start` on begin no character. -/
  | invalid (length start : Nat)
  /-- The bytes end inside the character that begins at `start`. -/
  | incomplete (start : Nat)
deriving Repr, DecidableEq

/-- The fault in words. -/
def Utf8Fault.message : Utf8Fault → String
  | .invalid length start =>
    "invalid utf-8 sequence of " ++ toString length ++ " bytes from index " ++ toString start
  | .incomplete start => "incomplete utf-8 byte sequence from index " ++ toString start

namespace Utf8

/-- A character of which some bytes have been read. -/
structure Partial where
  start : Nat
  /-- How many bytes have been read. -/
  seen : Nat
  /-- How many bytes are missing. -/
  missing : Nat
  value : Nat
  /-- The least byte that may come next. -/
  low : UInt8
  /-- The greatest byte that may come next. -/
  high : UInt8

/-- What the first byte of a character says: the character itself, or how it goes on. The bounds of
the second byte keep out surrogates, code points beyond the last, and spellings longer than
needed. -/
def lead (start : Nat) (b : UInt8) : Option (Char ⊕ Partial) :=
  let begun (missing value : Nat) (low high : UInt8) : Option (Char ⊕ Partial) :=
    some (.inr ⟨start, 1, missing, value, low, high⟩)
  if b < 0x80 then some (.inl (Char.ofNat b.toNat))
  else if b < 0xc2 then none
  else if b < 0xe0 then begun 1 (b.toNat - 0xc0) 0x80 0xbf
  else if b < 0xf0 then
    begun 2 (b.toNat - 0xe0) (if b = 0xe0 then 0xa0 else 0x80) (if b = 0xed then 0x9f else 0xbf)
  else if b < 0xf5 then
    begun 3 (b.toNat - 0xf0) (if b = 0xf0 then 0x90 else 0x80) (if b = 0xf4 then 0x8f else 0xbf)
  else none

/-- Reads on at byte `index`, maybe inside a character. -/
def decodeFrom : (index : Nat) → Option Partial → List UInt8 → Except Utf8Fault (List Char)
  | _, none, [] => .ok []
  | _, some p, [] => .error (.incomplete p.start)
  | index, none, b :: rest =>
    match lead index b with
    | none => .error (.invalid 1 index)
    | some (.inl c) => (decodeFrom (index + 1) none rest).map (c :: ·)
    | some (.inr p) => decodeFrom (index + 1) (some p) rest
  | index, some p, b :: rest =>
    if p.low ≤ b ∧ b ≤ p.high then
      let value := p.value * 64 + (b.toNat - 0x80)
      if p.missing = 1 then (decodeFrom (index + 1) none rest).map (Char.ofNat value :: ·)
      else
        decodeFrom (index + 1) (some ⟨p.start, p.seen + 1, p.missing - 1, value, 0x80, 0xbf⟩) rest
    else .error (.invalid p.seen p.start)

/-- The characters of bytes. -/
def decode (bytes : List UInt8) : Except Utf8Fault (List Char) := decodeFrom 0 none bytes

/-- The bytes of a text. -/
def encode (text : String) : List UInt8 := text.toUTF8.toList

/-- No bytes are an empty text. -/
@[simp] theorem decode_nil : decode [] = .ok [] := rfl

/-- An ASCII byte in front is a character of its own. -/
theorem decodeFrom_cons_of_lt {index : Nat} {b : UInt8} (h : b < 0x80) (rest : List UInt8) :
    decodeFrom index none (b :: rest)
      = (decodeFrom (index + 1) none rest).map (Char.ofNat b.toNat :: ·) := by
  simp [decodeFrom, lead, h]

end Utf8

end TownTraffic.Text
