import TownTraffic.Json.Fault

/-!
# JSON strings

A string is written between double quotes. Quotes, backslashes and control characters are escaped,
everything else stands for itself. Reading is done by an automaton that looks at one character at a
time and also understands the escapes that are never written.

* **`Quoted.encode`** — the escaped characters of a text; **`Quoted.write`** puts them in quotes.
* **`Quoted.Mode`** — what the automaton expects next; **`Quoted.readFrom`** runs it.
* **`Quoted.skipFrom`** — the same for a string whose content does not matter.
-/

namespace TownTraffic.Json.Quoted

/-! ## Writing -/

/-- A lower-case hexadecimal digit. -/
def hexDigit (n : Nat) : Char :=
  if n < 10 then Char.ofNat ('0'.toNat + n) else Char.ofNat ('a'.toNat + (n - 10))

/-- The spelling of one character. -/
def encodeChar (c : Char) : List Char :=
  match c with
  | '"' => ['\\', '"']
  | '\\' => ['\\', '\\']
  | '\x08' => ['\\', 'b']
  | '\x0c' => ['\\', 'f']
  | '\n' => ['\\', 'n']
  | '\r' => ['\\', 'r']
  | '\t' => ['\\', 't']
  | c =>
    if c.toNat < 0x20 then
      ['\\', 'u', '0', '0', hexDigit (c.toNat / 16), hexDigit (c.toNat % 16)]
    else [c]

/-- The spelling of a text, without the quotes. -/
def encode (s : List Char) : List Char := s.flatMap encodeChar

/-- An empty text is spelled by nothing. -/
@[simp] theorem encode_nil : encode [] = [] := rfl

/-- A text is spelled character by character. -/
@[simp] theorem encode_cons (c : Char) (s : List Char) :
    encode (c :: s) = encodeChar c ++ encode s := rfl

/-- A text in quotes, in front of `rest`. -/
def write (s : String) (rest : List Char) : List Char :=
  '"' :: (encode s.toList ++ '"' :: rest)

/-! ## Reading -/

/-- What the reader expects next. -/
inductive Mode where
  /-- Any character. -/
  | plain
  /-- The letter of an escape. -/
  | escape
  /-- More hexadecimal digits: `seen` bytes of four have been read, giving `value`; `sound` tells
  whether all were digits. A leading surrogate may be waiting for its partner. -/
  | hex (lead : Option Nat) (seen value : Nat) (sound : Bool)
  /-- The backslash of a partner for a leading surrogate. -/
  | partner (lead : Nat)
  /-- The letter of a partner for a leading surrogate. -/
  | partnerLetter (lead : Nat)
deriving Repr, DecidableEq

/-- The value of a hexadecimal digit. -/
def hexValue? (c : Char) : Option Nat :=
  if '0' ≤ c ∧ c ≤ '9' then some (c.toNat - '0'.toNat)
  else if 'a' ≤ c ∧ c ≤ 'f' then some (c.toNat - 'a'.toNat + 10)
  else if 'A' ≤ c ∧ c ≤ 'F' then some (c.toNat - 'A'.toNat + 10)
  else none

/-- The character of a one-letter escape. -/
def escaped? : Char → Option Char
  | '"' => some '"'
  | '\\' => some '\\'
  | '/' => some '/'
  | 'b' => some '\x08'
  | 'f' => some '\x0c'
  | 'n' => some '\n'
  | 'r' => some '\r'
  | 't' => some '\t'
  | _ => none

/-- What four hexadecimal digits mean: a character, or half of one. -/
def unit (lead : Option Nat) (value : Nat) : Except Blunder (Char ⊕ Nat) :=
  match lead with
  | none =>
    if 0xdc00 ≤ value ∧ value ≤ 0xdfff then .error .surrogateAlone
    else if 0xd800 ≤ value ∧ value ≤ 0xdbff then .ok (.inr value)
    else .ok (.inl (Char.ofNat value))
  | some lead =>
    if 0xdc00 ≤ value ∧ value ≤ 0xdfff then
      .ok (.inl (Char.ofNat ((lead - 0xd800) * 0x400 + (value - 0xdc00) + 0x10000)))
    else .error .surrogateAlone

/-- Reads the rest of a string, with the characters read so far in reverse. -/
def readFrom : Mode → List Char → List Char → Except Fault (String × List Char)
  | _, _, [] => .error (.before .textUnfinished [])
  | .plain, done, c :: rest =>
    if c = '"' then .ok (.ofList done.reverse, rest)
    else if c = '\\' then readFrom .escape done rest
    else if c.toNat < 0x20 then .error (.before .controlCharacter rest)
    else readFrom .plain (c :: done) rest
  | .escape, done, c :: rest =>
    if c = 'u' then readFrom (.hex none 0 0 true) done rest
    else match escaped? c with
      | some e => readFrom .plain (e :: done) rest
      | none => .error (.upon .escapeUnknown (c :: rest))
  | .hex lead seen value sound, done, c :: rest =>
    let seen := seen + c.utf8Size
    let sound := sound && (hexValue? c).isSome
    let value := value * 16 + (hexValue? c).getD 0
    if seen < 4 then readFrom (.hex lead seen value sound) done rest
    else if !sound then
      .error (.placed (.blunder .escapeUnknown) (byteCount rest + (seen - 4)))
    else match unit lead value with
      | .ok (.inl c) => readFrom .plain (c :: done) rest
      | .ok (.inr lead) => readFrom (.partner lead) done rest
      | .error b => .error (.before b rest)
  | .partner lead, done, c :: rest =>
    if c = '\\' then readFrom (.partnerLetter lead) done rest
    else .error (.upon .surrogateUnpaired (c :: rest))
  | .partnerLetter lead, done, c :: rest =>
    if c = 'u' then readFrom (.hex (some lead) 0 0 true) done rest
    else .error (.upon .surrogateUnpaired (c :: rest))

/-- Reads the rest of a string after its opening quote. -/
def read (s : List Char) : Except Fault (String × List Char) := readFrom .plain [] s

/-! ## Skipping -/

/-- Passes over the rest of a string. Escapes must be formed well, but need not name characters. -/
def skipFrom : Mode → List Char → Except Fault (List Char)
  | _, [] => .error (.before .textUnfinished [])
  | .hex lead seen value sound, c :: rest =>
    let seen := seen + c.utf8Size
    let sound := sound && (hexValue? c).isSome
    if seen < 4 then skipFrom (.hex lead seen value sound) rest
    else if sound then skipFrom .plain rest
    else .error (.placed (.blunder .escapeUnknown) (byteCount rest + (seen - 4)))
  | .escape, c :: rest =>
    if c = 'u' then skipFrom (.hex none 0 0 true) rest
    else if (escaped? c).isSome then skipFrom .plain rest
    else .error (.upon .escapeUnknown (c :: rest))
  | _, c :: rest =>
    if c = '"' then .ok rest
    else if c = '\\' then skipFrom .escape rest
    else if c.toNat < 0x20 then .error (.before .controlCharacter (c :: rest))
    else skipFrom .plain rest

/-- Passes over the rest of a string after its opening quote. -/
def skip (s : List Char) : Except Fault (List Char) := skipFrom .plain s

end TownTraffic.Json.Quoted
