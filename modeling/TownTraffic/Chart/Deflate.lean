/-!
# Inflating compressed data

Compressed data are a sequence of blocks of bits. A block holds bytes as they are, or symbols of a
Huffman code that stand for a byte each or for the repetition of bytes already written. Around the
blocks lie two bytes that announce them and four that check them.

* **`Deflate.Code`** — a canonical Huffman code, given by the length of each symbol's word.
* **`Deflate.inflate`** — the bytes of a compressed text, if it is one.
-/

namespace TownTraffic.Deflate

/-- Bits, in the order in which they are used up. -/
abbrev Bits := List Bool

/-- The bits of bytes, the lowest of each byte first. -/
def bitsOf (bytes : List UInt8) : Bits :=
  bytes.flatMap fun b => (List.range 8).map fun i => b.toNat.testBit i

/-- Takes a number of `n` bits, the lowest bit first. -/
def takeNat : (n : Nat) → Bits → Option (Nat × Bits)
  | 0, bits => some (0, bits)
  | _ + 1, [] => none
  | n + 1, bit :: bits =>
    (takeNat n bits).map fun (value, bits) => (value * 2 + bit.toNat, bits)

/-! ## Huffman codes -/

/-- A canonical Huffman code. Words are ordered by their length, then by their symbol. -/
structure Code where
  /-- How many words have one bit, two bits, and so on. -/
  counts : List Nat
  /-- The symbols in the order of their words. -/
  symbols : Array Nat
deriving Repr, DecidableEq

/-- The greatest length of a word. -/
def maxLength : Nat := 15

/-- What is left of the space of words once words of each length have been taken, in units of the
last length; none if there are too many. -/
def Code.room : (space : Nat) → List Nat → Option Nat
  | space, [] => some space
  | space, count :: counts =>
    if count ≤ space * 2 then Code.room (space * 2 - count) counts else none

/-- The code in which each symbol's word has the given length, `0` for no word. -/
def Code.ofLengths (lengths : List Nat) : Code :=
  let sizes := (List.range maxLength).map (· + 1)
  let places := lengths.zipIdx
  { counts := sizes.map fun size => lengths.count size
    symbols := (sizes.flatMap fun size =>
      (places.filter fun (length, _) => length = size).map (·.2)).toArray }

/-- Whether every sequence of bits starts with a word. -/
def Code.isComplete (c : Code) : Bool := Code.room 1 c.counts = some 0

/-- Takes a word off the bits: `first` is the first word of the present length and `index` the
number of shorter words. -/
def Code.takeFrom (symbols : Array Nat) : (counts : List Nat) → (word first index : Nat) → Bits →
    Option (Nat × Bits)
  | [], _, _, _, _ => none
  | _ :: _, _, _, _, [] => none
  | count :: counts, word, first, index, bit :: bits =>
    let word := word * 2 + bit.toNat
    let first := first * 2
    if word < first + count then (symbols[index + (word - first)]?).map fun symbol => (symbol, bits)
    else Code.takeFrom symbols counts word (first + count) (index + count) bits

/-- Takes a word off the bits. -/
def Code.take (c : Code) (bits : Bits) : Option (Nat × Bits) :=
  Code.takeFrom c.symbols c.counts 0 0 0 bits

/-! ## Symbols -/

/-- The least length of repetition that a symbol stands for, and how many bits are added to it. -/
def lengthRange (symbol : Nat) : Option (Nat × Nat) :=
  if symbol < 257 ∨ 285 < symbol then none
  else if symbol = 285 then some (258, 0)
  else
    let n := symbol - 257
    if n < 8 then some (n + 3, 0)
    else
      let extra := n / 4 - 1
      some (((4 + n % 4) <<< extra) + 3, extra)

/-- The least distance of repetition that a symbol stands for, and how many bits are added to it. -/
def distanceRange (symbol : Nat) : Option (Nat × Nat) :=
  if 29 < symbol then none
  else if symbol < 4 then some (symbol + 1, 0)
  else
    let extra := symbol / 2 - 1
    some (((2 + symbol % 2) <<< extra) + 1, extra)

/-- Takes the number of a range. -/
def takeRange (range : Option (Nat × Nat)) (bits : Bits) : Option (Nat × Bits) := do
  let (least, extra) ← range
  let (more, bits) ← takeNat extra bits
  return (least + more, bits)

/-- Repeats `n` bytes, `distance` back from the end. -/
def repeatBytes (distance : Nat) : (n : Nat) → Array UInt8 → Option (Array UInt8)
  | 0, out => some out
  | n + 1, out =>
    if distance ≤ out.size then do
      repeatBytes distance n (out.push (← out[out.size - distance]?))
    else none

/-- Takes the symbols of a block up to its end. Each takes a bit, so their number is bounded. -/
def takeSymbols (literals distances : Code) : (bound : Nat) → Bits → Array UInt8 →
    Option (Array UInt8 × Bits)
  | 0, _, _ => none
  | bound + 1, bits, out => do
    let (symbol, bits) ← literals.take bits
    if symbol < 256 then takeSymbols literals distances bound bits (out.push symbol.toUInt8)
    else if symbol = 256 then return (out, bits)
    else
      let (length, bits) ← takeRange (lengthRange symbol) bits
      let (symbol, bits) ← distances.take bits
      let (distance, bits) ← takeRange (distanceRange symbol) bits
      takeSymbols literals distances bound bits (← repeatBytes distance length out)

/-! ## Blocks -/

/-- The lengths of the words of the literals that are understood without being given. -/
def fixedLengths : List Nat :=
  List.replicate 144 8 ++ List.replicate 112 9 ++ List.replicate 24 7 ++ List.replicate 8 8

/-- The order in which the lengths of the words for lengths are given. -/
def lengthOrder : List Nat := [16, 17, 18, 0, 8, 7, 9, 6, 10, 5, 11, 4, 12, 3, 13, 2, 14, 1, 15]

/-- Takes `n` lengths of words. A symbol may stand for several equal ones, but not for more than are
wanted. -/
def takeLengths (code : Code) : (bound : Nat) → (n : Nat) → (done : List Nat) → Bits →
    Option (List Nat × Bits)
  | _, 0, done, bits => some (done.reverse, bits)
  | 0, _, _, _ => none
  | bound + 1, n, done, bits => do
    let (symbol, bits) ← code.take bits
    let run (length least extra : Nat) : Option (List Nat × Bits) := do
      let (more, bits) ← takeNat extra bits
      if least + more ≤ n then
        takeLengths code bound (n - (least + more)) (List.replicate (least + more) length ++ done)
          bits
      else none
    if symbol < 16 then takeLengths code bound (n - 1) (symbol :: done) bits
    else if symbol = 16 then run (← done.head?) 3 2
    else if symbol = 17 then run 0 3 3
    else run 0 11 7

/-- Whether a code for distances will do: it is complete, or it has one word or none. -/
def distancesWillDo (lengths : List Nat) : Bool :=
  let used := lengths.filter (0 < ·)
  used.length = 0 || used = [1] || (Code.ofLengths lengths).isComplete

/-- Takes the codes of a block that gives its own. -/
def takeCodes (bits : Bits) : Option ((Code × Code) × Bits) := do
  let (literals, bits) ← takeNat 5 bits
  let (distances, bits) ← takeNat 5 bits
  let (given, bits) ← takeNat 4 bits
  let literals := literals + 257
  let distances := distances + 1
  if 286 < literals ∨ 30 < distances then none
  let rec takeGiven : (n : Nat) → Bits → Option (List Nat × Bits)
    | 0, bits => some ([], bits)
    | n + 1, bits => do
      let (length, bits) ← takeNat 3 bits
      let (lengths, bits) ← takeGiven n bits
      return (length :: lengths, bits)
  let (lengths, bits) ← takeGiven (given + 4) bits
  let code := Code.ofLengths <| (List.range 19).map fun symbol =>
    (lengths[lengthOrder.idxOf symbol]?).getD 0
  if !code.isComplete then none
  let (lengths, bits) ← takeLengths code (literals + distances) (literals + distances) [] bits
  let forLiterals := lengths.take literals
  let forDistances := lengths.drop literals
  let literalCode := Code.ofLengths forLiterals
  if literalCode.isComplete && forLiterals[256]? != some 0 && distancesWillDo forDistances then
    return ((literalCode, Code.ofLengths forDistances), bits)
  else none

/-- Takes `n` bytes as they are. -/
def takeBytes : (n : Nat) → Bits → Array UInt8 → Option (Array UInt8 × Bits)
  | 0, bits, out => some (out, bits)
  | n + 1, bits, out => do
    let (byte, bits) ← takeNat 8 bits
    takeBytes n bits (out.push byte.toUInt8)

/-- Takes blocks up to the last one. Each takes a bit, so their number is bounded. -/
def takeBlocks : (bound : Nat) → Bits → Array UInt8 → Option (Array UInt8 × Bits)
  | 0, _, _ => none
  | bound + 1, bits, out => do
    let (last, bits) ← takeNat 1 bits
    let (kind, bits) ← takeNat 2 bits
    let (out, bits) ← match kind with
      | 0 => do
        -- Stored bytes start at a byte of their own.
        let bits := bits.drop (bits.length % 8)
        let (length, bits) ← takeNat 16 bits
        let (check, bits) ← takeNat 16 bits
        if length + check = 0xffff then takeBytes length bits out else none
      | 1 =>
        takeSymbols (.ofLengths fixedLengths) (.ofLengths (List.replicate 32 5))
          (bits.length + 1) bits out
      | 2 => do
        let ((literals, distances), bits) ← takeCodes bits
        takeSymbols literals distances (bits.length + 1) bits out
      | _ => none
    if last = 1 then return (out, bits) else takeBlocks bound bits out

/-- Whether two bytes announce compressed data: the method is known, no dictionary is presumed, and
they pass their own check. -/
def announces (method flags : UInt8) : Bool :=
  method &&& 0x0f == 8 && method >>> 4 ≤ 7 && flags &&& 0x20 == 0
    && (method.toNat * 256 + flags.toNat) % 31 == 0

/-- The bytes of a compressed text, if it is a whole one. The sum at its end is not compared. -/
def inflate (bytes : List UInt8) : Option (List UInt8) :=
  match bytes with
  | method :: flags :: rest =>
    if announces method flags then do
      let bits := bitsOf rest
      let (out, bits) ← takeBlocks (bits.length + 1) bits #[]
      if 32 ≤ bits.length - bits.length % 8 then return out.toList else none
    else none
  | _ => none

end TownTraffic.Deflate
