/-!
# The keystream behind every draw

Random words are the keystream of a ChaCha cipher with twelve rounds: an endless sequence of 32-bit
words that a 256-bit key determines. A block of sixteen words is a scrambled copy of a table that
holds four fixed words, the key, and the number of the block.

* **`Key`** — eight words; **`Key.ofSeed`** spreads a 64-bit seed over them.
* **`block`** — the sixteen words of one block.
* **`Keystream`** — a key and how many words have been taken; **`Keystream.next`** takes one more.
-/

namespace TownTraffic.Chance

/-- Eight words of key. -/
abbrev Key := Vector UInt32 8

/-- A table of sixteen words, four by four. -/
abbrev Table := Vector UInt32 16

/-! ## Keys from seeds -/

/-- One step of the generator that spreads a seed: the next state and the word it gives. -/
def spread (state : UInt64) : UInt64 × UInt32 :=
  let state := state * 6364136223846793005 + 11634580027462260723
  let mixed := (((state >>> 18) ^^^ state) >>> 27).toUInt32
  let turn := (state >>> 59).toUInt32
  (state, (mixed >>> turn) ||| (mixed <<< ((32 - turn) % 32)))

/-- The first `n` words spread from a state. -/
def spreadWords : (n : Nat) → UInt64 → Vector UInt32 n
  | 0, _ => #v[]
  | n + 1, state =>
    let (state, word) := spread state
    ((spreadWords n state).insertIdx 0 word)

/-- The key of a seed. -/
def Key.ofSeed (seed : UInt64) : Key := spreadWords 8 seed

/-! ## Blocks -/

/-- A word turned left by `k` bits. -/
def turnLeft (w : UInt32) (k : UInt32) : UInt32 := (w <<< k) ||| (w >>> (32 - k))

/-- Scrambles the four words at places `a`, `b`, `c` and `d`. -/
def quarterRound (t : Table) (a b c d : Fin 16) : Table :=
  let step (t : Table) (i j k : Fin 16) (turn : UInt32) : Table :=
    let t := t.set i (t[i] + t[j])
    t.set k (turnLeft (t[k] ^^^ t[i]) turn)
  step (step (step (step t a b d 16) c d b 12) a b d 8) c d b 7

/-- A round down the columns and a round along the diagonals. -/
def doubleRound (t : Table) : Table :=
  let t := quarterRound t 0 4 8 12
  let t := quarterRound t 1 5 9 13
  let t := quarterRound t 2 6 10 14
  let t := quarterRound t 3 7 11 15
  let t := quarterRound t 0 5 10 15
  let t := quarterRound t 1 6 11 12
  let t := quarterRound t 2 7 8 13
  quarterRound t 3 4 9 14

/-- The table before scrambling: four fixed words, the key, the number of the block in two words. -/
def initialTable (key : Key) (number : UInt64) : Table :=
  #v[0x61707865, 0x3320646e, 0x79622d32, 0x6b206574,
    key[0], key[1], key[2], key[3], key[4], key[5], key[6], key[7],
    number.toUInt32, (number >>> 32).toUInt32, 0, 0]

/-- The block of a given number: twelve rounds, added to the table they started from. -/
def block (key : Key) (number : UInt64) : Table :=
  let start := initialTable key number
  let scrambled := (List.replicate 6 ()).foldl (fun t _ => doubleRound t) start
  start.zipWith (· + ·) scrambled

/-! ## The sequence of words -/

/-- A keystream of which some words have been taken. -/
structure Keystream where
  key : Key
  /-- How many words have been taken. -/
  taken : Nat
deriving Repr, DecidableEq

namespace Keystream

/-- The untouched keystream of a seed. -/
def ofSeed (seed : UInt64) : Keystream := ⟨.ofSeed seed, 0⟩

/-- The word at a place of the keystream: blocks follow one another in number order. -/
def word (key : Key) (place : Nat) : UInt32 :=
  (block key (place / 16).toUInt64).get ⟨place % 16, Nat.mod_lt _ (by decide)⟩

/-- Takes the next word. -/
def next (s : Keystream) : UInt32 × Keystream :=
  (word s.key s.taken, { s with taken := s.taken + 1 })

/-- The next word of a keystream is the one behind those taken. -/
@[simp] theorem next_fst (s : Keystream) : s.next.1 = word s.key s.taken := rfl

/-- One word more has been taken then. -/
@[simp] theorem next_snd (s : Keystream) : s.next.2 = ⟨s.key, s.taken + 1⟩ := rfl

end Keystream

end TownTraffic.Chance
