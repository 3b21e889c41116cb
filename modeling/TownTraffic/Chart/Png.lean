import TownTraffic.Chart.Deflate

/-!
# Portable network graphics

A PNG file is a signature and a sequence of chunks, each with a checksum. The first chunk announces
the size and the kind of the picture; its rows of samples, each with a byte that names a filter in
front, are compressed in the data chunks. A picture is kept as its header, its palette and its rows,
which tell the colours of all pixels; the filters are not undone.

* **`Png.checksum`** — the checksum of a chunk.
* **`Png.Chunk`**, **`Png.chunks`** — the chunks of a file.
* **`Png.Header`** — what the first chunk announces; **`Png.Header.rowLengths`** the lengths of the
  rows.
* **`Png.Picture`** — a picture; **`Png.picture?`** the one in a file, if it can be decoded.
-/

namespace TownTraffic.Png

/-! ## Chunks -/

/-- One step of the checksum: the remainder of a polynomial division, bit by bit. -/
def checksumBit (sum : UInt32) : UInt32 :=
  if sum &&& 1 = 1 then (sum >>> 1) ^^^ 0xedb88320 else sum >>> 1

/-- Takes a byte into the checksum. -/
def checksumByte (sum : UInt32) (b : UInt8) : UInt32 :=
  (List.range 8).foldl (fun sum _ => checksumBit sum) (sum ^^^ b.toUInt32)

/-- The checksum of bytes. -/
def checksum (bytes : List UInt8) : UInt32 :=
  bytes.foldl checksumByte 0xffffffff ^^^ 0xffffffff

/-- The number that four bytes spell, the highest first. -/
def wordOf (bytes : List UInt8) : Nat := bytes.foldl (fun n b => n * 256 + b.toNat) 0

/-- A part of a file. -/
structure Chunk where
  /-- Four letters. -/
  kind : List UInt8
  data : List UInt8
  /-- Whether the chunk passes its checksum. -/
  sound : Bool
deriving Repr, DecidableEq

/-- A name of four letters as bytes. -/
def letters (name : String) : List UInt8 := name.toList.map fun c => c.toNat.toUInt8

/-- Whether a picture cannot be understood without chunks of a kind: its name starts with a capital
letter. -/
def isCritical (kind : List UInt8) : Bool :=
  match kind with
  | b :: _ => b &&& 0x20 == 0
  | [] => true

/-- What there is of a file: its whole chunks, and the kind of the one that is cut off, if the file
goes so far. -/
structure Chunks where
  whole : List Chunk
  cut : Option (List UInt8)
deriving Repr, DecidableEq

/-- The chunks of bytes, of which there are at most `bound`. -/
def chunks : (bound : Nat) → List UInt8 → Chunks
  | 0, _ => ⟨[], none⟩
  | bound + 1, bytes =>
    if bytes.length < 8 then ⟨[], none⟩
    else
      let length := wordOf (bytes.take 4)
      let kind := (bytes.drop 4).take 4
      let rest := bytes.drop 8
      if rest.length < length + 4 then ⟨[], some kind⟩
      else
        let data := rest.take length
        let sum := wordOf ((rest.drop length).take 4)
        let chunk := ⟨kind, data, (checksum (kind ++ data)).toNat = sum⟩
        let more := chunks bound (rest.drop (length + 4))
        { more with whole := chunk :: more.whole }

/-! ## Headers -/

/-- How the samples of a pixel are told apart. -/
inductive PixelKind where
  | gray
  | trueColour
  | indexed
  | grayWithAlpha
  | trueColourWithAlpha
deriving Repr, DecidableEq

/-- The kind with a given number. -/
def PixelKind.ofNat? : Nat → Option PixelKind
  | 0 => some gray
  | 2 => some trueColour
  | 3 => some indexed
  | 4 => some grayWithAlpha
  | 6 => some trueColourWithAlpha
  | _ => none

/-- The number of samples of a pixel. -/
def PixelKind.samples : PixelKind → Nat
  | gray | indexed => 1
  | grayWithAlpha => 2
  | trueColour => 3
  | trueColourWithAlpha => 4

/-- The numbers of bits that a sample may have. -/
def PixelKind.depths : PixelKind → List Nat
  | gray => [1, 2, 4, 8, 16]
  | indexed => [1, 2, 4, 8]
  | _ => [8, 16]

/-- What the first chunk announces. -/
structure Header where
  width : Nat
  height : Nat
  depth : Nat
  pixels : PixelKind
  /-- Whether the pixels come in seven passes, each finer than the ones before. -/
  interlaced : Bool
deriving Repr, DecidableEq

/-- The header in the data of the first chunk. -/
def Header.ofData? (data : List UInt8) : Option Header := do
  let [_, _, _, _, _, _, _, _, depth, kind, compression, filter, interlace] := data | none
  let width := wordOf (data.take 4)
  let height := wordOf ((data.drop 4).take 4)
  let pixels ← PixelKind.ofNat? kind.toNat
  if 0 < width ∧ 0 < height ∧ depth.toNat ∈ pixels.depths ∧ compression = 0 ∧ filter = 0
      ∧ interlace ≤ 1 then
    return ⟨width, height, depth.toNat, pixels, interlace = 1⟩
  else none

/-- The passes of an interlaced picture: the first column and row of each, and its steps. -/
def passes : List ((Nat × Nat) × (Nat × Nat)) :=
  [((0, 0), (8, 8)), ((4, 0), (8, 8)), ((0, 4), (4, 8)), ((2, 0), (4, 4)), ((0, 2), (2, 4)),
    ((1, 0), (2, 2)), ((0, 1), (1, 2))]

/-- How many of `size` places lie on a grid. -/
def onGrid (first step size : Nat) : Nat := (size - first + step - 1) / step

/-- The widths and heights of the pictures whose rows follow one another: the picture itself, or
what each pass has of it. -/
def Header.parts (h : Header) : List (Nat × Nat) :=
  if h.interlaced then
    passes.map fun ((x, y), dx, dy) => (onGrid x dx h.width, onGrid y dy h.height)
  else [(h.width, h.height)]

/-- The number of bytes of a row of some width, without its filter. -/
def Header.rowBytes (h : Header) (width : Nat) : Nat := (width * h.pixels.samples * h.depth + 7) / 8

/-- The rows of the picture in their order: of each part that is not empty, a number of rows of some
length. -/
def Header.rowLengths (h : Header) : List (Nat × Nat) :=
  (h.parts.filter fun (width, height) => 0 < width ∧ 0 < height).map
    fun (width, height) => (height, h.rowBytes width)

/-! ## Pictures -/

/-- Passes over `count` rows of some length; none if they are cut off or name an unknown filter. -/
def skipRows (length : Nat) : (count : Nat) → List UInt8 → Option (List UInt8)
  | 0, bytes => some bytes
  | _ + 1, [] => none
  | count + 1, filter :: bytes =>
    if filter ≤ 4 ∧ (bytes.take length).length = length then
      skipRows length count (bytes.drop length)
    else none

/-- What follows all rows of a picture; none if the bytes do not hold them. -/
def skipAll : List (Nat × Nat) → List UInt8 → Option (List UInt8)
  | [], bytes => some bytes
  | (count, length) :: rows, bytes => do skipAll rows (← skipRows length count bytes)

/-- A picture. -/
structure Picture where
  header : Header
  /-- The chunks before the data, with the palette and the transparent colours among them. -/
  lead : List Chunk
  /-- All rows, each with its filter in front. -/
  rows : List UInt8
deriving Repr, DecidableEq

/-- Width and height of a picture, in pixels. -/
def Picture.size (p : Picture) : Nat × Nat := (p.header.width, p.header.height)

/-- The chunks before the data. They are sound if they matter, there is a palette if one is needed,
and there is no second header and no end among them. -/
def leadIsFine (pixels : PixelKind) (lead : List Chunk) : Bool :=
  let palettes := lead.countP (·.kind == letters "PLTE")
  lead.all (fun c => !isCritical c.kind || (c.sound && c.kind == letters "PLTE"))
    && palettes ≤ 1 && (pixels != .indexed || palettes == 1)

/-- The first bytes of every file. -/
def signature : List UInt8 := [0x89, 0x50, 0x4e, 0x47, 0x0d, 0x0a, 0x1a, 0x0a]

/-- The picture in a file, if it can be decoded. All data chunks must be sound, and another chunk
must follow them, or nobody knows that they are complete. -/
def picture? (bytes : List UInt8) : Option Picture := do
  if bytes.take 8 != signature then none
  let found := chunks bytes.length (bytes.drop 8)
  let first :: others := found.whole | none
  if !(first.sound && first.kind == letters "IHDR") then none
  let header ← Header.ofData? first.data
  let isData (c : Chunk) : Bool := c.kind == letters "IDAT"
  let lead := others.takeWhile (!isData ·)
  let data := (others.dropWhile (!isData ·)).takeWhile isData
  let beyond := (others.dropWhile (!isData ·)).dropWhile isData
  let isFollowed := !beyond.isEmpty || found.cut.any (· != letters "IDAT")
  if leadIsFine header.pixels lead && data.all (·.sound) && !data.isEmpty && isFollowed then
    let found ← Deflate.inflate (data.flatMap (·.data))
    let rest ← skipAll header.rowLengths found
    return ⟨header, lead, found.take (found.length - rest.length)⟩
  else none

end TownTraffic.Png
