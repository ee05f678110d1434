import Backdrop.Picture.Basic
import Backdrop.Picture.Inflate
import Backdrop.Text.Utf8
import Backdrop.Wire.LittleEndian

/-!
# Backdrop.Picture.Png

PNG pictures with eight bits a sample, whose rows stand in order.

A file is a signature and a sequence of chunks, each with a checksum. The chunks with image data
follow one another directly; `Png.scan` collects what the chunks say up to the end of that data, and
what comes later is not looked at. `Png.decode` undoes the compression and the line filters and gives
every pixel an opacity.
-/

namespace Backdrop
namespace Png

def signature : List UInt8 := [0x89, 0x50, 0x4E, 0x47, 0x0D, 0x0A, 0x1A, 0x0A]

/-! ## Chunks -/

/-- Divides `n` bits further by the polynomial of the checksum, the highest power in the lowest
bit. -/
def divide : Nat → UInt32 → UInt32
  | 0, c => c
  | n + 1, c => divide n (if c % 2 = 1 then (c >>> 1) ^^^ 0xEDB88320 else c >>> 1)

def checksum (bytes : List UInt8) : UInt32 :=
  ~~~ (bytes.foldl (fun c b => divide 8 (c ^^^ b.toUInt32)) (~~~ 0))

/-- A number with its most significant byte first. -/
def number (bytes : List UInt8) : Nat := LittleEndian.value bytes.reverse

structure Chunk where
  kind : List UInt8
  content : List UInt8
  /-- The checksum is right. -/
  intact : Bool
  deriving Repr, DecidableEq, Inhabited

namespace Chunk

/-- The bytes of a chunk apart from its content. -/
def overhead : Nat := 12

/-- The length of a chunk's content, as its first bytes give it. -/
def contentLength (bytes : List UInt8) : Nat := number (bytes.take 4)

def kindOf (bytes : List UInt8) : List UInt8 := (bytes.drop 4).take 4

/-- Reads a chunk that is there as a whole. -/
def take (bytes : List UInt8) : Option (Chunk × List UInt8) :=
  let n := contentLength bytes
  if bytes.length < n + overhead then none
  else
    let covered := (bytes.drop 4).take (n + 4)
    let sum := number ((bytes.drop (n + 8)).take 4)
    some (⟨kindOf bytes, covered.drop 4, (checksum covered).toNat == sum⟩,
      bytes.drop (n + overhead))

theorem take_length {bytes rest : List UInt8} {c : Chunk} (h : take bytes = some (c, rest)) :
    rest.length < bytes.length := by
  unfold take at h
  simp only at h
  split at h
  · simp at h
  · next hlen =>
    simp only [Option.some.injEq, Prod.mk.injEq] at h
    obtain ⟨-, rfl⟩ := h
    simp only [List.length_drop, overhead] at hlen ⊢
    omega

/-- A picture cannot be shown without the chunks of this kind; others may be damaged. -/
def isCritical (c : Chunk) : Bool :=
  match c.kind with
  | b :: _ => !b.toNat.testBit 5
  | [] => true

end Chunk

/-! ## What the chunks say -/

/-- What the samples of a pixel mean. -/
inductive Colouring where
  | gray | rgb | indexed | grayOpacity | rgbOpacity
  deriving Repr, DecidableEq, Inhabited

namespace Colouring

def ofCode? : UInt8 → Option Colouring
  | 0 => some .gray
  | 2 => some .rgb
  | 3 => some .indexed
  | 4 => some .grayOpacity
  | 6 => some .rgbOpacity
  | _ => none

/-- How many samples a pixel has. -/
def samples : Colouring → Nat
  | .gray | .indexed => 1
  | .grayOpacity => 2
  | .rgb => 3
  | .rgbOpacity => 4

end Colouring

structure Header where
  extent : Extent
  colouring : Colouring
  deriving Repr, DecidableEq, Inhabited

/-- Eight bits a sample, the one compression, the one family of line filters, rows in order. More content
than that is not looked at. -/
def Header.ofContent? (content : List UInt8) : Option Header :=
  match content.drop 8 with
  | 8 :: code :: 0 :: 0 :: 0 :: _ => do
    let e : Extent := ⟨(number (content.take 4)).toUInt32,
      (number ((content.drop 4).take 4)).toUInt32⟩
    if e.isEmpty then none else return ⟨e, ← Colouring.ofCode? code⟩
  | _ => none

structure Parts where
  header : Header
  /-- How many frames have been announced. -/
  frames : Nat
  palette : Option (List UInt8)
  transparency : Option (List UInt8)
  /-- The image data so far; none before its first chunk. -/
  data : Option (List UInt8)
  deriving Repr, DecidableEq, Inhabited

def paletteKind : List UInt8 := Utf8.encode "PLTE"
def transparencyKind : List UInt8 := Utf8.encode "tRNS"
def dataKind : List UInt8 := Utf8.encode "IDAT"
def headerKind : List UInt8 := Utf8.encode "IHDR"

/-- What announces a frame of a film. -/
def frameKind : List UInt8 := Utf8.encode "fcTL"

/-- Data of a further frame, which cannot come before the image. -/
def frameDataKind : List UInt8 := Utf8.encode "fdAT"

/-- The image itself as a frame: a number in order, the sides of the image, no offset, the time to show
it, one of three ways to go on from it and one of two ways to draw it. -/
def Parts.isFrame (p : Parts) (content : List UInt8) : Bool :=
  let wanted := [p.frames, p.header.extent.width.toNat, p.header.extent.height.toNat, 0, 0]
  26 ≤ content.length && content.getD 24 0 ≤ 2 && content.getD 25 0 ≤ 1 &&
    ((List.range 5).map fun i => number ((content.drop (4 * i)).take 4)) == wanted

/-- There is one palette, of one to 256 colours. -/
def Parts.addPalette (p : Parts) (content : List UInt8) : Option Parts :=
  if p.palette.isSome || content.isEmpty || 768 < content.length || content.length % 3 != 0 then none
  else some { p with palette := some content }

/-- Transparency in its place: one colour for colours without opacity, with two bytes a sample, or
opacities for the entries of a palette. -/
def Parts.isTransparency (p : Parts) (content : List UInt8) : Bool :=
  match p.header.colouring with
  | .gray | .rgb => 2 * p.header.colouring.samples ≤ content.length
  | .indexed => p.palette.isSome
  | .grayOpacity | .rgbOpacity => false

/-- The first transparency in its place counts. -/
def Parts.addTransparency (p : Parts) (content : List UInt8) : Parts :=
  if p.transparency.isNone && p.isTransparency content then { p with transparency := some content }
  else p

/-- Takes in a chunk after the header. Of the chunks that are not known, the critical ones cannot be
passed over. -/
def Parts.add (p : Parts) (c : Chunk) : Option Parts :=
  if !c.intact then (if c.isCritical then none else some p)
  else if c.kind = paletteKind then p.addPalette c.content
  else if c.kind = transparencyKind then some (p.addTransparency c.content)
  else if c.kind = dataKind then some { p with data := some (p.data.getD [] ++ c.content) }
  else if c.kind = frameKind then
    if p.isFrame c.content then some { p with frames := p.frames + 1 } else none
  else if c.isCritical || c.kind = frameDataKind then none
  else some p

/-- Reads chunks until the image data is over, which the head of another chunk tells. -/
def scan (p : Parts) (bytes : List UInt8) : Option Parts :=
  if p.data.isSome && Chunk.kindOf bytes != dataKind then
    if (Chunk.kindOf bytes).length = 4 then some p else none
  else
    match _h : Chunk.take bytes with
    | none => none
    | some (c, rest) =>
      match p.add c with
      | none => none
      | some p => scan p rest
termination_by bytes.length
decreasing_by exact Chunk.take_length _h

/-- The parts of a file after its signature. -/
def partsOf (bytes : List UInt8) : Option Parts := do
  let (c, rest) ← Chunk.take bytes
  if c.intact && c.kind == headerKind then
    scan ⟨← Header.ofContent? c.content, 0, none, none, none⟩ rest
  else none

/-! ## Rows -/

/-- What is added to the samples of a row. -/
inductive LineFilter where
  | nothing | left | above | mean | nearest
  deriving Repr, DecidableEq, Inhabited

namespace LineFilter

def ofCode? : UInt8 → Option LineFilter
  | 0 => some .nothing
  | 1 => some .left
  | 2 => some .above
  | 3 => some .mean
  | 4 => some .nearest
  | _ => none

/-- The one of three neighbours that is nearest to `left + above - corner`; of several, the first. -/
def nearestOf (left above corner : UInt8) : UInt8 :=
  let guess : Int := left.toNat + above.toNat - corner.toNat
  let off (v : UInt8) : Nat := (guess - v.toNat).natAbs
  if off left ≤ off above ∧ off left ≤ off corner then left
  else if off above ≤ off corner then above
  else corner

def addend (f : LineFilter) (left above corner : UInt8) : UInt8 :=
  match f with
  | .nothing => 0
  | .left => left
  | .above => above
  | .mean => ((left.toNat + above.toNat) / 2).toUInt8
  | .nearest => nearestOf left above corner

/-- A row as it was before the filter; `step` is the number of samples in a pixel. -/
def undo (f : LineFilter) (step : Nat) (previous row : Array UInt8) : Array UInt8 :=
  (List.range row.size).foldl (fun out i =>
    let back (samples : Array UInt8) : UInt8 := if i < step then 0 else samples.getD (i - step) 0
    out.push (row.getD i 0 + f.addend (back out) (previous.getD i 0) (back previous))) #[]

end LineFilter

/-- The samples of `n` rows that start at a position of the data, after the rows before them. -/
def rowsFrom (step width : Nat) (data : Array UInt8) :
    (n : Nat) → (position : Nat) → (previous : Array UInt8) → Array UInt8 → Option (Array UInt8)
  | 0, _, _, out => some out
  | n + 1, position, previous, out => do
    let f ← LineFilter.ofCode? (← data[position]?)
    let stop := position + 1 + step * width
    if data.size < stop then none
    else
      let row := f.undo step previous (data.extract (position + 1) stop)
      rowsFrom step width data n stop row (out ++ row)

/-! ## Pixels -/

/-- The opacities of entries of the palette; more than it has entries make no sense at all. -/
def Parts.opacities (p : Parts) (palette : List UInt8) : List UInt8 :=
  let given := p.transparency.getD []
  if 3 * given.length ≤ palette.length then given else []

/-- Colour and opacity of an entry of the palette; black if there is none. -/
def Parts.paletteEntry (p : Parts) (palette : List UInt8) (i : Nat) : List UInt8 :=
  match (palette.drop (3 * i)).take 3 with
  | [r, g, b] => [r, g, b, ((p.opacities palette)[i]?).getD Picture.opaque_]
  | _ => [0, 0, 0, Picture.opaque_]

/-- The one colour that is transparent, if any: of each sample the lower byte. -/
def Parts.transparentColour (p : Parts) : Option (List UInt8) :=
  p.transparency.map fun t =>
    (List.range p.header.colouring.samples).map fun i => t.getD (2 * i + 1) 0

/-- Opaque but for one colour. -/
def Parts.opacityOf (p : Parts) (colour : List UInt8) : UInt8 :=
  if p.transparentColour = some colour then 0 else Picture.opaque_

/-- How the samples of a pixel become colour and opacity; none if there is no palette for them. -/
def Parts.pixel? (p : Parts) : Option (List UInt8 → List UInt8) :=
  match p.header.colouring with
  | .gray => some fun s => Picture.gray (s.headD 0) (p.opacityOf s)
  | .rgb => some fun s => s ++ [p.opacityOf s]
  | .indexed => p.palette.map fun palette s => p.paletteEntry palette (s.headD 0).toNat
  | .grayOpacity => some fun s => Picture.gray (s.headD 0) (s.getD 1 0)
  | .rgbOpacity => some id

def Parts.picture? (p : Parts) : Option Picture := do
  let pixel ← p.pixel?
  let data ← (p.data.bind Picture.inflateWrapped)
  let e := p.header.extent
  let step := p.header.colouring.samples
  let samples ← rowsFrom step e.width.toNat data e.height.toNat 0 #[] #[]
  let pixels := (List.range (samples.size / step)).foldl (fun out i =>
    (pixel (samples.extract (step * i) (step * (i + 1))).toList).foldl Array.push out) #[]
  return ⟨e, pixels⟩

/-- Decodes what follows the signature. -/
def decode (bytes : List UInt8) : Option Picture := (partsOf bytes).bind Parts.picture?

end Png
end Backdrop
