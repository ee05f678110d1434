import Backdrop.Pixel.Extent
import Backdrop.Pixel.Resample

/-!
# Backdrop.Pixel.Cover

Putting a picture onto a screen with one uniform factor.

The factor is the larger of the two ratios from source to target, so that the target pixel (x, y)
shows the source at (x · factor, y · factor). Only the pixels of the *window* lie inside the source;
all others are written as zero. Sources have their bytes in the order red, green, blue, alpha, and
screens in the order blue, green, red, unused.

* `Cover.factor` is the factor in double precision, `Cover.window` the exact window.
* `Cover.place` writes a picture into the top left corner of a screen.
* `Cover.coverBy` checks lengths, resamples where the window differs from the source, and places.
  It does so with any `Resampler`, and `Cover.cover` with the one of this library.

Arithmetic on the way is checked, as in a program that is built with overflow checks. A covering is
refused for a `ScaleError`. Where a length does not fit into a word it ends in a `Cover.Crash`, and
the program with it.
-/

namespace Backdrop

/-- One of the two buffers of a scaling. -/
inductive Cover.Side where
  | source | destination
  deriving Repr, DecidableEq, Inhabited

def Cover.Side.name : Cover.Side → String
  | .source => "source"
  | .destination => "destination"

/-- Why a picture cannot be put onto a screen. -/
inductive ScaleError where
  | zeroExtent (source target : Extent)
  | lengthMismatch (side : Cover.Side) (expected actual : Nat)
  deriving Repr, DecidableEq, Inhabited

def ScaleError.message : ScaleError → String
  | .zeroExtent source target =>
    s!"cannot scale {source.text} into {target.text}: zero-sized extent"
  | .lengthMismatch side expected actual =>
    s!"{side.name} buffer holds {actual} bytes, {expected} required"

namespace Cover

/-- What a machine cannot do. -/
inductive Crash where
  | overflow
  | outside
  | zeroDivisor
  /-- A range whose end is before its beginning. -/
  | disorder
  deriving Repr, DecidableEq

def Crash.message : Crash → String
  | .overflow => "arithmetic overflow"
  | .outside => "range out of bounds"
  | .zeroDivisor => "division by zero"
  | .disorder => "range ends before it starts"

/-- Why covering a screen stops early. -/
inductive Stop where
  | refused (e : ScaleError)
  | crashed (c : Crash)
  deriving Repr, DecidableEq

def Stop.message : Stop → String
  | .refused e => e.message
  | .crashed c => c.message

def Stop.crash? : Stop → Option Crash
  | .refused _ => none
  | .crashed c => some c

/-- The larger number; a number that is not one gives way to the other. -/
def larger (x y : Float) : Float :=
  if x.isNaN then y else if y.isNaN then x else if x < y then y else x

def factor (source target : Extent) : Float :=
  larger (source.width.toFloat / target.width.toFloat)
    (source.height.toFloat / target.height.toFloat)

/-- Division rounded up. -/
def divCeil (a b : UInt64) : UInt64 := if a % b > 0 then a / b + 1 else a / b

def clampWord (x low high : UInt64) : UInt64 :=
  if x < low then low else if high < x then high else x

/-- The target pixels whose sample lies inside the source. The axis with the larger ratio spans the
target, the other is rounded up. -/
def window (source target : Extent) : Extent :=
  let sw := source.width.toUInt64
  let sh := source.height.toUInt64
  let dw := target.width.toUInt64
  let dh := target.height.toUInt64
  if sw * dh ≥ sh * dw then
    ⟨target.width, (clampWord (divCeil (sh * dw) sw) 1 dh).toUInt32⟩
  else
    ⟨(clampWord (divCeil (sw * dh) sh) 1 dw).toUInt32, target.height⟩

/-- Where a channel of a screen pixel is found in a picture pixel: the outer colours trade places. -/
def swapChannel (c : Nat) : Nat := if c = 0 then 2 else if c = 2 then 0 else c

/-- Exchanges red and blue in every whole pixel. -/
def swapRedBlue (bytes : Array UInt8) : Array UInt8 :=
  bytes.mapIdx fun i b =>
    if i / 4 * 4 + 4 ≤ bytes.size then bytes.getD (i / 4 * 4 + swapChannel (i % 4)) 0 else b

/-- Byte `i` of a screen that shows a picture in its top left corner. -/
def placedByte (picture : Array UInt8) (size target : Extent) (i : Nat) : UInt8 :=
  let row := target.width.toNat * 4
  let x := i % row / 4
  let y := i / row
  if x < size.width.toNat ∧ y < size.height.toNat then
    picture.getD ((y * size.width.toNat + x) * 4 + swapChannel (i % 4)) 0
  else 0

/-- Writes the rows of the target that the buffer holds; the bytes after them stay. -/
def place (dst : Array UInt8) (target : Extent) (picture : Array UInt8) (size : Extent) :
    Array UInt8 :=
  let row := target.width.toNat * 4
  let rows := min target.height.toNat (dst.size / row)
  dst.mapIdx fun i b => if i < rows * row then placedByte picture size target i else b

/-- Checks that a buffer is as long as the extent asks for. Lengths of buffers are words. So a
length that does not fit into one is too long for every buffer, but the product that would tell so
overflows. -/
def checkLength (side : Side) (buffer : Array UInt8) (e : Extent) : Except Stop Unit :=
  if e.byteCount ≤ buffer.size then .ok ()
  else
    match e.byteLength? with
    | some n => .error (.refused (.lengthMismatch side n buffer.size))
    | none => .error (.crashed .overflow)

/-- A way to resample pictures. What comes out fills the window. -/
structure Resampler where
  run : Filter → Array UInt8 → Extent → Extent → Array UInt8
  size_run : ∀ filter picture size win, (run filter picture size win).size = win.byteCount

/-- The picture that fills the window. -/
def sampled (filter : Filter) (src : Array UInt8) (source win : Extent) : Array UInt8 :=
  Resample.resample filter src source.width.toNat source.height.toNat
    win.width.toNat win.height.toNat

/-- The resampler of this library. -/
def Resampler.separable : Resampler where
  run := sampled
  size_run _ _ _ _ := Resample.size_resample _ _ _ _ _ _

/-- Shows `src` on `dst` with the help of a resampler: the buffer afterwards, and the factor. -/
def coverBy (R : Resampler) (dst : Array UInt8) (target : Extent) (src : Array UInt8)
    (source : Extent) (filter : Filter) : Except Stop (Array UInt8 × Float) :=
  if source.isEmpty || target.isEmpty then .error (.refused (.zeroExtent source target))
  else
    match checkLength .source src source with
    | .error e => .error e
    | .ok () =>
      match checkLength .destination dst target with
      | .error e => .error e
      | .ok () =>
        let picture := src.extract 0 source.byteCount
        let win := window source target
        if win = source then .ok (place dst target picture source, factor source target)
        else if picture.size < source.byteCount then
          .error (.refused (.lengthMismatch .source source.byteCount picture.size))
        else .ok (place dst target (R.run filter picture source win) win, factor source target)

/-- Shows `src` on `dst`. -/
def cover (dst : Array UInt8) (target : Extent) (src : Array UInt8) (source : Extent)
    (filter : Filter) : Except Stop (Array UInt8 × Float) :=
  coverBy .separable dst target src source filter

end Cover
end Backdrop
