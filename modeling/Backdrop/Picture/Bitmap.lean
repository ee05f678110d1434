import Backdrop.Picture.Basic
import Backdrop.Text.Utf8
import Backdrop.Wire.LittleEndian

/-!
# Backdrop.Picture.Bitmap

Bitmaps with three bytes a pixel and no compression. Rows are padded to whole words and stand from the
bottom up, or from the top down if the height is negative.

There are two headers: the short one, whose sides have two bytes, and the long one, which comes in
several lengths. Only the fields up to the compression are looked at.
-/

namespace Backdrop
namespace Bitmap

def signature : List UInt8 := Utf8.encode "BM"

/-- A number of `width` bytes at a position of a file; nothing past its end. -/
def numberAt (bytes : List UInt8) (position width : Nat) : Option Nat :=
  let part := (bytes.drop position).take width
  if part.length = width then some (LittleEndian.value part) else none

/-- The same number with a sign. -/
def signedAt (bytes : List UInt8) (position width : Nat) : Option Int :=
  (numberAt bytes position width).map fun n => (n : Int).bmod (LittleEndian.count width)

/-- The length of the short header. -/
def shortLength : Nat := 12

/-- The lengths of the long headers, which have their fields in the same places. -/
def longLengths : List Nat := [40, 52, 56, 108, 124]

/-- The bytes of a file up to the end of the fields that every long header has. -/
def longEnd : Nat := 54

/-- No width is greater, and no height of rows that stand from the bottom up. -/
def maxSide : Int := 65535

structure Header where
  width : Nat
  height : Nat
  topDown : Bool
  /-- Where the rows start. -/
  start : Nat
  deriving Repr, DecidableEq, Inhabited

/-- A header with these sides; without rows there is nothing to see, but nothing wrong either. -/
def Header.ofSides? (width height : Int) (start : Nat) : Option Header :=
  if 0 < width ∧ width ≤ maxSide ∧ height ≤ maxSide ∧ height ≠ -2147483648 then
    some ⟨width.toNat, height.natAbs, height < 0, start⟩
  else none

/-- One plane with three bytes a pixel, told by the two numbers at a place. -/
def isPlain (bytes : List UInt8) (position : Nat) : Bool :=
  numberAt bytes position 2 == some 1 && numberAt bytes (position + 2) 2 == some 24

def Header.ofShort? (bytes : List UInt8) (start : Nat) : Option Header := do
  let width ← numberAt bytes 18 2
  let height ← numberAt bytes 20 2
  if isPlain bytes 22 then Header.ofSides? width height start else none

def Header.ofLong? (bytes : List UInt8) (start : Nat) : Option Header := do
  let width ← signedAt bytes 18 4
  let height ← signedAt bytes 22 4
  if isPlain bytes 26 && numberAt bytes 30 4 == some 0 && longEnd ≤ bytes.length then
    Header.ofSides? width height start
  else none

def Header.of? (bytes : List UInt8) : Option Header := do
  let start ← numberAt bytes 10 4
  let length ← numberAt bytes 14 4
  if length = shortLength then Header.ofShort? bytes start
  else if longLengths.contains length then Header.ofLong? bytes start
  else none

/-- The length of a row with its padding. -/
def Header.stride (h : Header) : Nat := (h.width * 3 + 3) / 4 * 4

/-- Pixels whose bytes stand in the order blue, green, red. -/
def rowPixels : List UInt8 → List UInt8
  | b :: g :: r :: rest => r :: g :: b :: Picture.opaque_ :: rowPixels rest
  | _ => []

def Header.rowAt (h : Header) (rows : Array UInt8) (i : Nat) : List UInt8 :=
  rowPixels (rows.extract (h.stride * i) (h.stride * i + h.width * 3)).toList

def decode (bytes : List UInt8) : Option Picture := do
  let h ← Header.of? bytes
  let rows := (bytes.drop h.start).toArray
  if rows.size < h.stride * h.height then none
  else
    let order := if h.topDown then List.range h.height else (List.range h.height).reverse
    return ⟨⟨h.width.toUInt32, h.height.toUInt32⟩, (order.flatMap (h.rowAt rows)).toArray⟩

end Bitmap
end Backdrop
