import Backdrop.Wire.Error
import Backdrop.Wire.LittleEndian

/-!
# Backdrop.Wire.Header

The fixed part of a request: width and height in four bytes each, then the length of the name in
eight, all with the least significant byte first.

* `Header.encode` writes a header and `Header.decode` reads sixteen bytes, whatever they are.
* `Header.check` refuses headers that begin no request. One side without the other is reported
  before a name that is too long.
-/

namespace Backdrop
namespace Wire

structure Header where
  extent : Extent
  nameLength : UInt64
  deriving Repr, DecidableEq, Inhabited

namespace Header

/-- The length of an encoded header. -/
def size : Nat := 16

def encode (h : Header) : List UInt8 :=
  LittleEndian.bytes 4 h.extent.width.toNat ++ LittleEndian.bytes 4 h.extent.height.toNat ++
    LittleEndian.bytes 8 h.nameLength.toNat

/-- Reads the first sixteen bytes. -/
def decode (bytes : List UInt8) : Header :=
  ⟨⟨(LittleEndian.value (bytes.take 4)).toUInt32,
    (LittleEndian.value ((bytes.drop 4).take 4)).toUInt32⟩,
    (LittleEndian.value ((bytes.drop 8).take 8)).toUInt64⟩

def check (h : Header) : Except TransferError Unit :=
  if h.extent.isLopsided then .error (.badDimensions h.extent)
  else if maxNameLength < h.nameLength.toNat then .error (.nameTooLong h.nameLength.toNat)
  else .ok ()

/-- Both sides are zero: the request removes the picture. -/
def isClear (h : Header) : Bool := h.extent.width == 0 && h.extent.height == 0

@[simp] theorem length_encode (h : Header) : h.encode.length = size := by
  simp [encode, size]

theorem isClear_iff {h : Header} : h.isClear = true ↔ h.extent = .zero := by
  obtain ⟨⟨w, h⟩, n⟩ := h
  simp [isClear, Extent.zero]

theorem decode_encode (h : Header) : decode h.encode = h := by
  have width : (LittleEndian.value (h.encode.take 4)).toUInt32 = h.extent.width := by
    have : h.encode.take 4 = LittleEndian.bytes 4 h.extent.width.toNat := by
      rw [encode, List.append_assoc, List.take_left' (LittleEndian.length_bytes _ _)]
    rw [this, LittleEndian.value_bytes h.extent.width.toNat_lt]
    exact UInt32.ofNat_toNat
  have height : (LittleEndian.value ((h.encode.drop 4).take 4)).toUInt32 = h.extent.height := by
    have : (h.encode.drop 4).take 4 = LittleEndian.bytes 4 h.extent.height.toNat := by
      rw [encode, List.append_assoc, List.drop_left' (LittleEndian.length_bytes _ _),
        List.take_left' (LittleEndian.length_bytes _ _)]
    rw [this, LittleEndian.value_bytes h.extent.height.toNat_lt]
    exact UInt32.ofNat_toNat
  have nameLength : (LittleEndian.value ((h.encode.drop 8).take 8)).toUInt64 = h.nameLength := by
    have : (h.encode.drop 8).take 8 = LittleEndian.bytes 8 h.nameLength.toNat := by
      rw [encode, List.drop_left' (by simp), List.take_of_length_le (by simp)]
    rw [this, LittleEndian.value_bytes h.nameLength.toNat_lt]
    exact UInt64.ofNat_toNat
  unfold decode
  rw [width, height, nameLength]

end Header
end Wire
end Backdrop
