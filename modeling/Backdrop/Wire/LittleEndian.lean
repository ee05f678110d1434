/-!
# Backdrop.Wire.LittleEndian

Numbers as byte strings of a fixed width, least significant byte first.

`LittleEndian.value_bytes` and `LittleEndian.bytes_value` say that the two directions undo each
other.
-/

namespace Backdrop
namespace LittleEndian

/-- The lowest `width` bytes of a number. -/
def bytes : (width : Nat) → Nat → List UInt8
  | 0, _ => []
  | width + 1, n => n.toUInt8 :: bytes width (n / 256)

/-- How many numbers so many bytes can hold. -/
def count : (width : Nat) → Nat
  | 0 => 1
  | width + 1 => 256 * count width

def value : List UInt8 → Nat
  | [] => 0
  | b :: bs => b.toNat + 256 * value bs

@[simp] theorem length_bytes (width n : Nat) : (bytes width n).length = width := by
  induction width generalizing n with
  | zero => rfl
  | succ w ih => simp [bytes, ih]

theorem value_lt (bs : List UInt8) : value bs < count bs.length := by
  induction bs with
  | nil => simp [value, count]
  | cons b bs ih =>
    have hb := b.toNat_lt
    simp only [value, List.length_cons, count]
    omega

theorem value_bytes {width n : Nat} (h : n < count width) : value (bytes width n) = n := by
  induction width generalizing n with
  | zero => simp [count] at h; simp [bytes, value, h]
  | succ w ih =>
    have : n / 256 < count w := by
      simp only [count] at h
      omega
    simp only [bytes, value, ih this, UInt8.toNat_ofNat', Nat.toUInt8]
    omega

theorem bytes_value (bs : List UInt8) : bytes bs.length (value bs) = bs := by
  induction bs with
  | nil => rfl
  | cons b bs ih =>
    have hb := b.toNat_lt
    have h1 : (b.toNat + 256 * value bs) / 256 = value bs := by omega
    have h2 : (b.toNat + 256 * value bs).toUInt8 = b := by
      apply UInt8.toNat_inj.mp
      simp only [Nat.toUInt8, UInt8.toNat_ofNat']
      omega
    simp only [List.length_cons, bytes, value, h1, h2, ih]

end LittleEndian
end Backdrop
