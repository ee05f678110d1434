import Backdrop.Proofs.Wire.Grammar
import Mathlib.Logic.ExistsUnique

/-!
# Backdrop.Proofs.Wire.Header

Headers and strings of sixteen bytes correspond to each other, one to one.

* `LittleEndian.bytes_eq_ofFn` gives every byte of a number by its place, and
  `LittleEndian.bytes_append` puts two numbers side by side.
* `Header.number` is a header as one number of 128 bits, whose bytes are the header's
  (`Header.encode_eq_bytes`).
* `Header.encode_decode` and `Header.decode_encode` undo each other, so that a stream begins with
  exactly one header (`Header.encode_prefix_iff`).
-/

namespace Backdrop

namespace LittleEndian

theorem bytes_eq_ofFn (width n : Nat) :
    bytes width n = List.ofFn fun i : Fin width => (n >>> (8 * i.val)).toUInt8 := by
  induction width generalizing n with
  | zero => rfl
  | succ w ih =>
    have behind : ∀ i : Nat, n >>> (8 * (i + 1)) = (n / 256) >>> (8 * i) := by
      intro i
      rw [Nat.mul_succ, Nat.add_comm, Nat.shiftRight_add, Nat.shiftRight_eq_div_pow n 8]
    rw [bytes, ih, List.ofFn_succ]
    simp only [Fin.val_zero, Fin.val_succ, behind]
    rfl

/-- A number that fits its bytes, and another one behind it. -/
theorem bytes_append {v n : Nat} (fits : n < count v) (w m : Nat) :
    bytes (v + w) (n + count v * m) = bytes v n ++ bytes w m := by
  induction v generalizing n with
  | zero =>
    obtain rfl : n = 0 := Nat.lt_one_iff.mp fits
    simp [bytes, count]
  | succ v ih =>
    rw [count] at fits ⊢
    have last : (n + 256 * count v * m).toUInt8 = n.toUInt8 := by
      apply UInt8.toNat_inj.mp
      simp only [Nat.toUInt8, UInt8.toNat_ofNat', Nat.mul_assoc]
      omega
    have others : (n + 256 * count v * m) / 256 = n / 256 + count v * m := by
      rw [Nat.mul_assoc]
      omega
    rw [Nat.succ_add, bytes, bytes, last, others, ih (by omega), List.cons_append]

/-- A word that is as wide as the bytes holds what they say. -/
theorem bytes_value_mod (width : Nat) {bs : List UInt8} (sized : bs.length = width) :
    bytes width (value bs % count width) = bs := by
  subst sized
  rw [Nat.mod_eq_of_lt (value_lt bs), bytes_value]

end LittleEndian

namespace Wire
namespace Header

open LittleEndian

/-- Width, height and length of the name in one number, the width lowest. -/
def number (h : Header) : Nat :=
  h.extent.width.toNat + UInt32.size * h.extent.height.toNat + UInt64.size * h.nameLength.toNat

theorem encode_eq_bytes (h : Header) : h.encode = bytes 16 h.number := by
  have stacked : h.number = h.extent.width.toNat + count 4 *
      (h.extent.height.toNat + count 4 * h.nameLength.toNat) := by
    have word : count 4 = UInt32.size := rfl
    have long : UInt64.size = UInt32.size * UInt32.size := rfl
    rw [number, word, long, Nat.mul_add, Nat.mul_assoc, Nat.add_assoc]
  rw [stacked, show 16 = 4 + (4 + 8) from rfl, bytes_append h.extent.width.toNat_lt,
    bytes_append h.extent.height.toNat_lt, ← List.append_assoc]
  rfl

theorem encode_decode {b : List UInt8} (sized : b.length = 16) : (decode b).encode = b := by
  have last : (b.drop 8).length = 8 := by simp [sized]
  -- A word of four bytes keeps a value modulo `count 4`, and one of eight modulo `count 8`.
  calc (decode b).encode
      = bytes 4 (value (b.take 4) % count 4) ++ bytes 4 (value ((b.drop 4).take 4) % count 4) ++
          bytes 8 (value ((b.drop 8).take 8) % count 8) := rfl
    _ = b.take 4 ++ (b.drop 4).take 4 ++ (b.drop 8).take 8 := by
        rw [bytes_value_mod 4 (by simp [sized]), bytes_value_mod 4 (by simp [sized]),
          bytes_value_mod 8 (by simp [sized])]
    _ = b.take 8 ++ b.drop 8 := by
        rw [← List.take_add, List.take_of_length_le (Nat.le_of_eq last)]
    _ = b := List.take_append_drop 8 b

/-- The header that a stream begins with is the one that is read from it. -/
theorem encode_prefix_iff {bytes : List UInt8} (long : 16 ≤ bytes.length) {h : Header} :
    h.encode <+: bytes ↔ decode bytes = h := by
  constructor
  · rintro ⟨rest, rfl⟩
    have first : (h.encode ++ rest).take 16 = h.encode := List.take_left' (length_encode h)
    rw [← decode_take, first, decode_encode]
  · rintro rfl
    rw [← decode_take, encode_decode (List.length_take_of_le long)]
    exact List.take_prefix 16 bytes

/-- Sixteen bytes are one header and a header is sixteen bytes, each in its place. -/
theorem encode_one_to_one :
    (∀ h : Header, decode h.encode = h) ∧
    (∀ bytes : Vector UInt8 16, (decode bytes.toList).encode = bytes.toList) ∧
    (∀ bytes : List UInt8, 16 ≤ bytes.length → ∃! h : Header, h.encode <+: bytes) ∧
    (∀ (h h' : Header) (rest rest' : List UInt8),
      h.encode ++ rest = h'.encode ++ rest' → h = h') ∧
    ∀ h : Header, h.encode = List.ofFn fun i : Fin 16 => (h.number >>> (8 * i.val)).toUInt8 := by
  refine ⟨decode_encode, fun bytes => encode_decode bytes.length_toList,
    fun bytes long => ?one, fun h h' rest rest' same => ?apart, fun h => ?places⟩
  case one =>
    refine ⟨decode bytes, (encode_prefix_iff long).mpr rfl, fun h begins => ?_⟩
    exact ((encode_prefix_iff long).mp begins).symm
  case apart =>
    have long : 16 ≤ (h.encode ++ rest).length := by simp [size]
    have first := (encode_prefix_iff long).mp (List.prefix_append _ _)
    have second := (encode_prefix_iff long).mp (same ▸ List.prefix_append h'.encode rest')
    rw [← first, second]
  case places => rw [encode_eq_bytes, bytes_eq_ofFn]

end Header
end Wire
end Backdrop
