/-!
# Backdrop.Pixel.Extent

Widths and heights in pixels, and the byte lengths of pictures with four bytes a pixel.

* `Extent.byteCount` is the exact length.
* `Extent.byteLength?` is the length when it fits into an address, 64 bits wide.
* `Extent.scaled` has both sides multiplied, in words that wrap; `Extent.scaled?` has them only if
  both fit.
-/

namespace Backdrop

structure Extent where
  width : UInt32
  height : UInt32
  deriving Repr, DecidableEq, Inhabited

namespace Extent

def zero : Extent := ⟨0, 0⟩

/-- Width and height with a cross between them. -/
def text (e : Extent) : String := s!"{e.width}x{e.height}"

/-- One side is zero, so there is no pixel. -/
def isEmpty (e : Extent) : Bool := e.width == 0 || e.height == 0

/-- One side is zero and the other is not. -/
def isLopsided (e : Extent) : Bool := (e.width == 0) != (e.height == 0)

def byteCount (e : Extent) : Nat := e.width.toNat * e.height.toNat * 4

def byteLength? (e : Extent) : Option Nat :=
  if e.byteCount < UInt64.size then some e.byteCount else none

/-- Both sides multiplied by one factor, in words of 32 bits that wrap: this is what a program built
without overflow checks computes. One with checks computes `scaled?`, and stops if there is none. -/
def scaled (e : Extent) (factor : UInt32) : Extent := ⟨e.width * factor, e.height * factor⟩

/-- Both sides multiplied by one factor, unless one of them does not fit into a word. -/
def scaled? (e : Extent) (factor : UInt32) : Option Extent :=
  if e.width.toNat * factor.toNat < UInt32.size ∧ e.height.toNat * factor.toNat < UInt32.size then
    some (e.scaled factor)
  else none

theorem byteLength?_eq_some_iff {e : Extent} {n : Nat} :
    e.byteLength? = some n ↔ e.byteCount = n ∧ n < UInt64.size := by
  unfold byteLength?
  split <;> simp_all <;> omega

theorem byteLength?_eq_none_iff {e : Extent} :
    e.byteLength? = none ↔ UInt64.size ≤ e.byteCount := by
  unfold byteLength?
  split <;> simp_all

theorem isEmpty_eq_false_iff {e : Extent} : e.isEmpty = false ↔ e.width ≠ 0 ∧ e.height ≠ 0 := by
  simp [isEmpty]

theorem isLopsided_eq_false_iff {e : Extent} :
    e.isLopsided = false ↔ (e.width = 0 ↔ e.height = 0) := by
  rw [isLopsided, bne_eq_false_iff_eq, Bool.eq_iff_iff, beq_iff_eq, beq_iff_eq]

theorem byteCount_eq_zero_iff {e : Extent} : e.byteCount = 0 ↔ e.isEmpty = true := by
  unfold byteCount
  rw [Nat.mul_eq_zero, Nat.mul_eq_zero]
  simp [isEmpty, ← UInt32.toNat_inj]

end Extent
end Backdrop
