import Backdrop.Memory.Error

/-!
# Backdrop.Memory.Source

Pictures behind descriptors that somebody else sent. The file must hold the whole picture; bytes
after it are not looked at.
-/

namespace Backdrop

/-- A picture mapped read-only. -/
structure Source where
  extent : Extent
  pixels : Array UInt8
  deriving Repr, DecidableEq, Inhabited

namespace Source

/-- The length of a picture in a file of `available` bytes. -/
def required (available : Nat) (e : Extent) : Except MemoryError Nat :=
  match e.length with
  | .error err => .error err
  | .ok n =>
    if n = 0 then .error .zeroSize
    else if available < n then .error (.tooSmall n available)
    else .ok n

def map (content : Array UInt8) (e : Extent) : Except MemoryError Source :=
  match required content.size e with
  | .error err => .error err
  | .ok n => .ok ⟨e, content.extract 0 n⟩

theorem required_eq_ok_iff {available n : Nat} {e : Extent} :
    required available e = .ok n ↔ e.byteCount = n ∧ n < UInt64.size ∧ 0 < n ∧ n ≤ available := by
  unfold required
  split
  · next err h =>
    have : ¬ (e.byteCount = n ∧ n < UInt64.size) := by
      rw [← Extent.length_eq_ok_iff, h]; simp
    simp only [reduceCtorEq, false_iff]
    exact fun hn => this ⟨hn.1, hn.2.1⟩
  · next m h =>
    rw [Extent.length_eq_ok_iff] at h
    split
    · simp only [reduceCtorEq, false_iff]; omega
    · split
      · simp only [reduceCtorEq, false_iff]; omega
      · simp only [Except.ok.injEq]; omega

end Source
end Backdrop
