import Backdrop.Pixel.Filter

/-!
# Backdrop.Pixel.Resample

Separable resampling of pictures with four channels of eight bits.

Each output sample along an axis is a weighted sum of a run of source samples, its `Taps`. The
vertical pass keeps its sums as single-precision numbers, neither clamped nor rounded; the
horizontal pass clamps its sums to a byte and rounds halves away from zero. What comes out has four
bytes for each pixel (`size_resample`).
-/

namespace Backdrop
namespace Resample

/-- The source samples that one output sample is made of: the first one, and a weight for each. -/
structure Taps where
  left : Nat
  weights : List Float32

def single (n : Nat) : Float32 := n.toUInt64.toFloat32

def clampInt (x low high : Int) : Int := max low (min x high)

/-- The taps of output sample `o` when `len` source samples become `n`. -/
def taps (filter : Filter) (len n o : Nat) : Taps :=
  let ratio := single len / single n
  let sratio := if ratio < 1 then 1 else ratio
  let support := filter.support * sratio
  let center := (single o + 0.5) * ratio
  let left := (clampInt (center - support).floor.toInt64.toInt 0 (len - 1)).toNat
  let right := (clampInt (center + support).ceil.toInt64.toInt (left + 1) len).toNat
  let c := center - 0.5
  let raw := (List.range (right - left)).map fun i =>
    filter.weight ((single (left + i) - c) / sratio)
  let sum := raw.foldl (· + ·) 0
  ⟨left, raw.map (· / sum)⟩

/-- Adds samples times weights to `t`, first sample first. -/
@[specialize]
def weigh (sample : Nat → Float32) : List Float32 → Nat → Float32 → Float32
  | [], _, t => t
  | w :: ws, i, t => weigh sample ws (i + 1) (t + sample i * w)

/-- Resamples the columns of a picture `width` pixels wide from `len` rows to `n`. -/
def vertical (filter : Filter) (src : Array UInt8) (width len n : Nat) : FloatArray :=
  let row := width * 4
  Nat.fold n (fun o _ acc =>
    let t := taps filter len n o
    Nat.fold row (fun j _ acc =>
      acc.push (weigh (fun i => (src.getD (i * row + j) 0).toFloat32) t.weights t.left 0).toFloat)
      acc)
    (FloatArray.emptyWithCapacity (row * n))

/-- The nearest byte. -/
def toByte (t : Float32) : UInt8 :=
  if t < 0 then 0 else if 255 < t then 255 else t.round.toUInt8

/-- Resamples the rows of a picture `height` pixels high from `len` columns to `n`. -/
def horizontal (filter : Filter) (src : FloatArray) (height len n : Nat) : Array UInt8 :=
  let row := len * 4
  let columns := (Array.range n).map (taps filter len n)
  Nat.fold height (fun y _ acc =>
    columns.foldl (fun acc t =>
      Nat.fold 4 (fun c _ acc =>
        acc.push (toByte (weigh
          (fun i => (src.get! (y * row + i * 4 + c)).toFloat32) t.weights t.left 0)))
        acc)
      acc)
    (Array.emptyWithCapacity (n * height * 4))

/-- A picture of `width` by `height` pixels resampled to `newWidth` by `newHeight`. -/
def resample (filter : Filter) (src : Array UInt8) (width height newWidth newHeight : Nat) :
    Array UInt8 :=
  horizontal filter (vertical filter src width height newHeight) newHeight width newWidth

/-! ## Sizes -/

theorem size_fold {k : Nat} {n : Nat} {f : (i : Nat) → i < n → Array UInt8 → Array UInt8}
    (step : ∀ i h acc, (f i h acc).size = acc.size + k) (acc : Array UInt8) :
    (Nat.fold n f acc).size = acc.size + n * k := by
  induction n with
  | zero => simp
  | succ n ih =>
    rw [Nat.fold_succ, step, ih (fun i h acc => step i (Nat.lt_succ_of_lt h) acc), Nat.succ_mul,
      Nat.add_assoc]

theorem size_foldl {α : Type} {k : Nat} {f : Array UInt8 → α → Array UInt8}
    (step : ∀ acc a, (f acc a).size = acc.size + k) (l : List α) (acc : Array UInt8) :
    (l.foldl f acc).size = acc.size + l.length * k := by
  induction l generalizing acc with
  | nil => simp
  | cons a l ih =>
    rw [List.foldl_cons, ih, step, List.length_cons, Nat.succ_mul]
    omega

theorem size_horizontal (filter : Filter) (src : FloatArray) (height len n : Nat) :
    (horizontal filter src height len n).size = n * height * 4 := by
  simp only [horizontal]
  rw [size_fold (k := n * 4)]
  · simp only [Array.emptyWithCapacity_eq, List.size_toArray, List.length_nil, Nat.zero_add]
    rw [Nat.mul_comm n height, Nat.mul_assoc]
  · intro y _ acc
    rw [← Array.foldl_toList, size_foldl (k := 4)]
    · simp
    · intro acc t
      rw [size_fold (k := 1)]
      intro c _ acc
      exact Array.size_push _

theorem size_resample (filter : Filter) (src : Array UInt8)
    (width height newWidth newHeight : Nat) :
    (resample filter src width height newWidth newHeight).size = newWidth * newHeight * 4 :=
  size_horizontal filter _ newHeight width newWidth

end Resample
end Backdrop
