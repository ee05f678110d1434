/-!
# Backdrop.Pixel.Filter

The resampling filters, their names in settings, and their kernels.

A kernel has a support, the distance in source samples beyond which it is zero, and a weight for
each distance. Weights are computed in single precision, in the order the formulas are written.
-/

namespace Backdrop

inductive Filter where
  | nearest | triangle | catmullRom | lanczos3
  deriving Repr, DecidableEq

namespace Filter

instance : Inhabited Filter := ⟨.catmullRom⟩

def name : Filter → String
  | .nearest => "nearest"
  | .triangle => "triangle"
  | .catmullRom => "catmull-rom"
  | .lanczos3 => "lanczos3"

def ofName? (s : String) : Option Filter :=
  if s = "nearest" then some .nearest
  else if s = "triangle" then some .triangle
  else if s = "catmull-rom" then some .catmullRom
  else if s = "lanczos3" then some .lanczos3
  else none

theorem ofName?_name (f : Filter) : ofName? f.name = some f := by
  cases f <;> decide

theorem ofName?_eq_some_iff {s : String} {f : Filter} : ofName? s = some f ↔ s = f.name := by
  constructor
  · intro h
    unfold ofName? at h
    split at h
    · cases h; assumption
    split at h
    · cases h; assumption
    split at h
    · cases h; assumption
    split at h
    · cases h; assumption
    · cases h
  · rintro rfl
    exact ofName?_name f

def support : Filter → Float32
  | .nearest => 0
  | .triangle => 1
  | .catmullRom => 2
  | .lanczos3 => 3

def pi : Float32 := 3.14159265358979323846264338327950288

/-- The normalised cardinal sine. -/
def sinc (t : Float32) : Float32 :=
  if t == 0 then 1
  else
    let a := t * pi
    a.sin / a

def cubic (x : Float32) : Float32 :=
  let a := x.abs
  let k :=
    if a < 1 then 9 * (a * a * a) + -15 * (a * a) + 6
    else if a < 2 then -3 * (a * a * a) + 15 * (a * a) + -24 * a + 12
    else 0
  k / 6

def weight : Filter → Float32 → Float32
  | .nearest, _ => 1
  | .triangle, x => if x.abs < 1 then 1 - x.abs else 0
  | .catmullRom, x => cubic x
  | .lanczos3, x => if x.abs < 3 then sinc x * sinc (x / 3) else 0

end Filter
end Backdrop
