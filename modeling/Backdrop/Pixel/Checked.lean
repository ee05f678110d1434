import Backdrop.Pixel.Cover

/-!
# Backdrop.Pixel.Checked

Covering a screen step by step and in place, with everything checked that machines take for granted.

* `Writing` is what can be done to the buffer of a screen. It may stop early; what was written until
  then is in the buffer.
* In the namespace `Checked` a product or a sum that does not fit into a word stops the writing, and
  so does a slice that reaches beyond its buffer.
* `Checked.place` writes the rows of the screen one after another, `Checked.cover` does all of it.
-/

namespace Backdrop
namespace Cover

/-- Work on the buffer of a screen. -/
abbrev Writing := EStateM Stop (Array UInt8)

namespace Checked

/-! ## Words and slices -/

def times (a b : UInt64) : Writing UInt64 :=
  if a.toNat * b.toNat < UInt64.size then pure (a * b) else throw (.crashed .overflow)

def plus (a b : UInt64) : Writing UInt64 :=
  if a.toNat + b.toNat < UInt64.size then pure (a + b) else throw (.crashed .overflow)

def divCeil (a b : UInt64) : Writing UInt64 :=
  if b = 0 then throw (.crashed .zeroDivisor)
  else if a % b > 0 then plus (a / b) 1
  else pure (a / b)

def clamp (x low high : UInt64) : Writing UInt64 :=
  if high < low then throw (.crashed .disorder) else pure (clampWord x low high)

/-- The bytes from `start` up to `stop`. -/
def slice (bytes : Array UInt8) (start stop : UInt64) : Writing (Array UInt8) :=
  if start ≤ stop ∧ stop.toNat ≤ bytes.size then pure (bytes.extract start.toNat stop.toNat)
  else throw (.crashed .outside)

/-- The first `n` bytes, and the others. -/
def splitAt (bytes : Array UInt8) (n : UInt64) : Writing (Array UInt8 × Array UInt8) :=
  if n.toNat ≤ bytes.size then
    pure (bytes.extract 0 n.toNat, bytes.extract n.toNat bytes.size)
  else throw (.crashed .outside)

def byteLength (e : Extent) : Writing UInt64 := do
  times (← times e.width.toUInt64 e.height.toUInt64) 4

def checkLength (side : Side) (buffer : Array UInt8) (e : Extent) : Writing Unit := do
  let expected ← byteLength e
  if buffer.size < expected.toNat then
    throw (.refused (.lengthMismatch side expected.toNat buffer.size))
  else pure ()

def window (source target : Extent) : Writing Extent := do
  let wide ← times source.width.toUInt64 target.height.toUInt64
  let high ← times source.height.toUInt64 target.width.toUInt64
  if wide ≥ high then
    let side ← clamp (← divCeil high source.width.toUInt64) 1 target.height.toUInt64
    pure ⟨target.width, side.toUInt32⟩
  else
    let side ← clamp (← divCeil wide source.height.toUInt64) 1 target.width.toUInt64
    pure ⟨side.toUInt32, target.height⟩

/-! ## Rows -/

/-- Puts the whole pixels of `line` over those of `part`, and exchanges the outer colours. -/
def exchange (part line : Array UInt8) : Array UInt8 :=
  part.mapIdx fun i b =>
    if i / 4 * 4 + 4 ≤ min part.size line.size then
      line.getD (i / 4 * 4 + swapChannel (i % 4)) 0
    else b

/-- Writes bytes over those from `start` on. -/
def overwrite (start : Nat) (bytes dst : Array UInt8) : Array UInt8 :=
  dst.mapIdx fun i b =>
    if start ≤ i ∧ i < start + bytes.size then bytes.getD (i - start) 0 else b

/-- The shorter of two lengths. -/
def shorter (a b : UInt64) : UInt64 := if a ≤ b then a else b

/-- Writes row `y` of a screen. Rows of the screen have `row` bytes, rows of the picture `stride`,
and so many of them as both have are copied. -/
def writeRow (picture : Array UInt8) (size : Extent) (row stride : UInt64) (y : Nat) :
    Writing Unit := do
  let start := y * row.toNat
  let line := (← get).extract start (start + row.toNat)
  if size.height.toNat ≤ y then
    modify (overwrite start (Array.replicate line.size 0))
  else
    let first ← times y.toUInt64 stride
    let shown ← slice picture first (← plus first (shorter row stride))
    let (visible, rest) ← splitAt line (shorter row stride)
    modify (overwrite start (exchange visible shown ++ Array.replicate rest.size 0))

/-- Writes so many rows, from row `y` on. -/
def writeRows (picture : Array UInt8) (size : Extent) (row stride : UInt64) :
    Nat → Nat → Writing Unit
  | 0, _ => pure ()
  | left + 1, y => do
    writeRow picture size row stride y
    writeRows picture size row stride left (y + 1)

/-- The whole rows that a screen has room for. -/
def rowCount (target : Extent) (row : UInt64) : Writing Nat := do
  if row = 0 then throw (.crashed .zeroDivisor)
  else pure (min target.height.toNat ((← get).size / row.toNat))

def place (target : Extent) (picture : Array UInt8) (size : Extent) : Writing Unit := do
  let row ← times target.width.toUInt64 4
  let stride ← times size.width.toUInt64 4
  writeRows picture size row stride (← rowCount target row) 0

/-! ## The whole screen -/

/-- Shows a picture that is long enough, and answers the factor. -/
def present (R : Resampler) (filter : Filter) (picture : Array UInt8) (source target : Extent) :
    Writing Float := do
  let win ← window source target
  if win = source then
    place target picture source
    pure (factor source target)
  else
    let expected ← byteLength source
    if picture.size < source.byteCount then
      throw (.refused (.lengthMismatch .source expected.toNat picture.size))
    else
      place target (R.run filter picture source win) win
      pure (factor source target)

def cover (R : Resampler) (filter : Filter) (src : Array UInt8) (source target : Extent) :
    Writing Float :=
  if source.isEmpty || target.isEmpty then throw (.refused (.zeroExtent source target))
  else do
    checkLength .source src source
    checkLength .destination (← get) target
    let picture ← slice src 0 (← byteLength source)
    present R filter picture source target

end Checked
end Cover
end Backdrop
