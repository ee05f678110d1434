import Backdrop.Memory.Source

/-!
# Backdrop.Memory.Sealed

Regions of shared memory that are sealed against every change of their length.

A `SharedFile` has a length, bytes and seals; `SharedFile.truncate` obeys the seals. A `Sealed`
region is a file that is mapped for reading and writing and then sealed against shrinking, growing
and further seals.

* `Sealed.create` refuses lengths that no file or no mapping can have.
* `Sealed.write` stores bytes through the mapping, all of them or none.
* `Sealed.map` is the read-only picture that another holder of the file gets.
-/

namespace Backdrop

/-- What a file is sealed against. -/
structure Seals where
  sealing : Bool
  shrink : Bool
  grow : Bool
  deriving Repr, DecidableEq, Inhabited

namespace Seals

def none : Seals := ⟨false, false, false⟩

def all : Seals := ⟨true, true, true⟩

/-- One bit a seal: 1 for seals, 2 for shrinking, 4 for growing. -/
def mask (s : Seals) : Nat :=
  (if s.sealing then 1 else 0) + (if s.shrink then 2 else 0) + (if s.grow then 4 else 0)

end Seals

structure SharedFile where
  length : Nat
  byteAt : Nat → UInt8
  seals : Seals

namespace SharedFile

/-- The longest file. -/
def maxLength : Nat := 0x7FFFFFFFFFFFFFFF

def empty : SharedFile := ⟨0, fun _ => 0, .none⟩

/-- The first bytes. -/
def read (f : SharedFile) (n : Nat) : Array UInt8 :=
  Array.ofFn fun i : Fin n => f.byteAt i.val

def content (f : SharedFile) : Array UInt8 := f.read f.length

/-- Whether the seals let the length become `n`. -/
def mayResize (f : SharedFile) (n : Nat) : Bool :=
  !(n < f.length && f.seals.shrink) && !(f.length < n && f.seals.grow)

/-- Changes the length; bytes that are new are zero. -/
def truncate (f : SharedFile) (n : Nat) : Except Errno SharedFile :=
  if maxLength < n then .error .invalid
  else if f.mayResize n then
    .ok { f with length := n, byteAt := fun i => if i < f.length then f.byteAt i else 0 }
  else .error .notPermitted

/-- Adds seals, unless the file is sealed against that. -/
def addSeals (f : SharedFile) (s : Seals) : Except Errno SharedFile :=
  if f.seals.sealing then .error .notPermitted
  else .ok { f with seals :=
    ⟨f.seals.sealing || s.sealing, f.seals.shrink || s.shrink, f.seals.grow || s.grow⟩ }

/-- Overwrites bytes from position `at_` on; the length stays. -/
def store (f : SharedFile) (at_ : Nat) (bytes : Array UInt8) : SharedFile :=
  { f with byteAt := fun i =>
      if at_ ≤ i then bytes.getD (i - at_) (f.byteAt i) else f.byteAt i }

end SharedFile

/-- A sealed file and the length of its mapping. -/
structure Sealed where
  file : SharedFile
  mapped : Nat

namespace Sealed

/-- No mapping reaches this length. -/
def mappingLimit : Nat := 0x800000000000

/-- Why no region of this length can be created. -/
def refusal? (n : Nat) : Option MemoryError :=
  if n = 0 then some .zeroSize
  else if SharedFile.maxLength < n then some (.resize n .invalid)
  else if mappingLimit ≤ n then some (.map (.os .noMemory))
  else none

def create (n : Nat) : Except MemoryError Sealed :=
  match refusal? n with
  | some e => .error e
  | none =>
    match SharedFile.empty.truncate n with
    | .error e => .error (.resize n e)
    | .ok file =>
      match file.addSeals .all with
      | .error e => .error (.sealing e)
      | .ok file => .ok ⟨file, n⟩

/-- A region for a picture. -/
def forImage (e : Extent) : Except MemoryError Sealed :=
  match e.length with
  | .error err => .error err
  | .ok n => create n

def length (r : Sealed) : Nat := r.mapped

def isEmpty (r : Sealed) : Bool := r.mapped == 0

/-- The bytes that the mapping shows. -/
def bytes (r : Sealed) : Array UInt8 := r.file.read r.mapped

/-- Stores bytes through the mapping; `none` when they do not fit. -/
def write (r : Sealed) (at_ : Nat) (bytes : Array UInt8) : Option Sealed :=
  if at_ + bytes.size ≤ r.mapped then some { r with file := r.file.store at_ bytes } else none

/-- Tries to change the length of the file. -/
def truncate (r : Sealed) (n : Nat) : Except Errno Sealed :=
  match r.file.truncate n with
  | .error e => .error e
  | .ok file => .ok { r with file := file }

def map (r : Sealed) (e : Extent) : Except MemoryError Source :=
  match Source.required r.file.length e with
  | .error err => .error err
  | .ok n => .ok ⟨e, r.file.read n⟩

end Sealed
end Backdrop
