/-!
# Backdrop.Picture.Bits

Streams of bits, and prefix codes to read them by.

* `Reading` is what comes of reading: a value and the bits behind it, or why there is none. Bits that end
  too early are told apart from bits that are wrong.
* `bitsOf` lists the bits of bytes, the lowest bit of each byte first; `takeNumber` reads a number of
  fixed width, also lowest bit first.
* `PrefixCode.ofLengths` is the canonical prefix code for the given codeword lengths, and
  `PrefixCode.read` reads one symbol. Reading a symbol always shortens the stream.
-/

namespace Backdrop
namespace Picture

abbrev Bits := List Bool

def bitsOf (bytes : List UInt8) : Bits :=
  bytes.flatMap fun b => (List.range 8).map fun i => b.toNat.testBit i

inductive Reading (α : Type) where
  | got (value : α) (rest : Bits)
  /-- The bits end before the value does. -/
  | cut
  | malformed
  deriving Repr, DecidableEq

namespace Reading

variable {α β : Type}

/-- Reads on with what has been read. -/
def andThen (r : Reading α) (f : α → Bits → Reading β) : Reading β :=
  match r with
  | .got a rest => f a rest
  | .cut => .cut
  | .malformed => .malformed

theorem andThen_eq_got {r : Reading α} {f : α → Bits → Reading β} {b : β} {rest : Bits}
    (h : r.andThen f = .got b rest) : ∃ a middle, r = .got a middle ∧ f a middle = .got b rest := by
  cases r with
  | got a middle => exact ⟨a, middle, rfl, h⟩
  | cut => simp [andThen] at h
  | malformed => simp [andThen] at h

/-- The value in another form. -/
def map (f : α → β) (r : Reading α) : Reading β := r.andThen fun a rest => .got (f a) rest

theorem map_eq_got {f : α → β} {r : Reading α} {b : β} {rest : Bits} (h : r.map f = .got b rest) :
    ∃ a, r = .got a rest := by
  obtain ⟨a, middle, hr, hf⟩ := andThen_eq_got h
  simp only [got.injEq] at hf
  exact ⟨a, hf.2 ▸ hr⟩

end Reading

/-- There are fewer than `n` bits. -/
def fewerThan (n : Nat) (bits : Bits) : Bool := n != 0 && (bits.drop (n - 1)).isEmpty

/-- Reads a number of `n` bits. -/
def takeNumber : Nat → Bits → Reading Nat
  | 0, bits => .got 0 bits
  | _ + 1, [] => .cut
  | n + 1, b :: bits => (takeNumber n bits).map fun v => 2 * v + b.toNat

theorem takeNumber_length {n v : Nat} {bits rest : Bits} (h : takeNumber n bits = .got v rest) :
    bits.length = n + rest.length := by
  induction n generalizing bits v with
  | zero => simp [takeNumber] at h; simp [h.2]
  | succ n ih =>
    cases bits with
    | nil => simp [takeNumber] at h
    | cons b bits =>
      obtain ⟨v', h'⟩ := Reading.map_eq_got h
      simp [ih h']
      omega

/-- The symbols of each codeword length from one up to the longest, in the order of their
codewords. -/
abbrev PrefixCode := List (List Nat)

namespace PrefixCode

/-- The canonical code in which symbol `i` has a codeword of length `lengths[i]`, or none if that
is zero. -/
def ofLengths (lengths : List Nat) : PrefixCode :=
  (List.range (lengths.foldl max 0)).map fun n =>
    (lengths.zipIdx.filter fun e => e.1 == n + 1).map (·.2)

/-- How many of the `1 <<< n` texts of `n` bits begin with a codeword. -/
def weight : PrefixCode → Nat → Nat
  | [], _ => 0
  | symbols :: longer, n => symbols.length <<< (n - 1) + weight longer (n - 1)

/-- There is one codeword for every text of bits to begin with. -/
def isComplete (c : PrefixCode) : Bool := c.weight c.length == 1 <<< c.length

/-- Reads a symbol; `ahead` says how many codewords of the length so far stand before what was
read. -/
def readFrom : PrefixCode → Nat → Bits → Reading Nat
  | [], _, _ => .malformed
  | _ :: _, _, [] => .cut
  | symbols :: longer, ahead, b :: bits =>
    match symbols[2 * ahead + b.toNat]? with
    | some s => .got s bits
    | none => readFrom longer (2 * ahead + b.toNat - symbols.length) bits

/-- Reads a symbol. -/
def read (c : PrefixCode) (bits : Bits) : Reading Nat := c.readFrom 0 bits

theorem readFrom_length {c : PrefixCode} {ahead s : Nat} {bits rest : Bits}
    (h : c.readFrom ahead bits = .got s rest) : rest.length < bits.length := by
  induction c generalizing ahead bits with
  | nil => simp [readFrom] at h
  | cons symbols longer ih =>
    cases bits with
    | nil => simp [readFrom] at h
    | cons b bits =>
      simp only [readFrom] at h
      split at h
      · simp only [Reading.got.injEq] at h
        obtain ⟨-, rfl⟩ := h
        simp
      · have := ih h
        simp only [List.length_cons]
        omega

theorem read_length {c : PrefixCode} {s : Nat} {bits rest : Bits}
    (h : c.read bits = .got s rest) : rest.length < bits.length := readFrom_length h

end PrefixCode
end Picture
end Backdrop
