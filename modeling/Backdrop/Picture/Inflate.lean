import Backdrop.Picture.Bits

/-!
# Backdrop.Picture.Inflate

Compressed data made of blocks: bytes as they are, or literal bytes and copies of earlier output
under two prefix codes, which are fixed or stand at the head of the block.

* `inflate` undoes the compression. Data that is cut short gives the output up to there; malformed data
  gives none.
* `inflateWrapped` expects two bytes in front that name the method. Whatever follows the last block
  is not looked at.
-/

namespace Backdrop
namespace Picture

/-- Numbers from `start` on, in ranges that have so many extra bits each. -/
def ranges (start : Nat) : List Nat → List (Nat × Nat)
  | [] => []
  | e :: es => (start, e) :: ranges (start + 1 <<< e) es

/-- The lengths of copies, by the symbols after the end of a block. -/
def lengthRanges : List (Nat × Nat) :=
  ranges 3 (List.replicate 4 0 ++ (List.range 6).flatMap fun e => List.replicate 4 e) ++ [(258, 0)]

/-- How far back copies start. -/
def distanceRanges : List (Nat × Nat) :=
  ranges 1 (List.replicate 2 0 ++ (List.range 14).flatMap fun e => List.replicate 2 e)

/-- Reads a number in the range of a symbol. -/
def takeInRange (table : List (Nat × Nat)) (symbol : Nat) (bits : Bits) : Reading Nat :=
  match table[symbol]? with
  | none => .malformed
  | some (base, extra) => (takeNumber extra bits).map (base + ·)

theorem takeInRange_length {table : List (Nat × Nat)} {symbol n : Nat} {bits rest : Bits}
    (h : takeInRange table symbol bits = .got n rest) : rest.length ≤ bits.length := by
  unfold takeInRange at h
  split at h
  · simp at h
  · obtain ⟨v, h'⟩ := Reading.map_eq_got h
    have := takeNumber_length h'
    omega

/-- What a symbol of a block stands for. -/
inductive Piece where
  | literal (byte : UInt8)
  /-- A stretch of earlier output, to be written again. -/
  | copy (length distance : Nat)
  | blockEnd
  deriving Repr, DecidableEq, Inhabited

/-- Reads the rest of a copy, of which `kind` tells the length. -/
def takeCopy (distances : PrefixCode) (kind : Nat) (bits : Bits) : Reading Piece :=
  (takeInRange lengthRanges kind bits).andThen fun length bits =>
    (distances.read bits).andThen fun d bits =>
      (takeInRange distanceRanges d bits).map (.copy length ·)

theorem takeCopy_length {distances : PrefixCode} {kind : Nat} {bits rest : Bits} {p : Piece}
    (h : takeCopy distances kind bits = .got p rest) : rest.length < bits.length := by
  obtain ⟨length, bits1, h1, h⟩ := Reading.andThen_eq_got h
  obtain ⟨d, bits2, h2, h⟩ := Reading.andThen_eq_got h
  obtain ⟨distance, h3⟩ := Reading.map_eq_got h
  have := takeInRange_length h1
  have := PrefixCode.read_length h2
  have := takeInRange_length h3
  omega

/-- The symbol that ends a block; smaller ones are literal bytes. -/
def endSymbol : Nat := 256

def takePiece (literals distances : PrefixCode) (bits : Bits) : Reading Piece :=
  (literals.read bits).andThen fun s rest =>
    if s < endSymbol then .got (.literal s.toUInt8) rest
    else if s = endSymbol then .got .blockEnd rest
    else takeCopy distances (s - (endSymbol + 1)) rest

theorem takePiece_length {literals distances : PrefixCode} {bits rest : Bits} {p : Piece}
    (h : takePiece literals distances bits = .got p rest) : rest.length < bits.length := by
  obtain ⟨s, bits1, h1, h⟩ := Reading.andThen_eq_got h
  have := PrefixCode.read_length h1
  split at h
  · simp only [Reading.got.injEq] at h
    obtain ⟨-, rfl⟩ := h
    exact this
  · split at h
    · simp only [Reading.got.injEq] at h
      obtain ⟨-, rfl⟩ := h
      exact this
    · have := takeCopy_length h
      omega

/-- Writes `n` bytes again that stand `distance` bytes back. -/
def copyBack (distance : Nat) : Nat → Array UInt8 → Array UInt8
  | 0, out => out
  | n + 1, out => copyBack distance n (out.push (out.getD (out.size - distance) 0))

/-- How far the output has come. -/
inductive Unpacked where
  /-- More may follow. -/
  | going (out : Array UInt8) (rest : Bits)
  /-- Nothing more comes, as the data is at its end or cut short. -/
  | over (out : Array UInt8)
  | malformed
  deriving Repr, DecidableEq, Inhabited

/-- Reads literals and copies up to the end of a block. -/
def takePieces (literals distances : PrefixCode) (bits : Bits) (out : Array UInt8) : Unpacked :=
  match _h : takePiece literals distances bits with
  | .cut => .over out
  | .malformed => .malformed
  | .got (.literal b) rest => takePieces literals distances rest (out.push b)
  | .got .blockEnd rest => .going out rest
  | .got (.copy length distance) rest =>
    if out.size < distance then .malformed
    else takePieces literals distances rest (copyBack distance length out)
termination_by bits.length
decreasing_by all_goals exact takePiece_length _h

/-- The codes of blocks that bring none. -/
def fixedLiterals : PrefixCode :=
  .ofLengths (List.replicate 144 8 ++ List.replicate 112 9 ++ List.replicate 24 7 ++
    List.replicate 8 8)

/-- The last two codewords stand for no distance. -/
def fixedDistances : PrefixCode := .ofLengths (List.replicate 32 5)

/-- A run of equal lengths: which length, how many at least, and the bits that say how many more. -/
def runOf (last : Nat) (symbol : Nat) : Nat × Nat × Nat :=
  if symbol = 16 then (last, 3, 2)
  else if symbol = 17 then (0, 3, 3)
  else if symbol = 18 then (0, 11, 7)
  else (symbol, 1, 0)

/-- Codewords for lengths have at most so many bits, and so many are looked at. -/
def lengthWidth : Nat := 7

/-- Reads codeword lengths until there are `wanted`; `lengths` holds them in reverse. -/
def takeLengths (code : PrefixCode) (wanted : Nat) (bits : Bits) (lengths : List Nat) :
    Reading (List Nat) :=
  if lengths.length = wanted then .got lengths.reverse bits
  else if wanted < lengths.length then .malformed
  else if fewerThan lengthWidth bits then .cut
  else
    match _h : code.read bits with
    | .cut => .cut
    | .malformed => .malformed
    | .got s rest =>
      match _hn : takeNumber (runOf (lengths.headD 0) s).2.2 rest with
      | .cut => .cut
      | .malformed => .malformed
      | .got more rest' =>
        let run := runOf (lengths.headD 0) s
        if s = 16 ∧ lengths.isEmpty then .malformed
        else takeLengths code wanted rest' (List.replicate (run.2.1 + more) run.1 ++ lengths)
termination_by bits.length
decreasing_by
  have := PrefixCode.read_length _h
  have := takeNumber_length _hn
  omega

/-- The order in which the lengths for the code of the lengths stand. -/
def lengthOrder : List Nat := [16, 17, 18, 0, 8, 7, 9, 6, 10, 5, 11, 4, 12, 3, 13, 2, 14, 1, 15]

/-- Reads `n` numbers of three bits. -/
def takeTriples : Nat → Bits → Reading (List Nat)
  | 0, bits => .got [] bits
  | n + 1, bits =>
    (takeNumber 3 bits).andThen fun v bits => (takeTriples n bits).map (v :: ·)

/-- How many codewords a block brings: for literals, for distances, and for their lengths. -/
structure Counts where
  literals : Nat
  distances : Nat
  triples : Nat
  deriving Repr, DecidableEq, Inhabited

/-- Reads how many codewords there are; more than can be used are refused. -/
def takeCounts (bits : Bits) : Reading Counts :=
  (takeNumber 5 bits).andThen fun literals bits =>
    (takeNumber 5 bits).andThen fun distances bits =>
      (takeNumber 4 bits).andThen fun triples bits =>
        if 29 < literals ∨ 29 < distances then .malformed
        else .got ⟨literals + 257, distances + 1, triples + 4⟩ bits

/-- Distances may have a complete code, or a single codeword of one bit, or none at all. -/
def isDistanceCode (lengths : List Nat) : Bool :=
  let used := lengths.filter (· != 0)
  used == [] || used == [1] || (PrefixCode.ofLengths lengths).isComplete

/-- The two codes from their lengths; a block has to end, so there is a codeword for that. -/
def codesOf (c : Counts) (lengths : List Nat) (rest : Bits) : Reading (PrefixCode × PrefixCode) :=
  let literals := PrefixCode.ofLengths (lengths.take c.literals)
  let distances := lengths.drop c.literals
  if lengths.getD endSymbol 0 ≠ 0 ∧ literals.isComplete ∧ isDistanceCode distances then
    .got (literals, .ofLengths distances) rest
  else .malformed

/-- Reads the two codes at the head of a block. -/
def takeCodes (bits : Bits) : Reading (PrefixCode × PrefixCode) :=
  (takeCounts bits).andThen fun c bits =>
    (takeTriples c.triples bits).andThen fun given bits =>
      let code := PrefixCode.ofLengths ((List.range 19).map fun s =>
        ((lengthOrder.zip given).lookup s).getD 0)
      if code.isComplete then
        (takeLengths code (c.literals + c.distances) bits []).andThen (codesOf c)
      else .malformed

/-- Reads `n` bytes. -/
def takeBytes : Nat → Bits → Array UInt8 → Unpacked
  | 0, bits, out => .going out bits
  | n + 1, bits, out =>
    match takeNumber 8 bits with
    | .got v bits => takeBytes n bits (out.push v.toUInt8)
    | .cut => .over out
    | .malformed => .malformed

/-- Reads the length of a block of bytes as they are, and the same with its bits turned over. -/
def takeStoredLength (bits : Bits) : Reading Nat :=
  (takeNumber 16 bits).andThen fun n bits =>
    (takeNumber 16 bits).andThen fun complement bits =>
      if n + complement = 0xFFFF then .got n bits else .malformed

/-- Reads the body of a block with the help of its head. -/
def Reading.unpack {α : Type} (r : Reading α) (out : Array UInt8) (f : α → Bits → Unpacked) :
    Unpacked :=
  match r with
  | .got a rest => f a rest
  | .cut => .over out
  | .malformed => .malformed

/-- Reads a block of one of the three kinds. Bytes as they are start at the next whole byte. -/
def takeBlock (kind : Nat) (bits : Bits) (out : Array UInt8) : Unpacked :=
  match kind with
  | 0 => (takeStoredLength (bits.drop (bits.length % 8))).unpack out fun n bits => takeBytes n bits out
  | 1 => takePieces fixedLiterals fixedDistances bits out
  | 2 => (takeCodes bits).unpack out fun codes bits => takePieces codes.1 codes.2 bits out
  | _ => .malformed

/-- The bits of the shortest block. -/
def shortestBlock : Nat := 10

/-- Reads whether a block is the last one, and its kind. -/
def takeHead (bits : Bits) : Reading (Bool × Nat) :=
  if fewerThan shortestBlock bits then .cut
  else
    (takeNumber 1 bits).andThen fun last bits => (takeNumber 2 bits).map fun kind => (last == 1, kind)

/-- Reads blocks up to the last one. Every block is longer than nothing, so there are no more of them
than `limit`, the number of bits. -/
def takeBlocks : Nat → Bits → Array UInt8 → Unpacked
  | 0, _, out => .over out
  | limit + 1, bits, out =>
    (takeHead bits).unpack out fun head bits =>
      match takeBlock head.2 bits out with
      | .going out bits => if head.1 then .over out else takeBlocks limit bits out
      | stopped => stopped

/-- The output, unless the data is malformed. -/
def Unpacked.output? : Unpacked → Option (Array UInt8)
  | .going out _ | .over out => some out
  | .malformed => none

def inflate (bytes : List UInt8) : Option (Array UInt8) :=
  (takeBlocks (8 * bytes.length) (bitsOf bytes) #[]).output?

/-- Undoes the compression of data with a method in front: a window of no more than 32 KiB, and no
preset dictionary. -/
def inflateWrapped : List UInt8 → Option (Array UInt8)
  | method :: flags :: rest =>
    if method.toNat % 16 = 8 ∧ method.toNat / 16 ≤ 7 ∧
        (method.toNat * 256 + flags.toNat) % 31 = 0 ∧ flags.toNat.testBit 5 = false then
      inflate rest
    else none
  | _ => none

end Picture
end Backdrop
