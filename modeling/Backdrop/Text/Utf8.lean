/-!
# Backdrop.Text.Utf8

Byte strings that are meant to be UTF-8 and may not be.

* `Utf8.head` says what a non-empty byte string starts with: a whole character, a maximal
  ill-formed part, or a part that the end of the string cuts off.
* `Utf8.decode` is the text of a well-formed byte string, and otherwise a `Utf8.Fault`, which says
  how many bytes are well formed and how long the ill-formed part after them is.
* `Utf8.lossy` replaces each maximal ill-formed part by U+FFFD.
-/

namespace Backdrop
namespace Utf8

/-- The bytes of a text. -/
def encode (s : String) : List UInt8 := s.toUTF8.data.toList

/-- Inclusive range of a continuation byte. -/
structure Range where
  low : UInt8
  high : UInt8

def Range.holds (r : Range) (b : UInt8) : Bool := r.low ≤ b && b ≤ r.high

/-- Any continuation byte. -/
def Range.any : Range := ⟨0x80, 0xBF⟩

/-- The ranges of the bytes that follow a leading byte, `none` for a byte that leads nothing. -/
def followers (b : UInt8) : Option (List Range) :=
  if b < 0x80 then some []
  else if b < 0xC2 then none
  else if b < 0xE0 then some [.any]
  else if b = 0xE0 then some [⟨0xA0, 0xBF⟩, .any]
  else if b = 0xED then some [⟨0x80, 0x9F⟩, .any]
  else if b < 0xF0 then some [.any, .any]
  else if b = 0xF0 then some [⟨0x90, 0xBF⟩, .any, .any]
  else if b < 0xF4 then some [.any, .any, .any]
  else if b = 0xF4 then some [⟨0x80, 0x8F⟩, .any, .any]
  else none

/-- How many leading bytes fall into their ranges. -/
def matching : List Range → List UInt8 → Nat
  | r :: rs, b :: bs => if r.holds b then matching rs bs + 1 else 0
  | _, _ => 0

/-- What a byte string starts with, and how many bytes that takes. -/
inductive Head where
  | char (c : Char) (width : Nat)
  | illFormed (width : Nat)
  | cut (width : Nat)

def Head.width : Head → Nat
  | .char _ n | .illFormed n | .cut n => n

/-- The code point spelled by a leading byte and its followers. -/
def codePoint (b : UInt8) (tail : List UInt8) : Nat :=
  let lead := match tail.length with
    | 0 => b.toNat
    | 1 => b.toNat % 32
    | 2 => b.toNat % 16
    | _ => b.toNat % 8
  tail.foldl (fun n c => n * 64 + c.toNat % 64) lead

def head (b : UInt8) (rest : List UInt8) : Head :=
  match followers b with
  | none => .illFormed 1
  | some ranges =>
    let n := matching ranges rest
    if n = ranges.length then .char (Char.ofNat (codePoint b (rest.take n))) (n + 1)
    else if n < rest.length then .illFormed (n + 1)
    else .cut (n + 1)

theorem head_width_pos (b : UInt8) (rest : List UInt8) : 0 < (head b rest).width := by
  unfold head
  split
  · simp [Head.width]
  · simp only
    split
    · simp [Head.width]
    · split <;> simp [Head.width]

/-- Each maximal ill-formed part becomes U+FFFD. -/
def lossyChars : List UInt8 → List Char
  | [] => []
  | b :: rest =>
    let c := match head b rest with
      | .char c _ => c
      | _ => '\uFFFD'
    c :: lossyChars ((b :: rest).drop (head b rest).width)
termination_by bs => bs.length
decreasing_by
  have := head_width_pos b rest
  simp only [List.length_drop, List.length_cons]
  omega

def lossy (bs : List UInt8) : String := String.ofList (lossyChars bs)

/-- Where a byte string stops being well formed; `width` is absent when the end cuts it off. -/
structure Fault where
  validUpTo : Nat
  width : Option Nat
  deriving Repr, DecidableEq

def Fault.message (f : Fault) : String :=
  match f.width with
  | some n => s!"invalid utf-8 sequence of {n} bytes from index {f.validUpTo}"
  | none => s!"incomplete utf-8 byte sequence from index {f.validUpTo}"

/-- The first ill-formed part, searched from byte `start` on. -/
def firstFault (start : Nat) : List UInt8 → Option Fault
  | [] => none
  | b :: rest =>
    match head b rest with
    | .illFormed n => some ⟨start, some n⟩
    | .cut _ => some ⟨start, none⟩
    | .char _ _ => firstFault (start + (head b rest).width) ((b :: rest).drop (head b rest).width)
termination_by bs => bs.length
decreasing_by
  have := head_width_pos b rest
  simp only [List.length_drop, List.length_cons]
  omega

def decode (bs : List UInt8) : Except Fault String :=
  match String.fromUTF8? ⟨bs.toArray⟩ with
  | some s => .ok s
  | none => .error ((firstFault 0 bs).getD ⟨0, none⟩)

/-- The text of a byte string that is well formed. -/
def decode? (bs : List UInt8) : Option String := String.fromUTF8? ⟨bs.toArray⟩

theorem decode?_encode (s : String) : decode? (encode s) = some s := by
  have bytes : (⟨(encode s).toArray⟩ : ByteArray) = s.toByteArray := by simp [encode]
  have valid : (⟨(encode s).toArray⟩ : ByteArray).IsValidUTF8 := bytes ▸ s.isValidUTF8
  unfold decode? String.fromUTF8?
  rw [dif_pos valid]
  exact congrArg some (String.toByteArray_inj.mp bytes)

theorem decode_encode (s : String) : decode (encode s) = .ok s := by
  have h : String.fromUTF8? ⟨(encode s).toArray⟩ = some s := decode?_encode s
  simp [decode, h]

theorem encode_ne_nil {s : String} (hs : s ≠ "") : encode s ≠ [] := by
  intro h
  have := decode?_encode s
  rw [h, show ([] : List UInt8) = encode "" from rfl, decode?_encode] at this
  exact hs (Option.some.inj this).symm

end Utf8
end Backdrop
