import Backdrop.Wire.Channel

/-!
# Backdrop.Wire.Chunks

Channels that follow a script. The incoming side is a list of chunks, each a byte string with
perhaps a descriptor on its first byte, or a failure; a receive never crosses the end of a chunk.
The outgoing side is a list of limits and failures, one for each send.
-/

namespace Backdrop
namespace Wire

inductive Chunk where
  | data (bytes : List UInt8) (descriptor : Option Descriptor)
  | failure (cause : TransferError)
  deriving Repr, DecidableEq, Inhabited

namespace Chunk

/-- Takes from the front chunk; the script's end delivers nothing. -/
def receive : Receive (List Chunk)
  | _, [] => (.ok ⟨[], none⟩, [])
  | _, .failure e :: rest => (.error e, rest)
  | n, .data bytes descriptor :: rest =>
    let got : Received := ⟨bytes.take n, descriptor⟩
    if (bytes.drop n).isEmpty then (.ok got, rest)
    else (.ok got, .data (bytes.drop n) none :: rest)

/-- The bytes that were not taken. -/
def unread : List Chunk → Nat
  | [] => 0
  | .data bytes _ :: rest => bytes.length + unread rest
  | .failure _ :: rest => unread rest

end Chunk

/-- How one send ends. -/
inductive Limit where
  | accept (most : Nat)
  | failure (cause : TransferError)
  deriving Repr, DecidableEq, Inhabited

namespace Limit

/-- Obeys the first limit; without one, everything is accepted. -/
def send : Send (List Limit)
  | bytes, _, [] => (.ok bytes.length, [])
  | bytes, _, .accept most :: rest => (.ok (min most bytes.length), rest)
  | _, _, .failure e :: rest => (.error e, rest)

end Limit
end Wire
end Backdrop
