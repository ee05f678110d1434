import Backdrop.Wire.Channel

/-!
# Backdrop.Wire.Notes

Channels that keep a record of what went through them, in order.
-/

namespace Backdrop
namespace Wire

variable {σ : Type}

/-- A receive: how many bytes there was room for, and what came of it. -/
structure Receipt where
  room : Nat
  outcome : Except TransferError Received

/-- A send: what was offered, and what came of it. -/
structure Dispatch where
  offered : List UInt8
  descriptor : Option Descriptor
  outcome : Except TransferError Nat

/-- A channel that notes its receives. -/
def noteReceives (receive : Receive σ) : Receive (σ × List Receipt) :=
  fun room (s, notes) =>
    let (r, s) := receive room s
    (r, s, notes ++ [⟨room, r⟩])

/-- A channel that notes its sends. -/
def noteSends (send : Send σ) : Send (σ × List Dispatch) :=
  fun offered descriptor (s, notes) =>
    let (r, s) := send offered descriptor s
    (r, s, notes ++ [⟨offered, descriptor, r⟩])

end Wire
end Backdrop
