import Backdrop.Wire.Request

/-!
# Backdrop.Wire.Channel

Requests over byte streams that can carry a descriptor along with their bytes.

A channel is given by its two operations over a state: `Receive`, which delivers at most so many
bytes and perhaps a descriptor, and `Send`, which accepts some part of what it is offered.

* `readRequest` reads one request. Of the descriptors that arrive with the header the first counts;
  those that arrive with the name are dropped.
* `writeRequest` writes one request and offers the descriptor with the first piece only.
-/

namespace Backdrop
namespace Wire

structure Received where
  bytes : List UInt8
  descriptor : Option Descriptor
  deriving Repr, DecidableEq, Inhabited

/-- Delivers at most the given number of bytes; none at all means that the other side has closed. -/
abbrev Receive (σ : Type) := Nat → σ → Except TransferError Received × σ

/-- Accepts a number of the bytes offered, and the descriptor with the first of them. -/
abbrev Send (σ : Type) := List UInt8 → Option Descriptor → σ → Except TransferError Nat × σ

variable {σ : Type}

/-- Receives until `missing` more bytes have arrived after those in `have_`. -/
def fill (receive : Receive σ) (missing : Nat) (have_ : List UInt8) (first : Option Descriptor)
    (s : σ) : Except TransferError (List UInt8 × Option Descriptor) × σ :=
  if missing = 0 then (.ok (have_, first), s)
  else
    match receive missing s with
    | (.error e, s) => (.error e, s)
    | (.ok got, s) =>
      if got.bytes.length = 0 then
        (.error (.truncated (have_.length + missing) have_.length), s)
      else
        fill receive (missing - got.bytes.length) (have_ ++ got.bytes)
          (first.or got.descriptor) s
termination_by missing
decreasing_by omega

/-- Receives exactly `n` bytes, and the first descriptor among them. -/
def receiveExactly (receive : Receive σ) (n : Nat) (s : σ) :
    Except TransferError (List UInt8 × Option Descriptor) × σ :=
  fill receive n [] none s

/-- Receives the name that a header announces. -/
def readNamed (receive : Receive σ) (h : Header) (descriptor : Option Descriptor) (s : σ) :
    Except TransferError Request × σ :=
  match receiveExactly receive h.nameLength.toNat s with
  | (.error e, s) => (.error e, s)
  | (.ok (name, _), s) => (Request.assemble h name descriptor, s)

def readRequest (receive : Receive σ) (s : σ) : Except TransferError Request × σ :=
  match receiveExactly receive Header.size s with
  | (.error e, s) => (.error e, s)
  | (.ok (bytes, descriptor), s) =>
    match (Header.decode bytes).check with
    | .error e => (.error e, s)
    | .ok () => readNamed receive (Header.decode bytes) descriptor s

/-- Offers what is left until all of it is accepted. A channel that accepts nothing more than
`patience` times is given up. -/
def sendAll (send : Send σ) (patience : Nat) (rest : List UInt8) (descriptor : Option Descriptor)
    (s : σ) : Except TransferError Unit × σ :=
  if rest.length = 0 then (.ok (), s)
  else
    match send rest descriptor s with
    | (.error e, s) => (.error e, s)
    | (.ok n, s) =>
      if n = 0 then
        if patience = 0 then (.error .timedOut, s)
        else sendAll send (patience - 1) rest none s
      else sendAll send patience (rest.drop n) none s
termination_by rest.length + patience
decreasing_by
  · omega
  · simp only [List.length_drop]; omega

/-- What is written for a name and a picture, or for a name alone. -/
structure Outgoing where
  name : List UInt8
  picture : Option (Extent × Descriptor)
  deriving Repr, DecidableEq, Inhabited

namespace Outgoing

def extent (o : Outgoing) : Extent := (o.picture.map (·.1)).getD .zero

def header (o : Outgoing) : Header := ⟨o.extent, o.name.length.toUInt64⟩

/-- The bytes of a request that may be written. A name that is too long is reported before one side
without the other. -/
def payload (o : Outgoing) : Except TransferError (List UInt8) :=
  if maxNameLength < o.name.length then .error (.nameTooLong o.name.length)
  else
    match o.header.check with
    | .error e => .error e
    | .ok () => .ok (o.header.encode ++ o.name)

end Outgoing

def writeRequest (send : Send σ) (patience : Nat) (o : Outgoing) (s : σ) :
    Except TransferError Unit × σ :=
  match o.payload with
  | .error e => (.error e, s)
  | .ok bytes => sendAll send patience bytes (o.picture.map (·.2)) s

end Wire
end Backdrop
