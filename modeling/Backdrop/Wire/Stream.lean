import Backdrop.Log
import Backdrop.Wire.Channel

/-!
# Backdrop.Wire.Stream

One direction of a local stream socket: a queue of messages, each with the descriptors that ride on
its first byte.

* A receive returns what is queued, across messages, but stops after the message whose descriptors
  it delivered.
* With nothing queued it times out, or delivers no bytes once the writing side is closed, or fails if
  the connection broke.
* Of several descriptors only the first is kept. A message with more than four of them makes the
  receive fail, and what it took is lost.
-/

namespace Backdrop
namespace Wire

structure Message where
  bytes : List UInt8
  descriptors : List Descriptor
  deriving Repr, DecidableEq, Inhabited

structure Stream where
  queue : List Message
  writerOpen : Bool
  readerOpen : Bool
  /-- Why a receive fails when nothing is queued, if the connection broke. -/
  fault : Option Errno
  log : List Log.Line
  deriving Repr, DecidableEq, Inhabited

namespace Stream

/-- A fresh connection. -/
def open_ : Stream := ⟨[], true, true, none, []⟩

/-- Room for the descriptors of one receive. -/
def maxDescriptors : Nat := 4

/-- No message carries more descriptors. -/
def maxSent : Nat := 253

/-- Queues a message, if anybody can still read it; a message without bytes is none. -/
def push (m : Message) (s : Stream) : Except TransferError Nat × Stream :=
  if maxSent < m.descriptors.length then (.error (.message .invalid), s)
  else if !s.readerOpen then (.error (.message .brokenPipe), s)
  else if m.bytes.isEmpty then (.ok 0, s)
  else (.ok m.bytes.length, { s with queue := s.queue ++ [m] })

def send : Send Stream := fun bytes descriptor s => push ⟨bytes, descriptor.toList⟩ s

def closeWriter (s : Stream) : Stream := { s with writerOpen := false }

def closeReader (s : Stream) : Stream := { s with readerOpen := false, queue := [] }

/-- Takes up to `n` bytes from the front of a queue: the bytes, the descriptors, and the queue that
is left. -/
def take (n : Nat) : List Message → List UInt8 × List Descriptor × List Message
  | [] => ([], [], [])
  | m :: rest =>
    if n < m.bytes.length then
      (m.bytes.take n, m.descriptors, ⟨m.bytes.drop n, []⟩ :: rest)
    else if m.descriptors.isEmpty then
      if n = m.bytes.length then (m.bytes, [], rest)
      else
        let (bytes, descriptors, left) := take (n - m.bytes.length) rest
        (m.bytes ++ bytes, descriptors, left)
    else (m.bytes, m.descriptors, rest)

/-- Keeps the first descriptor and notes how many others were closed. -/
def keepFirst (descriptors : List Descriptor) : Option Descriptor × List Log.Line :=
  (descriptors.head?,
    if descriptors.length > 1 then
      [Log.debug s!"Closing {descriptors.length - 1} extra descriptors"]
    else [])

def receive : Receive Stream := fun n s =>
  if s.queue.isEmpty then
    match s.fault with
    | some e => (.error (.message e), s)
    | none => if s.writerOpen then (.error .timedOut, s) else (.ok ⟨[], none⟩, s)
  else
    let (bytes, descriptors, left) := take n s.queue
    if maxDescriptors < descriptors.length then
      (.error (.message .noBuffers), { s with queue := left })
    else
      let (first, notes) := keepFirst descriptors
      (.ok ⟨bytes, first⟩, { s with queue := left, log := s.log ++ notes })

end Stream
end Wire
end Backdrop
