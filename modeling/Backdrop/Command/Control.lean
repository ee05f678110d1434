import Backdrop.Command.Ending
import Backdrop.Memory.Sealed
import Backdrop.Picture.Decode
import Backdrop.Wire.Server

/-!
# Backdrop.Command.Control

The program that hands a picture, or the wish to clear, to a running daemon.

The settings come first, then the path of the socket, then the picture, and only then a connection is
made.
-/

namespace Backdrop
namespace Command
namespace Control

structure Options where
  /-- The monitor that is meant; all if none. -/
  display : Option String
  clear : Bool
  config : Option Path
  file : Path
  deriving Repr, DecidableEq, Inhabited

/-- Where the program finds things. -/
structure Setting where
  environment : Environment
  /-- What comes in on standard input. -/
  input : List UInt8
  deriving Repr, DecidableEq, Inhabited

def grammar : Grammar :=
  ⟨[⟨"display", some 'd', .text⟩, ⟨"clear", some 'c', .flag⟩, ⟨configName, none, .path⟩] ++
    Switch.common, 1⟩

/-- The file that stands for standard input. -/
def standardInput : Path := ⟨[Arguments.hyphen]⟩

/-- A path means standard input if its one name is the hyphen, at the very start. -/
def isStandardInput (p : Path) : Bool :=
  p.bytes.head? == some Arguments.hyphen && p.names == [[Arguments.hyphen]]

def options (words : List Word) (e : Environment) : Except Stop Options := do
  let a ← Arguments.read grammar words
  return ⟨(a.value? "display").map textOf, a.has "clear", ← askedConfig a e,
    (a.placed.head?.map Path.mk).getD standardInput⟩

/-- The bytes of a picture, and how the place is called that they come from. -/
def pictureBytes (s : Setting) (file : Path) (t : Tree) : Except Chain (List UInt8 × String) :=
  if isStandardInput file then .ok (s.input, "image from stdin")
  else
    match t.inspect true file with
    | .error err => .error (Chain.context s!"Failed to open {file.display}" (.ofIo (.os err)))
    | .ok (.socket _) =>
      .error (Chain.context s!"Failed to open {file.display}" (.ofIo (.os .noDevice)))
    | .ok _ =>
      match t.read file with
      | .error err => .error (Chain.context s!"Failed to read {file.display}" (.ofIo (.os err)))
      | .ok bytes => .ok (bytes, file.display)

def load (s : Setting) (file : Path) (t : Tree) : Except Chain Picture := do
  let (bytes, place) ← pictureBytes s file t
  match Picture.decode bytes with
  | .error err => .error (Chain.context s!"Failed to decode {place}" (.ofImage err.message))
  | .ok p => .ok p

/-- The picture in a region that another process can map. -/
def share (p : Picture) : Except Chain (Extent × Descriptor) :=
  match Sealed.forImage p.extent with
  | .error err =>
    .error (Chain.context "Failed to allocate shared memory for the image" (.ofMemory err))
  | .ok region =>
    .ok (p.extent, ⟨((region.write 0 p.pixels).getD region).file.content⟩)

/-- Sends a request; `failure` says what could not be done. -/
def send (failure : String) (socket : Path) (o : Options)
    (picture : Option (Extent × Descriptor)) (h : Host) : Ending × Host :=
  match Wire.Client.send socket o.display picture h with
  | (.error err, h) => (.failed (Chain.context failure (.ofTransfer err)), h)
  | (.ok (), h) => (.finished, h)

/-- Sends what the options ask for. -/
def carryOut (s : Setting) (socket : Path) (o : Options) (h : Host) : Ending × Host :=
  if o.clear then
    send "Failed to send clear request" socket o none
      (if isStandardInput o.file then h
        else h.note (Log.warn s!"Ignoring {o.file.display} because --clear was given"))
  else
    match (load s o.file h.tree).bind share with
    | .error why => (.failed why, h)
    | .ok picture => send "Failed to send image" socket o (some picture) h

def run (words : List Word) (s : Setting) (h : Host) : Ending × Host :=
  match options words s.environment with
  | .error stop => (.ofStop stop, h)
  | .ok o =>
    match loadSettings h.tree s.environment o.config with
    | .error ending => (ending, h)
    | .ok settings =>
      match settings.socket s.environment with
      | .error err => (.failed (.ofDaemon err), h)
      | .ok socket => carryOut s socket o h

end Control
end Command
end Backdrop
