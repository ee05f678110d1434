import Backdrop.Host.Tree
import Backdrop.Table
import Backdrop.Wire.Stream

/-!
# Backdrop.Host.Sockets

Local stream sockets: listeners bound to paths, and the connections that wait at them.

A listener is reached through the entry that its own binding made in the tree, as long as that entry
is there; removing the entry leaves the listener alive and unreachable. Numbers of listeners and of
connections are never given out twice.

* `Host.listen` binds a listener. The empty path binds one that no path reaches.
* `Host.connect` queues a connection at a listener, `Host.accept` takes the one that has waited
  longest.
* `Host.hangUp` ends a listener and refuses those who still wait.
-/

namespace Backdrop

structure Host where
  tree : Tree
  /-- The connections that wait at each live listener, the oldest first. -/
  listeners : Table (List Nat)
  connections : Table Wire.Stream
  nextListener : Nat
  nextConnection : Nat
  log : List Log.Line
  deriving Inhabited

namespace Host

def ofTree (t : Tree) : Host := ⟨t, .empty, .empty, 0, 0, []⟩

def note (l : Log.Line) (h : Host) : Host := { h with log := h.log ++ [l] }

/-- Paths of sockets are shorter than this. -/
def pathLimit : Nat := 108

/-- Why a path cannot name a socket at all. -/
def addressFault? (p : Path) : Option IoError :=
  if p.bytes.contains 0 then some (.other "paths must not contain interior null bytes")
  else if pathLimit ≤ p.length then some (.other "path must be shorter than SUN_LEN")
  else none

/-- Adds a listener that nobody waits at. -/
def addListener (h : Host) (tree : Tree) : Nat × Host :=
  (h.nextListener, { h with
    tree := tree
    listeners := h.listeners.insert h.nextListener []
    nextListener := h.nextListener + 1 })

/-- An entry that is there is not taken over. -/
def listen (p : Path) (h : Host) : Except IoError (Nat × Host) :=
  match addressFault? p with
  | some e => .error e
  | none =>
    if p.isEmpty then .ok (h.addListener h.tree)
    else
      match h.tree.create p (.socket h.nextListener) with
      | .ok t => .ok (h.addListener t)
      | .error e => .error (.os (if e = .exists_ then .addressInUse else e))

/-- The live listener that a path leads to. -/
def reach (p : Path) (h : Host) : Except IoError Nat :=
  match addressFault? p with
  | some e => .error e
  | none =>
    if p.isEmpty then .error (.os .invalid)
    else
      match h.tree.inspect true p with
      | .error e => .error (.os e)
      | .ok (.socket n) =>
        if h.listeners.contains n then .ok n else .error (.os .connectionRefused)
      | .ok _ => .error (.os .connectionRefused)

/-- A new connection that waits at a listener. -/
def enqueue (listener : Nat) (h : Host) : Nat × Host :=
  (h.nextConnection, { h with
    listeners := h.listeners.modify listener (· ++ [h.nextConnection])
    connections := h.connections.insert h.nextConnection .open_
    nextConnection := h.nextConnection + 1 })

def connect (p : Path) (h : Host) : Except IoError (Nat × Host) :=
  match h.reach p with
  | .error e => .error e
  | .ok listener => .ok (h.enqueue listener)

/-- The connection that has waited longest at a listener. -/
def accept (listener : Nat) (h : Host) : Option (Nat × Host) :=
  match h.listeners.find? listener with
  | some (c :: rest) => some (c, { h with listeners := h.listeners.insert listener rest })
  | _ => none

def modifyConnection (c : Nat) (f : Wire.Stream → Wire.Stream) (h : Host) : Host :=
  { h with connections := h.connections.modify c f }

/-- Does something with one end of a connection. -/
def onConnection {α : Type} (c : Nat) (gone : α) (f : Wire.Stream → α × Wire.Stream)
    (h : Host) : α × Host :=
  match h.connections.find? c with
  | none => (gone, h)
  | some s =>
    let (a, s) := f { s with log := [] }
    (a, { h with
      connections := h.connections.insert c { s with log := [] }
      log := h.log ++ s.log })

/-- Ends a listener; those who wait at it find nobody there. -/
def hangUp (listener : Nat) (h : Host) : Host :=
  match h.listeners.find? listener with
  | none => h
  | some waiting =>
    waiting.foldl (fun h c => h.modifyConnection c Wire.Stream.closeReader)
      { h with listeners := h.listeners.erase listener }

end Host
end Backdrop
