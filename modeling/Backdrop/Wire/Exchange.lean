import Backdrop.Wire.Server

/-!
# Backdrop.Wire.Exchange

Servers and clients on one host, each under a name. A name that is given again passes to the new
holder, and what held it before is dropped.
-/

namespace Backdrop
namespace Wire

structure Exchange where
  host : Host
  servers : List (String × Server)
  clients : List (String × Nat)
  deriving Inhabited

namespace Exchange

def ofTree (t : Tree) : Exchange := ⟨.ofTree t, [], []⟩

/-- All but the holder of a name. -/
def without {α : Type} (name : String) (l : List (String × α)) : List (String × α) :=
  l.filter fun e => e.1 != name

/-- Drops a server; the answer says whether there was one. -/
def drop (name : String) (x : Exchange) : Bool × Exchange :=
  match x.servers.lookup name with
  | none => (false, x)
  | some s => (true, { x with host := s.drop x.host, servers := without name x.servers })

/-- Closes a client's connection; the answer says whether there was one. -/
def close (name : String) (x : Exchange) : Bool × Exchange :=
  match x.clients.lookup name with
  | none => (false, x)
  | some c => (true, { x with host := Client.close c x.host, clients := without name x.clients })

def bind (name : String) (p : Path) (x : Exchange) : Except DaemonError Path × Exchange :=
  match Server.bind p x.host with
  | .error e => (.error e, x)
  | .ok (s, host) =>
    let x := (drop name { x with host := host }).2
    (.ok s.path, { x with servers := (name, s) :: x.servers })

def connect (name : String) (p : Path) (x : Exchange) : Except TransferError Unit × Exchange :=
  match Client.connect p x.host with
  | .error e => (.error e, x)
  | .ok (c, host) =>
    let x := (close name { x with host := host }).2
    (.ok (), { x with clients := (name, c) :: x.clients })

/-- Queues a message on a client's connection; no answer if there is no such client. -/
def write (name : String) (m : Message) (x : Exchange) :
    Option (Except TransferError Nat) × Exchange :=
  match x.clients.lookup name with
  | none => (none, x)
  | some c =>
    let (r, host) := Client.write c m x.host
    (some r, { x with host := host })

/-- Sends one request from a client that nobody names. -/
def send (p : Path) (target : Option String) (picture : Option (Extent × Descriptor))
    (x : Exchange) : Except TransferError Unit × Exchange :=
  let (r, host) := Client.send p target picture x.host
  (r, { x with host := host })

/-- What comes of asking a server to serve one client. -/
inductive Service where
  | noServer
  | idle
  | served (request : Request)
  | refused (why : DaemonError)
  deriving Inhabited

def serve (name : String) (x : Exchange) : Service × Exchange :=
  match x.servers.lookup name with
  | none => (.noServer, x)
  | some s =>
    match s.serveOne x.host with
    | none => (.idle, x)
    | some (.ok r, host) => (.served r, { x with host := host })
    | some (.error e, host) => (.refused e, { x with host := host })

/-- The host when all servers are dropped. -/
def settled (x : Exchange) : Host := x.servers.foldl (fun h s => s.2.drop h) x.host

/-- Changes the tree as far as the change goes. -/
def onTree (f : Tree → Tree.Change) (x : Exchange) : Except Errno Unit × Exchange :=
  let (r, t) := f x.host.tree
  (r, { x with host := { x.host with tree := t } })

end Exchange
end Wire
end Backdrop
