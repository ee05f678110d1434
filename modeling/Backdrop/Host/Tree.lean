import Backdrop.Host.Path

/-!
# Backdrop.Host.Tree

A tree of files.

Every entry has a `Location`, the names that lead to it from the root, and is a file, a directory, a
symbolic link or a socket. The root itself is always there.

* `Tree.locate` follows a path, through at most forty links, to a `Spot`: a location whose parent
  directory is there, and what is at it.
* `Tree.inspect` and `Tree.read` look at entries, `Tree.create`, `Tree.write` and `Tree.remove`
  change them. A change that fails leaves the tree as it was.
* `Tree.makeDirectory` takes several steps, and those that succeed before one fails stay done.
-/

namespace Backdrop

/-- The names that lead to an entry from the root. -/
abbrev Location := List PathName

inductive Node where
  | file (content : List UInt8)
  | directory
  | link (target : Path)
  /-- A socket, with the number of the listener that was bound to it. -/
  | socket (listener : Nat)
  deriving Repr, DecidableEq, Inhabited

structure Tree where
  /-- Where relative paths start. -/
  workingDirectory : Location
  entries : List (Location × Node)
  deriving Repr, DecidableEq, Inhabited

namespace Tree

/-- A tree in which only the working directory is there, and the directories above it. -/
def bare (workingDirectory : Location) : Tree :=
  ⟨workingDirectory,
    (List.range workingDirectory.length).map fun i => (workingDirectory.take (i + 1), .directory)⟩

/-- The absolute path of the working directory. -/
def workingPath (t : Tree) : Path :=
  t.workingDirectory.foldl (fun p n => p.join ⟨n⟩) ⟨[Path.separator]⟩

def node? (t : Tree) (l : Location) : Option Node :=
  if l.isEmpty then some .directory else t.entries.lookup l

def put (t : Tree) (l : Location) (n : Node) : Tree :=
  { t with entries := t.entries.filter (fun e => e.1 != l) ++ [(l, n)] }

def drop (t : Tree) (l : Location) : Tree :=
  { t with entries := t.entries.filter fun e => e.1 != l }

/-- The name of the parent directory. -/
def up : PathName := [Path.dot, Path.dot]

/-- The longest name. -/
def maxName : Nat := 255

/-- The longest path. -/
def maxPath : Nat := 4095

/-- How many links one path may lead through. -/
def maxLinks : Nat := 40

/-- The name by which a directory means itself. -/
def itself : PathName := [Path.dot]

/-- A location whose parent is there, and what is at it. -/
structure Spot where
  location : Location
  node : Option Node
  /-- The path ends in a separator, or a link that it led through last does. -/
  slash : Bool
  deriving Repr, DecidableEq, Inhabited

/-- Walks along names from the directory `at_`, with so many links left to follow. A link under the
last name is followed only if `follow` says so. -/
def walk (t : Tree) (follow : Bool) (links : Nat) (at_ : Location) (names : List PathName)
    (slash : Bool) : Except Errno Spot :=
  match names with
  | [] => .ok ⟨at_, some .directory, slash⟩
  | n :: rest =>
    if n = itself then walk t follow links at_ rest slash
    else if n = up then walk t follow links at_.dropLast rest slash
    else if maxName < n.length then .error .nameTooLong
    else
      match t.node? (at_ ++ [n]) with
      | none => if rest.isEmpty then .ok ⟨at_ ++ [n], none, slash⟩ else .error .noEntry
      | some .directory => walk t follow links (at_ ++ [n]) rest slash
      | some (.link target) =>
        if rest.isEmpty && !follow then .ok ⟨at_ ++ [n], some (.link target), slash⟩
        else if links = 0 then .error .tooManyLinks
        else if target.isEmpty then .error .noEntry
        else
          walk t follow (links - 1) (if target.isAbsolute then [] else at_) (target.steps ++ rest)
            (slash || (rest.isEmpty && target.endsInSeparator))
      | some other =>
        if rest.isEmpty then .ok ⟨at_ ++ [n], some other, slash⟩ else .error .notDirectory
termination_by (links, names.length)

/-- Walks along the names of a path, or along the first of them. -/
def locateAlong (t : Tree) (follow : Bool) (p : Path) (names : List PathName) :
    Except Errno Spot :=
  if p.isEmpty then .error .noEntry
  else if maxPath < p.length then .error .nameTooLong
  else
    walk t follow maxLinks (if p.isAbsolute then [] else t.workingDirectory) names
      p.endsInSeparator

/-- Follows a path. -/
def locate (t : Tree) (follow : Bool) (p : Path) : Except Errno Spot :=
  t.locateAlong follow p p.steps

/-- What is at a path; a link at its end is followed if `follow` says so, or if a separator stands
behind it. After a separator only a directory will do. -/
def inspect (t : Tree) (follow : Bool) (p : Path) : Except Errno Node :=
  match t.locate (follow || p.endsInSeparator) p with
  | .error e => .error e
  | .ok spot =>
    match spot.node with
    | none => .error .noEntry
    | some n => if spot.slash && n != .directory then .error .notDirectory else .ok n

/-- Something is at the path itself, be it a link that leads nowhere. -/
def exists_ (t : Tree) (p : Path) : Bool := (t.inspect false p).isOk

/-- The path leads to a directory. -/
def isDirectory (t : Tree) (p : Path) : Bool :=
  match t.inspect true p with
  | .ok .directory => true
  | _ => false

def read (t : Tree) (p : Path) : Except Errno (List UInt8) :=
  match t.inspect true p with
  | .error e => .error e
  | .ok (.file content) => .ok content
  | .ok .directory => .error .isDirectory
  | .ok (.link _) => .error .tooManyLinks
  | .ok (.socket _) => .error .noDevice

/-- Makes a new entry where none is. Only a directory can be made under a name with a separator behind
it. -/
def create (t : Tree) (p : Path) (n : Node) : Except Errno Tree :=
  match t.locate false p with
  | .error e => .error e
  | .ok spot =>
    if spot.node.isSome then .error .exists_
    else if spot.slash && n != .directory then .error .noEntry
    else .ok (t.put spot.location n)

/-- Puts content at a spot where no file or another one is. -/
def writeAt (t : Tree) (spot : Spot) (content : List UInt8) : Except Errno Tree :=
  if spot.slash then .error .isDirectory
  else
    match spot.node with
    | none | some (.file _) => .ok (t.put spot.location (.file content))
    | some .directory => .error .isDirectory
    | some (.link _) => .error .tooManyLinks
    | some (.socket _) => .error .noDevice

/-- Makes a file, or replaces what a file holds. Under a name with a separator behind it no file can
be, whatever is there; only the directory above it is looked for. -/
def write (t : Tree) (p : Path) (content : List UInt8) : Except Errno Tree :=
  match t.locateAlong true p
    (if p.endsInSeparator then p.steps.dropLast ++ [itself] else p.steps) with
  | .error e => .error e
  | .ok spot => t.writeAt spot content

/-- Removes an entry that is not a directory; of a link, the link itself. -/
def remove (t : Tree) (p : Path) : Except Errno Tree :=
  match t.locate false p with
  | .error e => .error e
  | .ok spot =>
    match spot.node with
    | none => .error .noEntry
    | some .directory => .error .isDirectory
    | some _ => if spot.slash then .error .notDirectory else .ok (t.drop spot.location)

/-! ## Changes in several steps -/

/-- How far a change came: why it stopped, if it did, and what there is then. -/
abbrev Change := Except Errno Unit × Tree

/-- A change that is made as a whole or not at all. -/
def attempt (f : Tree → Except Errno Tree) (t : Tree) : Change :=
  match f t with
  | .error e => (.error e, t)
  | .ok t => (.ok (), t)

/-- Makes one directory unless the path leads to one. -/
def ensureDirectory (p : Path) (t : Tree) : Change :=
  match t.create p .directory with
  | .ok t => (.ok (), t)
  | .error e => (if t.isDirectory p then .ok () else .error e, t)

/-- Makes a directory, and before it those above if they are missing. `above` holds the names that lead
from `start` to it, the last one first. -/
def makeDirectories (start : Path) : (above : List PathName) → Path → Tree → Change
  | [], _, t => (.ok (), t)
  | _ :: above, p, t =>
    match ensureDirectory p t with
    | (.error e, t) =>
      if e = .noEntry then
        match makeDirectories start above (above.reverse.foldl (fun d n => d.join ⟨n⟩) start) t with
        | (.ok (), t) => ensureDirectory p t
        | stopped => stopped
      else (.error e, t)
    | done => done

/-- Makes a directory and those above it. What was made stays, also if the rest cannot be made. -/
def makeDirectory (p : Path) (t : Tree) : Change :=
  makeDirectories ⟨if p.isAbsolute then [Path.separator] else []⟩ p.names.reverse p t

/-- Puts a file at a path, or a directory if there is no content, and makes the directories above
it. -/
def lay (p : Path) (content : Option (List UInt8)) (t : Tree) : Change :=
  match content with
  | none => t.makeDirectory p
  | some bytes =>
    let start : Path := ⟨if p.isAbsolute then [Path.separator] else []⟩
    match t.makeDirectory (p.names.dropLast.foldl (fun d n => d.join ⟨n⟩) start) with
    | (.ok (), t) => attempt (·.write p bytes) t
    | stopped => stopped

/-- The paths of everything below the working directory, relative to it. -/
def below (t : Tree) : List Path :=
  (t.entries.map (·.1)).filterMap fun l =>
    if t.workingDirectory.isPrefixOf l && l.length > t.workingDirectory.length then
      some ((l.drop t.workingDirectory.length).foldl (fun p n => p.join ⟨n⟩) ⟨[]⟩)
    else none

end Tree
end Backdrop
