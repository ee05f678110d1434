import Backdrop.Host.Errno
import Backdrop.Text.Utf8

/-!
# Backdrop.Host.Path

Paths are byte strings, of any length and in any encoding.

* `Path.display` shows one, with U+FFFD for each ill-formed part.
* `Path.join` puts one separator between two parts; an absolute right part replaces the left.
* `Path.absolute` resolves against a working directory by the text alone: `.` parts and repeated
  separators go, `..` parts and a final separator stay.
-/

namespace Backdrop

/-- One name between separators. -/
abbrev PathName := List UInt8

structure Path where
  bytes : List UInt8
  deriving Repr, DecidableEq, Inhabited

namespace Path

/-- The byte of the separator. -/
def separator : UInt8 := 0x2F

/-- The byte of the full stop. -/
def dot : UInt8 := 0x2E

def ofString (s : String) : Path := ⟨Utf8.encode s⟩

def display (p : Path) : String := Utf8.lossy p.bytes

def isEmpty (p : Path) : Bool := p.bytes.isEmpty

def length (p : Path) : Nat := p.bytes.length

def isAbsolute (p : Path) : Bool := p.bytes.head? == some separator

def endsInSeparator (p : Path) : Bool := p.bytes.getLast? == some separator

def join (dir file : Path) : Path :=
  if file.isAbsolute then file
  else if dir.isEmpty || dir.endsInSeparator then ⟨dir.bytes ++ file.bytes⟩
  else ⟨dir.bytes ++ separator :: file.bytes⟩

/-- The text split at separators; empty names are kept. -/
def splitNames : List UInt8 → List PathName
  | [] => [[]]
  | b :: rest =>
    if b = separator then [] :: splitNames rest
    else match splitNames rest with
      | [] => [[b]]
      | n :: ns => (b :: n) :: ns

/-- The names to walk along; `.` is one of them. -/
def steps (p : Path) : List PathName := (splitNames p.bytes).filter fun n => !n.isEmpty

/-- The names of a path, without empty ones and without `.`. -/
def names (p : Path) : List PathName := p.steps.filter (· != [dot])

/-- An absolute path for `p`, seen from the directory `cwd`. -/
def absolute (cwd p : Path) : Except IoError Path :=
  if p.isEmpty then .error (.other "cannot make an empty path absolute")
  else
    let start : Path :=
      if p.isAbsolute then
        match p.bytes with
        | 0x2F :: 0x2F :: 0x2F :: _ => ⟨[separator]⟩
        | 0x2F :: 0x2F :: _ => ⟨[separator, separator]⟩
        | _ => ⟨[separator]⟩
      else cwd
    let whole := p.names.foldl (fun d n => d.join ⟨n⟩) start
    .ok (if p.endsInSeparator && !whole.endsInSeparator then ⟨whole.bytes ++ [separator]⟩ else whole)

end Path
end Backdrop
