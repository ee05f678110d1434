import Backdrop.Host.Path

/-!
# Backdrop.Command.Arguments

Words of a command line, read by a list of switches.

A switch has a long name, after two hyphens, and perhaps a letter, after one. Letters may stand
together; the value of a switch is the rest of its word, with or without a sign of equality, or the
next word, which must not look like a switch. Two hyphens alone end the switches.

`Arguments.read` stops at the first mistake, or at the first switch that asks for information.
-/

namespace Backdrop
namespace Command

/-- What a switch is followed by, and whether it may be repeated. -/
inductive Arity where
  /-- Nothing; it stands at most once. -/
  | flag
  /-- Nothing; it may be repeated. -/
  | counted
  /-- A text. -/
  | text
  /-- A path that is not empty. -/
  | path
  /-- Nothing; the program only informs. -/
  | inform
  deriving Repr, DecidableEq, Inhabited

namespace Arity

def takesValue : Arity → Bool
  | .text | .path => true
  | .flag | .counted | .inform => false

end Arity

structure Switch where
  name : String
  letter : Option Char
  arity : Arity
  deriving Repr, DecidableEq, Inhabited

namespace Switch

/-- The switches that every program has. -/
def common : List Switch := [⟨"help", some 'h', .inform⟩, ⟨"version", some 'V', .inform⟩]

end Switch

structure Grammar where
  switches : List Switch
  /-- How many words may stand for themselves. -/
  places : Nat
  deriving Repr, DecidableEq, Inhabited

/-- Why a command line is not carried out. -/
inductive Stop where
  | mistake
  | inform
  deriving Repr, DecidableEq, Inhabited

/-- A word of a command line. -/
abbrev Word := List UInt8

structure Arguments where
  /-- The switches with their values, in order. -/
  given : List (String × Word)
  /-- The words that stand for themselves. -/
  placed : List Word
  deriving Repr, DecidableEq, Inhabited

namespace Arguments

def empty : Arguments := ⟨[], []⟩

def has (a : Arguments) (name : String) : Bool := (a.given.lookup name).isSome

def count (a : Arguments) (name : String) : Nat := (a.given.filter fun g => g.1 == name).length

def value? (a : Arguments) (name : String) : Option Word := a.given.lookup name

/-- The byte of the hyphen. -/
def hyphen : UInt8 := 0x2D

/-- The byte of the sign of equality. -/
def equality : UInt8 := 0x3D

/-- Adds a switch, if it may stand there with that value. -/
def give (a : Arguments) (s : Switch) (value : Word) : Except Stop Arguments :=
  if s.arity = .inform then .error .inform
  else if s.arity ≠ .counted ∧ a.has s.name then .error .mistake
  else if s.arity = .path ∧ value.isEmpty then .error .mistake
  else if s.arity = .text ∧ (Utf8.decode? value).isNone then .error .mistake
  else .ok { a with given := a.given ++ [(s.name, value)] }

/-- Adds a word that stands for itself, a path. -/
def place (a : Arguments) (g : Grammar) (w : Word) : Except Stop Arguments :=
  if a.placed.length < g.places ∧ !w.isEmpty then .ok { a with placed := a.placed ++ [w] }
  else .error .mistake

/-- What is known after a word: the arguments, and a switch whose value is still to come. -/
structure State where
  arguments : Arguments
  waiting : Option Switch
  deriving Repr, DecidableEq, Inhabited

/-- Reads the letters of a word. -/
def readLetters (g : Grammar) (a : Arguments) : Word → Except Stop State
  | [] => .ok ⟨a, none⟩
  | b :: rest =>
    match g.switches.find? fun s => s.letter == some (Char.ofNat b.toNat) with
    | none => .error .mistake
    | some s =>
      if s.arity.takesValue then
        if rest.isEmpty then .ok ⟨a, some s⟩
        else
          (a.give s (if rest.head? = some equality then rest.tail else rest)).map (⟨·, none⟩)
      else
        match a.give s [] with
        | .error e => .error e
        | .ok a => readLetters g a rest

/-- Reads a long name, perhaps with a value. -/
def readName (g : Grammar) (a : Arguments) (w : Word) : Except Stop State :=
  let name := w.takeWhile (· != equality)
  let value := (w.dropWhile (· != equality)).tail?
  match g.switches.find? fun s => Utf8.encode s.name == name with
  | none => .error .mistake
  | some s =>
    match s.arity.takesValue, value with
    | true, some v => (a.give s v).map (⟨·, none⟩)
    | true, none => .ok ⟨a, some s⟩
    | false, some _ => .error .mistake
    | false, none => (a.give s []).map (⟨·, none⟩)

/-- A word that starts with a hyphen, other than the hyphen itself, looks like a switch. -/
def looksLikeSwitch : Word → Bool
  | b :: _ :: _ => b == hyphen
  | _ => false

/-- Reads a word before the end of the switches. -/
def readWord (g : Grammar) (s : State) (w : Word) : Except Stop State :=
  match s.waiting with
  | some waiting =>
    if looksLikeSwitch w then .error .mistake
    else (s.arguments.give waiting w).map (⟨·, none⟩)
  | none =>
    if looksLikeSwitch w then
      match w.tail with
      | b :: rest => if b = hyphen then readName g s.arguments rest else
          readLetters g s.arguments (b :: rest)
      | [] => .error .mistake
    else (s.arguments.place g w).map (⟨·, none⟩)

def readWords (g : Grammar) (s : State) : List Word → Except Stop Arguments
  | [] => if s.waiting.isSome then .error .mistake else .ok s.arguments
  | w :: rest =>
    if w = [hyphen, hyphen] then
      if s.waiting.isSome then .error .mistake
      else rest.foldlM (fun a w => a.place g w) s.arguments
    else
      match readWord g s w with
      | .error e => .error e
      | .ok s => readWords g s rest

def read (g : Grammar) (words : List Word) : Except Stop Arguments :=
  readWords g ⟨.empty, none⟩ words

end Arguments
end Command
end Backdrop
