/-!
# Backdrop.Log.Pattern

Which texts can stand for the value of a field: truth values, numbers and patterns.

A pattern is read sign by sign. `Pattern.step` keeps what is open at a place, and a text is a pattern
if every sign fits where it stands and nothing is open at its end.
-/

namespace Backdrop
namespace Log
namespace Pattern

/-- What is open after a part of a pattern. -/
structure Progress where
  groups : Nat
  /-- Sets of characters, which can stand in one another. -/
  sets : Nat
  /-- The next sign is escaped. -/
  escaped : Bool
  /-- There is something here that can be repeated. -/
  repeatable : Bool
  /-- A group or a set has just been opened. -/
  fresh : Bool
  deriving Repr, DecidableEq, Inhabited

def Progress.start : Progress := ⟨0, 0, false, false, false⟩

/-- Letters that mean something after a backslash; other letters and digits mean nothing there. -/
def escapeLetters : List Char := "dDsSwWnrtfvaxuUpPAz".toList

def stepEscaped (p : Progress) (c : Char) : Option Progress :=
  if c.isAlphanum && !escapeLetters.contains c then none
  else some { p with escaped := false, repeatable := true, fresh := false }

def stepInSet (p : Progress) (c : Char) : Option Progress :=
  match c with
  | '[' => some { p with sets := p.sets + 1, fresh := true }
  | '^' => some p
  | ']' =>
    if p.fresh then some { p with fresh := false }
    else some { p with sets := p.sets - 1, repeatable := true }
  | _ => some { p with fresh := false }

/-- A sign outside of sets. -/
def stepPlain (p : Progress) (c : Char) : Option Progress :=
  match c with
  | '(' => some { p with groups := p.groups + 1, repeatable := false, fresh := true }
  | ')' =>
    if p.groups = 0 then none
    else some { p with groups := p.groups - 1, repeatable := true, fresh := false }
  | '[' => some { p with sets := 1, fresh := true }
  | '|' => some { p with repeatable := false, fresh := false }
  | '?' => if p.repeatable || p.fresh then some { p with fresh := false } else none
  | '*' | '+' => if p.repeatable then some p else none
  | '\x7b' => none
  | _ => some { p with repeatable := true, fresh := false }

def step (p : Progress) (c : Char) : Option Progress :=
  if p.escaped then stepEscaped p c
  else if c = '\\' then some { p with escaped := true }
  else if p.sets = 0 then stepPlain p c
  else stepInSet p c

def isPattern (cs : List Char) : Bool :=
  match cs.foldlM step Progress.start with
  | none => false
  | some p => p.groups == 0 && p.sets == 0 && !p.escaped

/-- A number with a sign in front would be no pattern, but it is a value. -/
def isValue (cs : List Char) : Bool :=
  match cs with
  | '+' :: digits => !digits.isEmpty && digits.all Char.isDigit
  | _ => isPattern cs

end Pattern
end Log
end Backdrop
