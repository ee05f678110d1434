import Backdrop.Log

/-!
# Backdrop.Log.Record

Log lines as records for machines: one JSON object a line, with the level, the message and the origin.

`Record.quoted` writes a text between double quotes, so that no record ever holds a line break: quotes,
backslashes and controls are escaped, and everything else stands for itself.
-/

namespace Backdrop
namespace Log

/-- A line and where it comes from. -/
structure Entry where
  origin : String
  line : Line
  deriving Repr, DecidableEq, Inhabited

namespace Record

/-- Four hexadecimal digits for a control. -/
def controlDigits (n : Nat) : List Char :=
  ['0', '0', (n / 16).digitChar, (n % 16).digitChar]

def escaped (c : Char) : List Char :=
  match c with
  | '"' => ['\\', '"']
  | '\\' => ['\\', '\\']
  | '\n' => ['\\', 'n']
  | '\r' => ['\\', 'r']
  | '\t' => ['\\', 't']
  | _ => if c.toNat < 0x20 then ['\\', 'u'] ++ controlDigits c.toNat else [c]

theorem digitChar_ne_newline : ∀ d, d < 16 → d.digitChar ≠ '\n' := by decide

theorem newline_notMem_escaped (c : Char) : '\n' ∉ escaped c := by
  unfold escaped
  split
  · decide
  · decide
  · decide
  · decide
  · decide
  · next hq hb hn hr ht =>
    split
    · next hlt =>
      have high := digitChar_ne_newline (c.toNat / 16) (by omega)
      have low := digitChar_ne_newline (c.toNat % 16) (by omega)
      simp [controlDigits, high.symm, low.symm]
    · simpa using fun h => hn h.symm

def quoted (s : String) : String :=
  String.ofList ('"' :: s.toList.flatMap escaped ++ ['"'])

theorem newline_notMem_quoted (s : String) : '\n' ∉ (quoted s).toList := by
  simp [quoted, newline_notMem_escaped]

/-- A member of an object. -/
def member (name value : String) : String := quoted name ++ ":" ++ value

/-- An object with its members in their order. -/
def object (members : List String) : String :=
  "\x7b" ++ ",".intercalate members ++ "\x7d"

end Record

/-- One line for machines. -/
def Entry.record (e : Entry) : String :=
  Record.object [Record.member "level" (Record.quoted e.line.level.name),
    Record.member "fields" (Record.object [Record.member "message" (Record.quoted e.line.text)]),
    Record.member "target" (Record.quoted e.origin)]

end Log
end Backdrop
