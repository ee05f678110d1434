import Backdrop.Text.Unprintable

/-!
# Backdrop.Text.Quoted

Texts as log lines quote them: between double quotes, with a backslash before quotes and
backslashes, short names for the common controls, and the code point in hexadecimal for whatever
cannot be printed.

* `Text.quoted` quotes a text.
* `Text.quotedOption` writes an optional one as `Some("...")` or `None`.
-/

namespace Backdrop
namespace Text

/-- The code point in lower-case hexadecimal, without leading zeros. -/
def hexDigits (n : Nat) : List Char := Nat.toDigits 16 n

def quotedChar (c : Char) : List Char :=
  match c with
  | '"' => ['\\', '"']
  | '\\' => ['\\', '\\']
  | '\n' => ['\\', 'n']
  | '\r' => ['\\', 'r']
  | '\t' => ['\\', 't']
  | _ =>
    if c.toNat = 0 then ['\\', '0']
    else if isUnprintable c then ['\\', 'u', '\x7b'] ++ hexDigits c.toNat ++ ['\x7d']
    else [c]

def quoted (s : String) : String :=
  String.ofList ('"' :: s.toList.flatMap quotedChar ++ ['"'])

def quotedOption : Option String → String
  | some s => "Some(" ++ quoted s ++ ")"
  | none => "None"

end Text
end Backdrop
