import Backdrop.Log
import Backdrop.Log.Pattern
import Backdrop.Text.Alphanumeric

/-!
# Backdrop.Log.Directive

Which log lines are wanted.

Every line comes from a place in the program, whose name is its origin, and has one field, its
message. A directive gives a level for the origins that start with a text, or for all. It may be
narrowed to lines with a certain field, or to a span, which is a stretch of the program's run; as the
program marks none, a directive for a span lets nothing through, nor does one for the value of a field.

* `Directive.ofChars?` reads `level`, `origin` or `origin=level`. After the origin, or in its place,
  `[span]`, `[span{field}]` or `[{field=value}]` narrows the directive.
* `Directives.ofText?` reads directives that are separated by commas.
* `Directives.wants` lets the longest text decide; of equals one with a field, and then the last.
-/

namespace Backdrop
namespace Log

/-- How severe a line must be; none lets nothing through. -/
abbrev Threshold := Option Level

/-- A level by its number. -/
def thresholdOfNumber? : Nat → Option Threshold
  | 0 => some none
  | 1 => some (some .error)
  | 2 => some (some .warn)
  | 3 => some (some .info)
  | 4 => some (some .debug)
  | 5 => some (some .trace)
  | _ => none

/-- A decimal number, which may have zeros or one plus in front. -/
def numberOf? (cs : List Char) : Option Nat :=
  let digits := match cs with
    | '+' :: rest => rest
    | _ => cs
  if digits.isEmpty || !digits.all Char.isDigit then none
  else some (digits.foldl (fun n c => 10 * n + (c.toNat - '0'.toNat)) 0)

/-- A level by its name, in any case, or by its number. -/
def thresholdOf? (text : String) : Option Threshold :=
  match text.toLower with
  | "off" => some none
  | "error" => some (some .error)
  | "warn" => some (some .warn)
  | "info" => some (some .info)
  | "debug" => some (some .debug)
  | "trace" => some (some .trace)
  | _ => (numberOf? text.toList).bind thresholdOfNumber?

/-- A field that a directive is narrowed to. -/
structure FieldTest where
  name : String
  /-- The field must have a certain value. -/
  valued : Bool
  deriving Repr, DecidableEq, Inhabited

structure Directive where
  /-- How the origins begin that it is about. -/
  start : Option String
  /-- It is about one span only. -/
  inSpan : Bool
  field : Option FieldTest
  threshold : Threshold
  deriving Repr, DecidableEq, Inhabited

/-- A directive for the origins that start with a text. -/
def Directive.ofOrigin (start : String) (threshold : Threshold) : Directive :=
  ⟨some start, false, none, threshold⟩

/-- A directive for everything. -/
def Directive.ofThreshold (threshold : Threshold) : Directive := ⟨none, false, none, threshold⟩

abbrev Directives := List Directive

/-- The field that every line has, and the only one. -/
def FieldTest.ofLines : String := "message"

/-- Reads `name` or `name=value`; what follows a second equals sign does not count. -/
def FieldTest.ofText? (text : String) : Option FieldTest :=
  match text.splitOn "=" with
  | name :: value :: _ => if Pattern.isValue value.toList then some ⟨name, true⟩ else none
  | name :: [] => some ⟨name, false⟩
  | [] => none

namespace Directive

/-- Blanks of all scripts. -/
def isBlank (c : Char) : Bool :=
  c.isWhitespace || c.toNat == 0x0B || c.toNat == 0x0C || c.toNat == 0x85 || c.toNat == 0xA0 ||
    c.toNat == 0x1680 || (0x2000 ≤ c.toNat && c.toNat ≤ 0x200A) || c.toNat == 0x2028 ||
    c.toNat == 0x2029 || c.toNat == 0x202F || c.toNat == 0x205F || c.toNat == 0x3000

/-- A text without the blanks at its ends. -/
def trimmed (cs : List Char) : List Char :=
  ((cs.dropWhile isBlank).reverse.dropWhile isBlank).reverse

/-- A text under two views. The signs have no blanks at their ends; they tell where a piece begins and
ends, and the piece is cut out of the text at the same places. -/
structure Draft where
  text : List Char
  signs : List Char
  deriving Repr, DecidableEq, Inhabited

namespace Draft

def ofChars (cs : List Char) : Draft := ⟨cs, trimmed cs⟩

def cut (d : Draft) (first stop : Nat) : String :=
  String.ofList ((d.text.take stop).drop first)

def cutFrom (d : Draft) (first : Nat) : String := String.ofList (d.text.drop first)

/-- The place of the first of some signs from a place on, and which it is. -/
def find? (d : Draft) (first : Nat) (wanted : List Char) : Option (Nat × Char) :=
  ((d.signs.drop first).find? wanted.contains).bind fun c =>
    ((d.signs.drop first).findIdx? wanted.contains).map fun i => (first + i, c)

/-- The level after an equals sign; everything if it is left out. -/
def level? (d : Draft) (first : Nat) : Option Threshold :=
  match d.cutFrom first with
  | "" => some (some .trace)
  | name => thresholdOf? name

/-- What can follow a bracket: nothing or a level. -/
def afterBracket? (d : Draft) (place : Nat) : Option Threshold :=
  match d.signs[place]? with
  | none => some (some .trace)
  | some '=' => d.level? (place + 1)
  | some _ => none

/-- The field between braces, and the place after the bracket that follows them. -/
def field? (d : Draft) (first : Nat) : Option (FieldTest × Nat) :=
  match d.find? first ['\x7d'] with
  | none => none
  | some (stop, _) =>
    if stop = first || d.signs[stop + 1]? ≠ some ']' then none
    else (FieldTest.ofText? (d.cut first stop)).map fun f => (f, stop + 2)

/-- A directive that is narrowed by what stands between brackets. -/
def narrowed? (d : Draft) (start : Option String) (first : Nat) : Option Directive :=
  match d.find? first [']', '\x7b'] with
  | none => none
  | some (stop, ']') => (d.afterBracket? (stop + 1)).map fun t => ⟨start, true, none, t⟩
  | some (stop, _) =>
    match d.field? (stop + 1) with
    | none => none
    | some (field, place) =>
      (d.afterBracket? place).map fun t => ⟨start, first < stop, some field, t⟩

/-- A directive that begins with an origin or is a level alone. -/
def opened? (d : Draft) : Option Directive :=
  match d.find? 0 ['=', '['] with
  | none =>
    match thresholdOf? (d.cutFrom 0) with
    | some t => some (.ofThreshold t)
    | none => some (.ofOrigin (d.cutFrom 0) (some .trace))
  | some (stop, '=') => (d.level? (stop + 1)).map (.ofOrigin (d.cut 0 stop))
  | some (stop, _) => d.narrowed? (some (d.cut 0 stop)) (stop + 1)

end Draft

/-- Characters that an origin can begin with. -/
def isStart (c : Char) : Bool := Text.isAlphanumeric c || c == '-' || c == ':' || c == '_'

def ofChars? (cs : List Char) : Option Directive :=
  let d := Draft.ofChars cs
  match d.signs with
  | [] => none
  | '[' :: _ => d.narrowed? none 1
  | c :: _ => if isStart c then d.opened? else none

/-- It can be met by a line that is in no span. -/
def isPlain (d : Directive) : Bool :=
  !d.inSpan && !(d.field.map (·.valued)).getD false

def appliesTo (d : Directive) (origin : String) : Bool :=
  d.isPlain && (d.start.getD "").toList.isPrefixOf origin.toList &&
    (d.field.map (·.name)).getD FieldTest.ofLines == FieldTest.ofLines

/-- Greater for a directive that is about less. -/
def rank (d : Directive) : Nat :=
  2 * (d.start.getD "").length + (if d.field.isSome then 1 else 0)

end Directive

namespace Directives

/-- Errors from everywhere. -/
def errorsOnly : Directives := [.ofThreshold (some .error)]

/-- Nothing at all stands for errors only. -/
def ofText? (text : String) : Option Directives :=
  let parts := (text.splitOn ",").filter fun part => !part.isEmpty
  if parts.isEmpty then some errorsOnly
  else parts.mapM fun part => Directive.ofChars? part.toList

/-- Of two directives that apply, the one that decides. -/
def closer (before : Option Directive) (d : Directive) : Option Directive :=
  match before with
  | none => some d
  | some b => if b.rank ≤ d.rank then some d else some b

/-- The directive that decides about an origin. -/
def deciding? (ds : Directives) (origin : String) : Option Directive :=
  (ds.filter fun d => d.appliesTo origin).foldl closer none

/-- Lines of this level from this origin are wanted. -/
def wants (ds : Directives) (origin : String) (level : Level) : Bool :=
  match (deciding? ds origin).bind (·.threshold) with
  | none => false
  | some t => t.severity ≤ level.severity

end Directives
end Log
end Backdrop
