import Backdrop.Toml.Item

/-!
# Backdrop.Toml.Scalar

Values that are no arrays and no tables: strings, numbers, truth values and moments.

Strings are read character by character. Everything else is a word of letters, digits and a few
signs, and `scalarOfWord` says what a whole word means. Whole numbers must fit into 64 bits with a
sign, and a number with a fraction or an exponent must not be too large.
-/

namespace Backdrop
namespace Toml

def isBlank (c : Char) : Bool := c == ' ' || c == '\t'

/-- Characters that may stand in comments. -/
def isTextChar (c : Char) : Bool := c == '\t' || (' ' ≤ c && c ≤ '~') || 0x80 ≤ c.toNat

/-- Characters of words. -/
def isWordChar (c : Char) : Bool := c.isAlphanum || "_+-.:".toList.contains c

/-! ## Numbers -/

/-- The digits of a number in which single underscores may stand between digits. -/
def grouped (isDigit : Char → Bool) : (afterDigit : Bool) → List Char → Option (List Char)
  | after, [] => if after then some [] else none
  | after, c :: rest =>
    if isDigit c then (grouped isDigit true rest).map (c :: ·)
    else if c = '_' && after then grouped isDigit false rest
    else none

def digitValue (c : Char) : Nat :=
  if c.isDigit then c.toNat - '0'.toNat
  else if 'a' ≤ c && c ≤ 'f' then c.toNat - 'a'.toNat + 10
  else if 'A' ≤ c && c ≤ 'F' then c.toNat - 'A'.toNat + 10
  else 16

def numberOf (base : Nat) (digits : List Char) : Nat :=
  digits.foldl (fun n c => n * base + digitValue c) 0

/-- A sign, which says whether the number is negative, and the rest. -/
def takeSign : List Char → Bool × List Char
  | '+' :: rest => (false, rest)
  | '-' :: rest => (true, rest)
  | cs => (false, cs)

/-- The digits of a decimal number; a zero leads only if it is alone. -/
def decimalDigits (cs : List Char) : Option (List Char) :=
  match grouped Char.isDigit false cs with
  | some ('0' :: _ :: _) => none
  | other => other

def maxInteger : Int := 0x7FFFFFFFFFFFFFFF

/-- Numbers that need more than 64 bits are refused. -/
def fitting (n : Int) : Option Item :=
  if n ≤ maxInteger && -maxInteger - 1 ≤ n then some (.integer n) else none

def basedInteger (base : Nat) (cs : List Char) : Option Item :=
  match grouped (fun c => digitValue c < base) false cs with
  | some ds => fitting (numberOf base ds)
  | none => none

def integerOfWord : List Char → Option Item
  | '0' :: 'x' :: rest => basedInteger 16 rest
  | '0' :: 'o' :: rest => basedInteger 8 rest
  | '0' :: 'b' :: rest => basedInteger 2 rest
  | cs =>
    let (negative, rest) := takeSign cs
    match decimalDigits rest with
    | some ds =>
      let n : Int := numberOf 10 ds
      fitting (if negative then -n else n)
    | none => none

/-- A number with so many zeros put behind it. -/
def withZeros (m : Nat) : Nat → Nat
  | 0 => m
  | n + 1 => withZeros (m * 10) n

/-- The number `m · 10^e` rounds to more than the largest finite double. -/
def isTooLarge (m : Nat) (e : Int) : Bool :=
  let size : Int := (Nat.toDigits 10 m).length
  if m = 0 || size + e < 300 then false
  else if 320 < size + e then true
  else
    let bound := 1 <<< 1024 - 1 <<< 970
    if 0 ≤ e then bound ≤ withZeros m e.toNat else withZeros bound (-e).toNat ≤ m

/-- The exponent of a number, after its letter. -/
def exponentOf (cs : List Char) : Option Int :=
  let (negative, rest) := takeSign cs
  (grouped Char.isDigit false rest).map fun ds =>
    let n : Int := numberOf 10 ds
    if negative then -n else n

def isExponentMark (c : Char) : Bool := c == 'e' || c == 'E'

def isDigitOrGroup (c : Char) : Bool := c.isDigit || c == '_'

/-- The digits of a fraction and the exponent after it. -/
def fractionOf : List Char → Option (List Char × Int)
  | [] => none
  | c :: rest =>
    if isExponentMark c then (exponentOf rest).map fun e => ([], e)
    else if c = '.' then
      match grouped Char.isDigit false (rest.takeWhile isDigitOrGroup) with
      | none => none
      | some ds =>
        match rest.dropWhile isDigitOrGroup with
        | [] => some (ds, 0)
        | m :: more =>
          if isExponentMark m then (exponentOf more).map fun e => (ds, e) else none
    else none

/-- Numbers that are too small are as good as the negative infinity; too large ones are refused. -/
def floatOfWord (cs : List Char) : Option Item :=
  let (negative, rest) := takeSign cs
  if rest == "inf".toList || rest == "nan".toList then some .float
  else
    match decimalDigits (rest.takeWhile isDigitOrGroup),
        fractionOf (rest.dropWhile isDigitOrGroup) with
    | some whole, some (fraction, e) =>
      if !negative && isTooLarge (numberOf 10 (whole ++ fraction)) (e - fraction.length) then none
      else some .float
    | _, _ => none

/-! ## Moments -/

/-- Two digits with a value in a range, and the rest. -/
def twoDigits (low high : Nat) : List Char → Option (Nat × List Char)
  | a :: b :: rest =>
    if a.isDigit && b.isDigit then
      let n := numberOf 10 [a, b]
      if low ≤ n && n ≤ high then some (n, rest) else none
    else none
  | _ => none

def expect (c : Char) : List Char → Option (List Char)
  | d :: rest => if c = d then some rest else none
  | [] => none

def isLeapYear (year : Nat) : Bool := year % 4 == 0 && (year % 100 != 0 || year % 400 == 0)

def daysIn (year month : Nat) : Nat :=
  if month = 2 then (if isLeapYear year then 29 else 28)
  else if [4, 6, 9, 11].contains month then 30
  else 31

/-- What follows a date. -/
def afterDate (cs : List Char) : Option (List Char) := do
  let (century, cs) ← twoDigits 0 99 cs
  let (years, cs) ← twoDigits 0 99 cs
  let (month, cs) ← twoDigits 1 12 (← expect '-' cs)
  let (_, cs) ← twoDigits 1 (daysIn (century * 100 + years) month) (← expect '-' cs)
  return cs

/-- What follows a time of day. -/
def afterTime (cs : List Char) : Option (List Char) := do
  let (_, cs) ← twoDigits 0 23 cs
  let (_, cs) ← twoDigits 0 59 (← expect ':' cs)
  let (_, cs) ← twoDigits 0 60 (← expect ':' cs)
  match cs with
  | '.' :: d :: rest => if d.isDigit then return rest.dropWhile Char.isDigit else return cs
  | _ => return cs

/-- The distance from universal time, or nothing. -/
def isOffset (cs : List Char) : Bool :=
  match cs with
  | [] => true
  | c :: rest =>
    if c == 'Z' || c == 'z' then rest.isEmpty
    else if c == '+' || c == '-' then
      match (twoDigits 0 23 rest).bind fun p => (expect ':' p.2).bind (twoDigits 0 59) with
      | some (_, []) => true
      | _ => false
    else false

def isTimeWithOffset (cs : List Char) : Bool :=
  match afterTime cs with
  | some rest => isOffset rest
  | none => false

def isMoment (cs : List Char) : Bool :=
  match afterDate cs with
  | some [] => true
  | some (c :: rest) => (c == 'T' || c == 't') && isTimeWithOffset rest
  | none => afterTime cs == some []

/-! ## Words -/

/-- What a whole word means. -/
def scalarOfWord (cs : List Char) : Option Item :=
  if cs == "true".toList then some (.boolean true)
  else if cs == "false".toList then some (.boolean false)
  else if isMoment cs then some .moment
  else (floatOfWord cs).or (integerOfWord cs)

/-- A word at the start of a text. After a date, a blank and a digit begin a time of day. -/
def takeScalar (cs : List Char) : Option (Item × List Char) :=
  let word := cs.takeWhile isWordChar
  let rest := cs.dropWhile isWordChar
  match rest with
  | ' ' :: d :: more =>
    if afterDate word == some [] && d.isDigit then
      if isTimeWithOffset ((d :: more).takeWhile isWordChar) then
        some (.moment, (d :: more).dropWhile isWordChar)
      else none
    else (scalarOfWord word).map fun i => (i, rest)
  | _ => (scalarOfWord word).map fun i => (i, rest)

/-! ## Strings -/

/-- The character with the code point that hexadecimal digits spell. -/
def charOfHex (digits : List Char) : Option Char :=
  if digits.all fun c => digitValue c < 16 then
    let n := numberOf 16 digits
    if h : n.isValidChar then some (Char.ofNatAux n h) else none
  else none

/-- What one letter after a backslash stands for. -/
def escaped : Char → Option Char
  | 'b' => some '\x08'
  | 't' => some '\t'
  | 'n' => some '\n'
  | 'f' => some '\x0c'
  | 'r' => some '\r'
  | '"' => some '"'
  | '\\' => some '\\'
  | _ => none

/-- Puts a character in front of what was read after it. -/
def prepend (c : Char) (r : Option (List Char × List Char)) : Option (List Char × List Char) :=
  r.map fun (s, rest) => (c :: s, rest)

/-- Prepends a character, if there is one. -/
def prependSome (c : Option Char) (r : Option (List Char × List Char)) :
    Option (List Char × List Char) :=
  match c with
  | some c => prepend c r
  | none => none

/-- The rest of a string in double quotes. -/
def basicString : List Char → Option (List Char × List Char)
  | [] => none
  | '"' :: rest => some ([], rest)
  | '\\' :: 'u' :: a :: b :: c :: d :: rest =>
    prependSome (charOfHex [a, b, c, d]) (basicString rest)
  | '\\' :: 'U' :: a :: b :: c :: d :: e :: f :: g :: h :: rest =>
    prependSome (charOfHex [a, b, c, d, e, f, g, h]) (basicString rest)
  | '\\' :: c :: rest => prependSome (escaped c) (basicString rest)
  | c :: rest => if isTextChar c && c != '\\' then prepend c (basicString rest) else none

/-- The rest of a string in single quotes, which is taken as it stands. -/
def literalString : List Char → Option (List Char × List Char)
  | [] => none
  | '\'' :: rest => some ([], rest)
  | c :: rest => if isTextChar c then prepend c (literalString rest) else none

/-- A line ends here. -/
def startsLine : List Char → Bool
  | '\n' :: _ | '\r' :: '\n' :: _ => true
  | _ => false

/-- Drops the line end that a string of several lines may begin with. -/
def dropLineEnd : List Char → List Char
  | '\n' :: rest => rest
  | '\r' :: '\n' :: rest => rest
  | cs => cs

/-- The rest of a string of several lines in double quotes. While `skipping`, after a backslash at a
line's end, blanks and line ends are dropped. One or two quotes may stand before the last three. -/
def basicLines : (skipping : Bool) → List Char → Option (List Char × List Char)
  | true, ' ' :: rest | true, '\t' :: rest | true, '\n' :: rest => basicLines true rest
  | true, '\r' :: '\n' :: rest => basicLines true rest
  | _, '"' :: '"' :: '"' :: '"' :: '"' :: rest => some (['"', '"'], rest)
  | _, '"' :: '"' :: '"' :: '"' :: rest => some (['"'], rest)
  | _, '"' :: '"' :: '"' :: rest => some ([], rest)
  | _, '\\' :: 'u' :: a :: b :: c :: d :: rest =>
    prependSome (charOfHex [a, b, c, d]) (basicLines false rest)
  | _, '\\' :: 'U' :: a :: b :: c :: d :: e :: f :: g :: h :: rest =>
    prependSome (charOfHex [a, b, c, d, e, f, g, h]) (basicLines false rest)
  | _, '\\' :: c :: rest =>
    if startsLine ((c :: rest).dropWhile isBlank) then basicLines true (c :: rest)
    else prependSome (escaped c) (basicLines false rest)
  | _, '\r' :: '\n' :: rest => prepend '\n' (basicLines false rest)
  | _, '\n' :: rest => prepend '\n' (basicLines false rest)
  | _, c :: rest => if isTextChar c && c != '\\' then prepend c (basicLines false rest) else none
  | _, [] => none

/-- The rest of a string of several lines in single quotes. -/
def literalLines : List Char → Option (List Char × List Char)
  | '\'' :: '\'' :: '\'' :: '\'' :: '\'' :: rest => some (['\'', '\''], rest)
  | '\'' :: '\'' :: '\'' :: '\'' :: rest => some (['\''], rest)
  | '\'' :: '\'' :: '\'' :: rest => some ([], rest)
  | '\r' :: '\n' :: rest => prepend '\n' (literalLines rest)
  | '\n' :: rest => prepend '\n' (literalLines rest)
  | c :: rest => if isTextChar c then prepend c (literalLines rest) else none
  | [] => none

/-- A string of any kind. -/
def takeString : List Char → Option (List Char × List Char)
  | '"' :: '"' :: '"' :: rest => basicLines false (dropLineEnd rest)
  | '"' :: rest => basicString rest
  | '\'' :: '\'' :: '\'' :: rest => literalLines (dropLineEnd rest)
  | '\'' :: rest => literalString rest
  | _ => none

end Toml
end Backdrop
