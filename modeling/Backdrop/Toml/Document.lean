import Backdrop.Toml.Scalar

/-!
# Backdrop.Toml.Document

Reading a whole TOML document: `Toml.parse` gives its outermost table, or nothing if the text is no
TOML or defines something twice.

Arrays and tables in braces may be nested less than eighty deep, and a key may have less than eighty
parts. The readers below carry fuel; `Toml.parse` gives them more than any text of that length uses.
-/

namespace Backdrop
namespace Toml

/-- Nesting and dotted keys stay below this. -/
def depthLimit : Nat := 80

def skipBlanks (cs : List Char) : List Char := cs.dropWhile isBlank

/-- Skips blanks, line ends and comments. -/
def skipLines : (inComment : Bool) → List Char → Option (List Char)
  | _, '\n' :: rest => skipLines false rest
  | _, '\r' :: '\n' :: rest => skipLines false rest
  | true, c :: rest => if isTextChar c then skipLines true rest else none
  | false, '#' :: rest => skipLines true rest
  | false, c :: rest => if isBlank c then skipLines false rest else some (c :: rest)
  | _, [] => some []

/-- Skips to the next line, over blanks and a comment; nothing else may stand there. -/
def endLine (cs : List Char) : Option (List Char) :=
  match skipBlanks cs with
  | '#' :: rest =>
    match rest.dropWhile isTextChar with
    | [] => some []
    | other => if startsLine other then some (dropLineEnd other) else none
  | [] => some []
  | other => if startsLine other then some (dropLineEnd other) else none

/-! ## Keys -/

def isBareKeyChar (c : Char) : Bool := c.isAlphanum || c == '_' || c == '-'

/-- One part of a key. -/
def takeName : List Char → Option (String × List Char)
  | '"' :: rest => (basicString rest).map fun (s, rest) => (String.ofList s, rest)
  | '\'' :: rest => (literalString rest).map fun (s, rest) => (String.ofList s, rest)
  | cs =>
    let name := cs.takeWhile isBareKeyChar
    if name.isEmpty then none else some (String.ofList name, cs.dropWhile isBareKeyChar)

/-- The parts of a key, and blanks around each of them. -/
def takeParts : (fuel : Nat) → List Char → Option (List String × List Char)
  | 0, _ => none
  | fuel + 1, cs =>
    match takeName (skipBlanks cs) with
    | none => none
    | some (name, rest) =>
      match skipBlanks rest with
      | '.' :: more => (takeParts fuel more).map fun (names, rest) => (name :: names, rest)
      | rest => some ([name], rest)

/-- A key: the path to its table, and its last part. -/
structure Key where
  path : List String
  name : String
  deriving Repr, DecidableEq, Inhabited

def takeKey (cs : List Char) : Option (Key × List Char) :=
  match takeParts depthLimit cs with
  | none => none
  | some (names, rest) =>
    if depthLimit ≤ names.length then none
    else names.getLast?.map fun name => (⟨names.dropLast, name⟩, rest)

/-- A key, an equals sign, and the blanks before the value. -/
def takeBinding (cs : List Char) : Option (Key × List Char) :=
  match takeKey cs with
  | some (key, '=' :: rest) => some (key, skipBlanks rest)
  | _ => none

/-! ## Values -/

mutual

/-- A value, with `depth` more levels allowed below it. -/
def takeValue : (fuel depth : Nat) → List Char → Option (Item × List Char)
  | 0, _, _ => none
  | fuel + 1, depth, cs =>
    match cs with
    | '"' :: _ | '\'' :: _ =>
      (takeString cs).map fun (s, rest) => (.string (String.ofList s), rest)
    | '[' :: rest =>
      if depth = 0 then none
      else (takeElements fuel (depth - 1) rest).map fun (items, rest) => (.array items, rest)
    | '{' :: rest =>
      if depth = 0 then none
      else
        match skipBlanks rest with
        | '}' :: rest => some (.inlineTable .header [], rest)
        | _ => (takePairs fuel (depth - 1) [] rest).map fun (es, rest) =>
            (.inlineTable .header es, rest)
    | _ => takeScalar cs

/-- The rest of an array; a comma may stand after the last value. -/
def takeElements : (fuel depth : Nat) → List Char → Option (List Item × List Char)
  | 0, _, _ => none
  | fuel + 1, depth, cs =>
    match skipLines false cs with
    | none => none
    | some (']' :: rest) => some ([], rest)
    | some cs =>
      match takeValue fuel depth cs with
      | none => none
      | some (item, rest) =>
        match skipLines false rest with
        | some (',' :: rest) =>
          (takeElements fuel depth rest).map fun (items, rest) => (item :: items, rest)
        | some (']' :: rest) => some ([item], rest)
        | _ => none

/-- The rest of a table in braces, which stays on one line, after the pairs in `es`. -/
def takePairs : (fuel depth : Nat) → Entries → List Char → Option (Entries × List Char)
  | 0, _, _, _ => none
  | fuel + 1, depth, es, cs =>
    match takeBinding cs with
    | none => none
    | some (key, rest) =>
      match takeValue fuel depth rest with
      | none => none
      | some (item, rest) =>
        match es.insertInline key.name item key.path with
        | none => none
        | some es =>
          match skipBlanks rest with
          | ',' :: rest => takePairs fuel depth es rest
          | '}' :: rest => some (es, rest)
          | _ => none

end

/-! ## Lines -/

/-- A header in brackets, and the rest of its line. -/
def takeHeader (cs : List Char) : Option (Header × List Char) :=
  match cs with
  | '[' :: '[' :: rest =>
    match takeKey rest with
    | some (key, ']' :: ']' :: rest) =>
      (endLine rest).map fun rest => (⟨key.path, key.name, true⟩, rest)
    | _ => none
  | '[' :: rest =>
    match takeKey rest with
    | some (key, ']' :: rest) => (endLine rest).map fun rest => (⟨key.path, key.name, false⟩, rest)
    | _ => none
  | _ => none

/-- A key with its value, and the rest of the line. -/
def takePair (fuel : Nat) (cs : List Char) : Option (Key × Item × List Char) :=
  match takeBinding cs with
  | none => none
  | some (key, rest) =>
    match takeValue fuel (depthLimit - 1) rest with
    | none => none
    | some (item, rest) => (endLine rest).map fun rest => (key, item, rest)

/-- One line after another. -/
def readLines : (fuel : Nat) → Draft → List Char → Option Draft
  | 0, _, _ => none
  | fuel + 1, d, cs =>
    match skipLines false cs with
    | none => none
    | some [] => some d
    | some ('[' :: rest) =>
      match takeHeader ('[' :: rest) with
      | none => none
      | some (h, rest) => (d.open_ h).bind fun d => readLines fuel d rest
    | some cs =>
      match takePair fuel cs with
      | none => none
      | some (key, item, rest) =>
        (d.insert key.path key.name item).bind fun d => readLines fuel d rest

/-- Drops the mark that a text may begin with. -/
def dropMark : List Char → List Char
  | '\uFEFF' :: rest => rest
  | cs => cs

/-- The outermost table of a document. -/
def parse (text : String) : Option Entries :=
  let cs := dropMark text.toList
  (readLines (2 * cs.length + 2) .empty cs).bind Draft.close

end Toml
end Backdrop
