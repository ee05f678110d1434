/-!
# Backdrop.Toml.Item

What a TOML document holds, and the rules by which keys and headers put things into tables.

A table remembers its origin, because that decides who may add to it: a table that a header named is
closed to dotted keys and to a second header, a table that a header only passed through may still be
named once, and a table made by dotted keys grows by dotted keys only.

* `Entries.insert` puts a value at a dotted key, `Draft.open_` opens the table of a header.
* Both refuse (`none`) whatever defines a name twice or goes through something that is no table.
-/

namespace Backdrop
namespace Toml

/-- How a table came to be. -/
inductive Origin where
  | header
  | passedThrough
  | dottedKey
  deriving Repr, DecidableEq, Inhabited

inductive Item where
  | string (s : String)
  | integer (n : Int)
  | float
  | boolean (b : Bool)
  | moment
  | array (items : List Item)
  /-- A table in braces. Those inside it that dotted keys made can still grow. -/
  | inlineTable (origin : Origin) (entries : List (String × Item))
  | table (origin : Origin) (entries : List (String × Item))
  /-- The tables of headers in double brackets. -/
  | tables (items : List (List (String × Item)))
  deriving Inhabited

abbrev Entries := List (String × Item)

namespace Entries

/-- Replaces the item of a key that is there. -/
def replace (es : Entries) (key : String) (item : Item) : Entries :=
  es.map fun e => if e.1 == key then (key, item) else e

def add (es : Entries) (key : String) (item : Item) : Entries := es ++ [(key, item)]

def remove (es : Entries) (key : String) : Entries := es.filter fun e => e.1 != key

/-- A table may be grown by a dotted key that ends in it or passes through it. -/
def admits (origin : Origin) (isLast : Bool) : Bool :=
  match origin with
  | .header => false
  | .passedThrough => !isLast
  | .dottedKey => true

/-- Puts `item` at `key` in the table that the dotted `path` leads to. -/
def insert (key : String) (item : Item) : (path : List String) → Entries → Option Entries
  | [], es => if (es.lookup key).isSome then none else some (es.add key item)
  | k :: path, es =>
    match es.lookup k with
    | none => (insert key item path []).map fun inner => es.add k (.table .dottedKey inner)
    | some (.table origin inner) =>
      if admits origin path.isEmpty then
        (insert key item path inner).map fun inner => es.replace k (.table origin inner)
      else none
    | some (.tables items) =>
      match items.getLast? with
      | some last =>
        if path.isEmpty then none
        else (insert key item path last).map fun last =>
          es.replace k (.tables (items.dropLast ++ [last]))
      | none => none
    | some _ => none

/-- Puts `item` at `key` in the table in braces that the dotted `path` leads to. -/
def insertInline (key : String) (item : Item) : (path : List String) → Entries → Option Entries
  | [], es => if (es.lookup key).isSome then none else some (es.add key item)
  | k :: path, es =>
    match es.lookup k with
    | none =>
      (insertInline key item path []).map fun inner => es.add k (.inlineTable .dottedKey inner)
    | some (.inlineTable origin inner) =>
      if admits origin path.isEmpty then
        (insertInline key item path inner).map fun inner =>
          es.replace k (.inlineTable origin inner)
      else none
    | some _ => none

/-- Changes the table that the `path` of a header leads to. Tables that are not there are made, and
of several tables the last is meant. -/
def descend {α : Type} (f : Entries → Option (α × Entries)) :
    (path : List String) → Entries → Option (α × Entries)
  | [], es => f es
  | k :: path, es =>
    match es.lookup k with
    | none =>
      (descend f path []).map fun (a, inner) => (a, es.add k (.table .passedThrough inner))
    | some (.table origin inner) =>
      (descend f path inner).map fun (a, inner) => (a, es.replace k (.table origin inner))
    | some (.tables items) =>
      match items.getLast? with
      | some last =>
        (descend f path last).map fun (a, last) =>
          (a, es.replace k (.tables (items.dropLast ++ [last])))
      | none => none
    | some _ => none

/-- Takes out the table that a header names: nothing yet, or what headers below it have made. -/
def takeTable (key : String) (es : Entries) : Option (Entries × Entries) :=
  match es.lookup key with
  | none => some ([], es)
  | some (.table .passedThrough inner) => some (inner, es.remove key)
  | some _ => none

/-- Makes sure that a header in double brackets names tables. -/
def openTables (key : String) (es : Entries) : Option (Entries × Entries) :=
  match es.lookup key with
  | none => some ([], es.add key (.tables []))
  | some (.tables _) => some ([], es)
  | some _ => none

/-- Puts a finished table where its header said. -/
def putTable (key : String) (table : Entries) (es : Entries) : Option (Unit × Entries) :=
  match es.lookup key with
  | none => some ((), es.add key (.table .header table))
  | some _ => none

/-- Puts a finished table behind the others of its header. -/
def pushTable (key : String) (table : Entries) (es : Entries) : Option (Unit × Entries) :=
  match es.lookup key with
  | some (.tables items) => some ((), es.replace key (.tables (items ++ [table])))
  | _ => none

end Entries

/-- A header: the names that lead to a table, and its own name. -/
structure Header where
  path : List String
  name : String
  /-- The header has double brackets. -/
  repeated : Bool
  deriving Repr, DecidableEq, Inhabited

/-- A document that is being read: the tables that are finished, and the one that grows. -/
structure Draft where
  root : Entries
  header : Option Header
  current : Entries
  deriving Inhabited

namespace Draft

def empty : Draft := ⟨[], none, []⟩

/-- Puts the growing table where it belongs. -/
def close (d : Draft) : Option Entries :=
  match d.header with
  | none => some d.current
  | some h =>
    let put := if h.repeated then Entries.pushTable h.name d.current
      else Entries.putTable h.name d.current
    (Entries.descend put h.path d.root).map (·.2)

/-- Begins the table of a header. -/
def open_ (d : Draft) (h : Header) : Option Draft :=
  match d.close with
  | none => none
  | some root =>
    let take := if h.repeated then Entries.openTables h.name else Entries.takeTable h.name
    (Entries.descend take h.path root).map fun (inner, root) => ⟨root, some h, inner⟩

def insert (d : Draft) (path : List String) (key : String) (item : Item) : Option Draft :=
  (Entries.insert key item path d.current).map fun es => { d with current := es }

end Draft
end Toml
end Backdrop
