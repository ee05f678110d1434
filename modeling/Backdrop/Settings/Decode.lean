import Backdrop.Settings.Basic
import Backdrop.Toml.Document

/-!
# Backdrop.Settings.Decode

Settings out of a TOML document.

Each section is a table, or an array that gives the values of its fields in order. Fields that are
missing keep what holds without a file, names that mean nothing are passed over, and so is what an
array has too much. A moment in the place of a section says nothing about any field.
-/

namespace Backdrop
namespace Settings

open Toml (Item Entries)

def textOf : Item → Option String
  | .string s => some s
  | _ => none

def pathOf (i : Item) : Option Path := (textOf i).map Path.ofString

/-- Whole numbers that are not negative. -/
def countOf : Item → Option Nat
  | .integer n => if n < 0 then none else some n.toNat
  | _ => none

/-- The items that a section gives for its fields; nothing if it is no section. -/
def fieldsOf (names : List String) : Item → Option (List (Option Item))
  | .table _ es | .inlineTable _ es => some (names.map fun n => es.lookup n)
  | .array items => some ((List.range names.length).map fun i => items[i]?)
  | .moment => some (names.map fun _ => none)
  | _ => none

/-- The fields under `name`, all missing if there is no such section. -/
def fieldsAt (es : Entries) (name : String) (names : List String) : Option (List (Option Item)) :=
  match es.lookup name with
  | none => some (names.map fun _ => none)
  | some i => fieldsOf names i

/-- Reads a field, if it is there. -/
def field {α : Type} (read : Item → Option α) (missing : α) : Option Item → Option α
  | none => some missing
  | some i => read i

/-- Settings as a document gives them, nothing if a value has the wrong type. -/
def ofEntries (es : Entries) : Option Settings :=
  match fieldsAt es "socket" ["path", "read_timeout_ms"], fieldsAt es "render" ["filter"],
      fieldsAt es "logging" ["level", "log_dir"] with
  | some [path, timeout], some [filter], some [level, directory] => do
    let d := Settings.default
    return ⟨← field (fun i => (pathOf i).map some) d.socketPath path,
      ← field (fun i => (countOf i).map some) d.readTimeout timeout,
      ← field textOf d.filterName filter,
      ← field textOf d.level level,
      ← field (fun i => (pathOf i).map some) d.logDirectory directory⟩
  | _, _, _ => none

/-- Settings out of the text of a file. -/
def ofText (text : String) : Except SettingsError Settings :=
  match (Toml.parse text).bind ofEntries with
  | none => .error .malformed
  | some s =>
    match s.validate with
    | .error e => .error e
    | .ok () => .ok s

end Settings
end Backdrop
