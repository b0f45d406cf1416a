/-
# Settings files

A settings file is a TOML document: keys with values, one on a line, in tables that may be nested.
The fields of the configuration are the keys outside of every table. The whole document has to be
well-formed, and no key may be given twice.
-/

import StackDeploy.Settings.Line
import StackDeploy.Settings.Table
import StackDeploy.Settings.Word

namespace StackDeploy.Settings

/-! ## Values -/

/-- The greatest depth of lists and tables within a value. -/
def deepestValue : Nat := 80

mutual

/-- A value, and what follows. The first argument bounds the number of steps, the second one the
depth. -/
def readValue : Nat → Nat → List Char → Option (Setting × List Char)
  | 0, _, _ => none
  | fuel + 1, depth, cs =>
    match cs, depth with
    | '[' :: _, 0 | '\x7b' :: _, 0 => none
    | '[' :: rest, depth + 1 => (readArray fuel depth rest).map fun after => (.other, after)
    | '\x7b' :: rest, depth + 1 =>
      match skipBlanks rest with
      | '\x7d' :: after => some (.other, after)
      | first =>
        (readInline fuel depth first).bind fun (items, after) =>
          (Entries.defineAll items []).map fun _ => (.other, after)
    | '"' :: _, _ | '\'' :: _, _ =>
      (readText cs).map fun (text, after) => (.text (String.ofList text), after)
    | cs, _ => readWord cs

/-- What follows the items of an array. -/
def readArray : Nat → Nat → List Char → Option (List Char)
  | 0, _, _ => none
  | fuel + 1, depth, cs => do
    let first ← skipLines cs.length cs
    match first with
    | ']' :: after => some after
    | first => do
      let (_, rest) ← readValue fuel depth first
      let next ← skipLines rest.length rest
      match next with
      | ']' :: after => some after
      | ',' :: more => readArray fuel depth more
      | _ => none

/-- The entries of an inline table, and what follows. -/
def readInline : Nat → Nat → List Char → Option (List (List String × Setting) × List Char)
  | 0, _, _ => none
  | fuel + 1, depth, cs => do
    let (path, rest) ← readPath cs.length cs
    match rest with
    | '=' :: value => do
      let (setting, rest) ← readValue fuel depth (skipBlanks value)
      match skipBlanks rest with
      | '\x7d' :: after => some ([(path, setting)], after)
      | ',' :: more =>
        (readInline fuel depth more).map fun (items, after) => ((path, setting) :: items, after)
      | _ => none
    | _ => none

end

/-! ## Lines -/

/-- A document as far as it is read: its tables, and the path of the open one. -/
structure Draft where
  entries : Entries
  scope : List String

namespace Draft

/-- Reads a key and its value. -/
def readEntry (d : Draft) (cs : List Char) : Option (Draft × List Char) := do
  let (path, rest) ← readPath cs.length cs
  match rest with
  | '=' :: value => do
    let (setting, rest) ← readValue (2 * value.length + 2) deepestValue (skipBlanks value)
    let after ← endLine rest
    let entries ← d.entries.within (Entries.define setting path) d.scope
    some (⟨entries, d.scope⟩, after)
  | _ => none

/-- Reads the line that opens a table, after its first bracket. -/
def readHeader (d : Draft) (cs : List Char) : Option (Draft × List Char) := do
  let isListed := cs.head? == some '['
  let (path, rest) ← readPath cs.length (if isListed then cs.drop 1 else cs)
  match isListed, rest with
  | true, ']' :: ']' :: rest => do
    let after ← endLine rest
    let entries ← Entries.atPath Entries.listKey path d.entries
    some (⟨entries, path⟩, after)
  | false, ']' :: rest => do
    let after ← endLine rest
    let entries ← Entries.atPath Entries.openKey path d.entries
    some (⟨entries, path⟩, after)
  | _, _ => none

/-- Reads the lines of a document, at most `fuel` of them. -/
def readAll : Nat → Draft → List Char → Option Draft
  | 0, d, cs => if cs.isEmpty then some d else none
  | fuel + 1, d, cs => do
    let line ← skipLines cs.length cs
    match line with
    | [] => some d
    | '[' :: rest => do
      let (d, after) ← d.readHeader rest
      readAll fuel d after
    | line => do
      let (d, after) ← d.readEntry line
      readAll fuel d after

end Draft

/-- The settings of a document outside of its tables; absent if it is not well-formed. -/
def ofDocument (text : String) : Option (List (String × Setting)) :=
  let cs :=
    match text.toList with
    | c :: rest => if c = '\ufeff' then rest else c :: rest
    | [] => []
  (Draft.readAll (cs.length + 1) ⟨[], []⟩ cs).map fun d => d.entries.settings

end StackDeploy.Settings
