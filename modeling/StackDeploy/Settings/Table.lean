/-
# Tables

A document is a table of settings, which may hold further tables. A table comes to be in one of four
ways, and the way decides what may be added to it later: no key is given twice, a table with a
header of its own is closed to keys from outside, and one that keys made has no header.
-/

import StackDeploy.Settings.Setting

namespace StackDeploy.Settings

/-- How a table came to be. -/
inductive Origin where
  /-- By a header of its own. -/
  | opened
  /-- As the last one of a list of tables. -/
  | listed
  /-- On the way of a header to a table inside. -/
  | implied
  /-- On the way of a key with points. -/
  | joined
deriving DecidableEq

/-- What a key stands for. -/
inductive Node where
  | value (setting : Setting)
  | table (origin : Origin) (entries : List (String × Node))

/-- The entries of a table. -/
abbrev Entries : Type := List (String × Node)

namespace Entries

/-- What a key stands for in a table. -/
def node? (entries : Entries) (key : String) : Option Node :=
  (List.find? (fun entry => entry.1 = key) entries).map Prod.snd

/-- A table in which a key stands for something. -/
def put (entries : Entries) (key : String) (node : Node) : Entries :=
  (key, node) :: List.filter (fun entry => entry.1 ≠ key) entries

/-- Gives a setting to a key, which may lead through tables. A table with a header of its own is not
entered, and only a table that keys made gets new settings. -/
def define (setting : Setting) : List String → Entries → Option Entries
  | [], _ => none
  | [key], entries =>
    match entries.node? key with
    | none => some (entries.put key (.value setting))
    | some _ => none
  | key :: rest, entries =>
    match entries.node? key with
    | none => (define setting rest []).map fun inner => entries.put key (.table .joined inner)
    | some (.value _) => none
    | some (.table .opened _) => none
    | some (.table .joined inner) =>
      (define setting rest inner).map fun inner => entries.put key (.table .joined inner)
    | some (.table origin inner) =>
      if rest.length = 1 then none
      else (define setting rest inner).map fun inner => entries.put key (.table origin inner)

/-- Changes the table that a path of headers leads to. -/
def within (change : Entries → Option Entries) : List String → Entries → Option Entries
  | [], entries => change entries
  | key :: rest, entries =>
    match entries.node? key with
    | none => (within change rest []).map fun inner => entries.put key (.table .implied inner)
    | some (.value _) => none
    | some (.table origin inner) =>
      (within change rest inner).map fun inner => entries.put key (.table origin inner)

/-- Opens a table by its header. It may exist already if a header of a table inside implied it. -/
def openKey (key : String) (entries : Entries) : Option Entries :=
  match entries.node? key with
  | none => some (entries.put key (.table .opened []))
  | some (.table .implied inner) => some (entries.put key (.table .opened inner))
  | some _ => none

/-- Starts the next table of a list. -/
def listKey (key : String) (entries : Entries) : Option Entries :=
  match entries.node? key with
  | none | some (.table .listed _) => some (entries.put key (.table .listed []))
  | some _ => none

/-- Applies a change of a key at the end of a path. -/
def atPath (change : String → Entries → Option Entries) (path : List String)
    (entries : Entries) : Option Entries :=
  path.getLast?.bind fun key => within (change key) path.dropLast entries

/-- Gives settings to keys in turn. -/
def defineAll : List (List String × Setting) → Entries → Option Entries
  | [], entries => some entries
  | (path, setting) :: rest, entries => (define setting path entries).bind (defineAll rest)

/-- The settings of a table; a table inside is none that a field takes. -/
def settings (entries : Entries) : List (String × Setting) :=
  List.map
    (fun
      | (key, .value setting) => (key, setting)
      | (key, .table _ _) => (key, .other))
    entries

end Entries

end StackDeploy.Settings
