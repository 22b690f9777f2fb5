import FilterQuery.Configuration

set_option autoImplicit false
set_option relaxedAutoImplicit false

/-!
Tables built up from the statements of a TOML document. Every table is defined once: by its own
header, by dotted keys, or as a value between braces, which is closed.
-/

namespace FilterQuery.Toml

open FilterQuery.Configuration (Item)

/-- A part of a document under construction. -/
inductive Node
  /-- A value, which nothing extends. -/
  | closed (item : Item)
  /-- A table. One that is `implied` was only named on the way to another, or made by `dotted`
  keys. -/
  | table (implied dotted : Bool) (entries : List (String × Node))
  /-- Tables under one header for each, the last one first. -/
  | tables (elements : List (List (String × Node)))

abbrev Entries := List (String × Node)

def lookup? (key : String) (entries : Entries) : Option Node :=
  (entries.find? (·.1 == key)).map (·.2)

/-- Entries with the node of a key put in its place, or at the end. -/
def put (key : String) (node : Node) : Entries → Entries
  | [] => [(key, node)]
  | (other, old) :: entries =>
    if other = key then (key, node) :: entries else (other, old) :: put key node entries

/-- Changes the entries of the table that a path leads to; the change is told whether dotted keys
made that table. Tables missing on the way are made. The way leads through the last of several
tables under one header. Dotted keys do not lead into a table that has a header. -/
def changeAt (dotted : Bool) (change : Bool → Entries → Option Entries) :
    Bool → List String → Entries → Option Entries
  | made, [], entries => change made entries
  | _, key :: path, entries =>
    match lookup? key entries with
    | none =>
      (changeAt dotted change dotted path []).map fun inner =>
        put key (.table true dotted inner) entries
    | some (.table implied made inner) =>
      if dotted && !implied then none
      else (changeAt dotted change made path inner).map fun inner =>
        put key (.table implied made inner) entries
    | some (.tables (last :: others)) =>
      (changeAt dotted change false path last).map fun last =>
        put key (.tables (last :: others)) entries
    | some _ => none

/-- A key and its value. -/
structure Assignment where
  path : List String
  key : String
  item : Item

/-- Entries with one more assignment. A dotted key goes into a table that dotted keys made. -/
def assign (entries : Entries) (a : Assignment) : Option Entries :=
  let dotted := !a.path.isEmpty
  changeAt dotted (fun made inner =>
    if made != dotted then none
    else if (lookup? a.key inner).isSome then none
    else some (put a.key (.closed a.item) inner)) false a.path entries

/-- The header of a section, and whether it is one of several with the same path. -/
structure Header where
  path : List String
  key : String
  repeats : Bool

/-- A header and the assignments under it. -/
structure Section where
  header : Header
  assignments : List Assignment

/-- A document with one more section. A table that was only named before gets its header now. -/
def addSection (entries : Entries) (s : Section) : Option Entries :=
  changeAt false (fun _ inner => do
    if s.header.repeats then
      let table ← s.assignments.foldlM assign []
      match lookup? s.header.key inner with
      | none => return put s.header.key (.tables [table]) inner
      | some (.tables others) => return put s.header.key (.tables (table :: others)) inner
      | some _ => none
    else
      let known ← match lookup? s.header.key inner with
        | none => some []
        | some (.table true false known) => some known
        | some _ => none
      return put s.header.key (.table false false (← s.assignments.foldlM assign known)) inner)
        false s.header.path
    entries

mutual

def Node.finish : Node → Item
  | .closed item => item
  | .table _ _ entries => .table (finishEntries entries)
  | .tables elements => .list (finishTables elements).reverse

def finishEntries : List (String × Node) → List (String × Item)
  | [] => []
  | (key, node) :: entries => (key, node.finish) :: finishEntries entries

def finishTables : List (List (String × Node)) → List Item
  | [] => []
  | element :: elements => .table (finishEntries element) :: finishTables elements

end

def tableOf? (assignments : List Assignment) : Option Item :=
  (assignments.foldlM assign []).map fun entries => .table (finishEntries entries)

def documentOf? (assignments : List Assignment) (sections : List Section) : Option Item := do
  let top ← assignments.foldlM assign []
  let entries ← sections.foldlM addSection top
  return .table (finishEntries entries)

end FilterQuery.Toml
