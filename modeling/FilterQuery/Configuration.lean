set_option autoImplicit false
set_option relaxedAutoImplicit false

/-!
Configuration data, whatever notation it was written in, and the reading of records from it: a
record is a table of its fields or a list of them in order.
-/

namespace FilterQuery.Configuration

/-- A piece of configuration. -/
inductive Item
  | null
  | boolean (b : Bool)
  | integer (n : Int)
  | text (s : String)
  | list (items : List Item)
  | table (entries : List (String × Item))
  /-- A number that is no integer. -/
  | fraction
  /-- A date, a time of day or both: a record none of whose fields is ever asked for. -/
  | moment
  /-- A number out of range or with a wrong digit. It does no harm where nothing reads it. -/
  | unreadable

mutual

def Item.isReadable : Item → Bool
  | .list items => allReadable items
  | .table entries => allEntriesReadable entries
  | .unreadable => false
  | _ => true

def allReadable : List Item → Bool
  | [] => true
  | item :: items => item.isReadable && allReadable items

def allEntriesReadable : List (String × Item) → Bool
  | [] => true
  | (_, item) :: entries => item.isReadable && allEntriesReadable entries

end

/-- How strictly a notation is read. -/
structure Rules where
  /-- Whether a list may have more items than the record it stands for has fields. -/
  longLists : Bool
  /-- What stands for the argument of a choice that has none. -/
  isNothing : Item → Bool

def text? : Item → Option String
  | .text s => some s
  | _ => none

def boolean? : Item → Option Bool
  | .boolean b => some b
  | _ => none

def natural? : Item → Option Nat
  | .integer n => if 0 ≤ n ∧ n < 0x10000000000000000 then some n.toNat else none
  | _ => none

def list? {α : Type} (item? : Item → Option α) : Item → Option (List α)
  | .list items => items.mapM item?
  | _ => none

/-- One of several names, alone or as the only entry of a table, with no argument. -/
def name? (rules : Rules) : Item → Option String
  | .text s => some s
  | .table [(s, argument)] => if rules.isNothing argument then some s else none
  | _ => none

/-- The fields of a record with the given names, each `none` where it is missing. The other entries
of a table are read and do not matter; the items of a list beyond its fields are not even read. -/
def fields? (rules : Rules) (names : List String) : Item → Option (List (Option Item))
  | .table entries =>
    if allEntriesReadable (entries.filter fun entry => !names.contains entry.1) then
      some (names.map fun name => (entries.find? (·.1 == name)).map (·.2))
    else none
  | .moment => some (names.map fun _ => none)
  | .list items =>
    if rules.longLists || items.length ≤ names.length then
      some (names.zipIdx.map fun (_, i) => items[i]?)
    else none
  | _ => none

def required {α : Type} (item? : Item → Option α) (field : Option Item) : Option α :=
  field.bind item?

def optional {α : Type} (item? : Item → Option α) (default : α) (field : Option Item) : Option α :=
  match field with
  | some item => item? item
  | none => some default

end FilterQuery.Configuration
