import FilterQuery.Configuration
import FilterQuery.Json
import FilterQuery.Schema.Indexed
import FilterQuery.Settings
import FilterQuery.Toml.Reader

set_option autoImplicit false
set_option relaxedAutoImplicit false

/-!
Schemas and settings read from configuration, which is written in TOML or given as a JSON value.
-/

namespace FilterQuery.Configuration.Load

open FilterQuery.Scalar (Kind)

/-- How TOML is read: items beyond the fields of a record do not matter, and an empty table or list
is nothing. -/
def tomlRules : Rules where
  longLists := true
  isNothing
    | .table [] => true
    | .list [] => true
    | _ => false

/-- How JSON is read: a record has no items beyond its fields, and null is nothing. -/
def jsonRules : Rules where
  longLists := false
  isNothing
    | .null => true
    | _ => false

mutual

def ofJson : Json.Value → Item
  | .null => .null
  | .boolean b => .boolean b
  | .integer n => .integer n
  | .real _ => .fraction
  | .text s => .text s
  | .list items => .list (ofItems items)
  | .object members => .table (ofMembers members)

def ofItems : List Json.Value → List Item
  | [] => []
  | item :: items => ofJson item :: ofItems items

def ofMembers : List (String × Json.Value) → List (String × Item)
  | [] => []
  | (name, value) :: members => (name, ofJson value) :: ofMembers members

end

def kind? (rules : Rules) (item : Item) : Option Kind :=
  (name? rules item).bind Kind.ofName?

def column? : Item → Option (Option String)
  | .null => some none
  | item => (text? item).map some

def attribute? (rules : Rules) (item : Item) : Option Attribute := do
  match ← fields? rules ["name", "column", "type", "structured"] item with
  | [name, column, kind, structured] =>
    return ⟨← required text? name, ← optional column? none column, ← required (kind? rules) kind,
      ← optional boolean? false structured⟩
  | _ => none

def relation? (rules : Rules) (item : Item) : Option Relation := do
  match ← fields? rules ["name", "target", "collection", "external", "local", "foreign"] item with
  | [name, target, collection, external, localColumn, foreignColumn] =>
    return ⟨← required text? name, ← required text? target, ← optional boolean? false collection,
      ← optional boolean? false external, ← optional text? "" localColumn,
        ← optional text? "" foreignColumn⟩
  | _ => none

def entity? (rules : Rules) (item : Item) : Option Entity := do
  match ← fields? rules ["name", "table", "id", "attributes", "relations"] item with
  | [name, table, identifier, attributes, relations] =>
    return ⟨← required text? name, ← required text? table, ← required text? identifier,
      ← optional (list? (attribute? rules)) [] attributes,
        ← optional (list? (relation? rules)) [] relations⟩
  | _ => none

def entities? (rules : Rules) (item : Item) : Option (List Entity) := do
  match ← fields? rules ["entity"] item with
  | [entities] => optional (list? (entity? rules)) [] entities
  | _ => none

def paging? (rules : Rules) (item : Item) : Option PageSettings := do
  match ← fields? rules ["default_limit", "max_limit"] item with
  | [defaultLimit, maxLimit] =>
    return ⟨← optional natural? PageSettings.default.defaultLimit defaultLimit,
      ← optional natural? PageSettings.default.maxLimit maxLimit⟩
  | _ => none

def caseSensitive? (rules : Rules) (item : Item) : Option Bool := do
  match ← fields? rules ["case_sensitive"] item with
  | [caseSensitive] => optional boolean? Settings.default.caseSensitive caseSensitive
  | _ => none

def settings? (rules : Rules) (item : Item) : Option Settings := do
  match ← fields? rules ["paging", "sort"] item with
  | [paging, sort] =>
    return ⟨← optional (paging? rules) Settings.default.paging paging,
      ← optional (caseSensitive? rules) Settings.default.caseSensitive sort⟩
  | _ => none

/-- What could be read, or the error for a configuration of the wrong form. -/
def orFault {α : Type} (fault : Error) : Option α → Except Error α
  | some a => .ok a
  | none => .error fault

def schemaOfToml (text : String) : Except Error Schema := do
  let entities ← orFault .malformedConfiguration
      ((Toml.Reader.read? text).bind (entities? tomlRules))
  Schema.ofEntities entities

def schemaOfJson (value : Json.Value) : Except Error Schema := do
  let entities ← orFault .malformedData (list? (entity? jsonRules) (ofJson value))
  Schema.ofEntities entities

def settingsOfToml (text : String) : Except Error Settings :=
  orFault .malformedConfiguration ((Toml.Reader.read? text).bind (settings? tomlRules))

def settingsOfJson (value : Json.Value) : Except Error Settings :=
  orFault .malformedData (settings? jsonRules (ofJson value))

end FilterQuery.Configuration.Load
