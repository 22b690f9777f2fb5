import FilterQuery.Json.Reader
import FilterQuery.Json.Writer
import FilterQuery.Registry

set_option autoImplicit false
set_option relaxedAutoImplicit false

/-!
Dotted paths as ways into JSON records. A record holds an attribute under its name, a related record
under the name of the relation, and a collection as a list. A path has at least one value in every
record; a missing part is null.
-/

namespace FilterQuery.Memory.Path

open FilterQuery.Scalar (Kind)
open FilterQuery.Text.Split (segments)

/-- One step into a record. -/
inductive Step
  /-- To the related record, or to each record of a collection. -/
  | relation (name : String)
  | field (name : String)
  /-- To the part under a key; where `decode` is set the document may still be held as text. -/
  | key (name : String) (decode : Bool)
  deriving DecidableEq

/-- A path that leads somewhere: its steps, the type of what it leads to, and whether it crosses a
collection. -/
structure Accessor where
  path : String
  steps : List Step
  kind : Kind
  many : Bool

def keySteps (path : String) : Bool → List String → Except Error (List Step)
  | _, [] => .ok []
  | first, key :: keys =>
    if key.isEmpty then .error (.emptyKey path)
    else (keySteps path false keys).map (.key key first :: ·)

/-- Follows the segments of a path from an entity after the steps taken. An attribute ends the way,
unless it is structured and keys follow; where only relations are named, the way ends at the
identifier. `none` where a segment names nothing. -/
def walk (schema : Schema) (registry : Registry) (path : String) :
    Entity → List Step → Bool → List String → Except Error (Option Accessor)
  | e, steps, many, [] =>
    .ok (e.identifier?.map fun id => ⟨path, steps ++ [.field id.name], id.kind, many⟩)
  | e, steps, many, segment :: rest =>
    match e.attribute? segment with
    | some a =>
      if rest.isEmpty then .ok (some ⟨path, steps ++ [.field a.name], a.kind, many⟩)
      else if !a.structured then .ok none
      else do
        let keys ← keySteps path true rest
        return some ⟨path, steps ++ .field a.name :: keys, .text, many⟩
    | none =>
      match registry.relation? e.name segment with
      | none => .ok none
      | some target =>
        match schema.entity? target.target with
        | none => .ok none
        | some next =>
          walk schema registry path next (steps ++ [.relation target.name])
            (many || target.collection) rest

def resolve (schema : Schema) (registry : Registry) (root : Entity) (path : String) :
    Except Error (Option Accessor) :=
  walk schema registry path root [] false (segments '.' path)

def present (v : Json.Value) : Option Json.Value :=
  if v.isNull then none else some v

/-- The part of a value under a name; a value that is no object has none. -/
def partOf (v : Json.Value) (name : String) : Option Json.Value :=
  (v.member? name).bind present

def decoded (path : String) : Json.Value → Except Error Json.Value
  | .text s =>
    match Json.Reader.read s with
    | some v => .ok v
    | none => .error (.undecodable path)
  | v => .ok v

/-- Where a step leads from a value. An empty collection leads to null. -/
def Step.follow (path : String) (v : Json.Value) : Step → Except Error (List (Option Json.Value))
  | .relation name =>
    match partOf v name with
    | some (.list []) => .ok [none]
    | some (.list items) => .ok (items.map present)
    | found => .ok [found]
  | .field name => .ok [partOf v name]
  | .key name decode => do
    let document ← if decode then decoded path v else pure v
    return [partOf document name]

/-- Where a step leads from all values reached so far; null stays null. -/
def advance (path : String) (reached : List (Option Json.Value)) (step : Step) :
    Except Error (List (Option Json.Value)) := do
  let next ← reached.mapM fun
    | none => pure [none]
    | some v => step.follow path v
  return next.flatten

def Accessor.values (a : Accessor) (record : Json.Value) :
    Except Error (List (Option Json.Value)) :=
  a.steps.foldlM (advance a.path) [some record]

/-- The text of a value: a text as it is, anything else as JSON. -/
def textOf : Json.Value → String
  | .text s => s
  | v => Json.Writer.compact v

end FilterQuery.Memory.Path
