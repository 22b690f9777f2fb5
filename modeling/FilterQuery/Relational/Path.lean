import FilterQuery.Registry
import FilterQuery.Sql

set_option autoImplicit false
set_option relaxedAutoImplicit false

/-!
Dotted paths as columns: each relation on the way is a left join, labelled with the path up to it.
-/

namespace FilterQuery.Relational.Path

open FilterQuery.Scalar (Kind)
open FilterQuery.Sql (Expr Join)
open FilterQuery.Text.Split (segments)

/-- Joins with one more at the end, unless there is one under its label. -/
def addJoin (joins : List Join) (j : Join) : List Join :=
  if joins.any (·.label == j.label) then joins else joins ++ [j]

def addJoins (joins others : List Join) : List Join :=
  others.foldl addJoin joins

def crossesCollection (joins : List Join) : Bool :=
  joins.any (·.collection)

def labelOf (names : List String) : String :=
  "__".intercalate names

/-- What a path leads to: an expression, its storage type, and the joins that the expression
needs. -/
structure Target where
  expr : Expr
  kind : Kind
  joins : List Join

/-- The text under keys of a document, of which none may be empty; `path` is the whole path. -/
def extract (path : String) (document : Expr) : List String → Except Error Expr
  | [] => .ok document
  | [key] => if key.isEmpty then .error (.emptyKey path) else .ok (.documentText document key)
  | key :: keys =>
    if key.isEmpty then .error (.emptyKey path) else extract path (.document document key) keys

/-- Follows the segments of a path from an entity, whose rows are those of `label` after the
relations `names`. An attribute ends the way, unless it is structured and keys follow; where only
relations are named, the way ends at the identifier. `none` where a segment names nothing. -/
def walk (schema : Schema) (registry : Registry) (path : String) :
    Entity → String → List String → List Join → List String → Except Error (Option Target)
  | e, label, _, joins, [] =>
    .ok (e.identifier?.map fun id => ⟨.column label id.columnName, id.kind, joins⟩)
  | e, label, names, joins, segment :: rest =>
    match e.attribute? segment with
    | some a =>
      if rest.isEmpty then .ok (some ⟨.column label a.columnName, a.kind, joins⟩)
      else if a.structured then do
        return some ⟨← extract path (.column label a.columnName) rest, .text, joins⟩
      else .ok none
    | none =>
      match registry.relation? e.name segment with
      | none => .ok none
      | some target =>
        match e.relation? segment, schema.entity? target.target with
        | some r, some next =>
          let names := names ++ [target.name]
          let joined := labelOf names
          walk schema registry path next joined names
            (addJoin joins ⟨next.table, joined, label, r.localColumn, r.foreignColumn,
              target.collection⟩) rest
        | _, _ => .ok none

def resolve (schema : Schema) (registry : Registry) (root : Entity) (path : String) :
    Except Error (Option Target) :=
  walk schema registry path root root.table [] [] (segments '.' path)

end FilterQuery.Relational.Path
