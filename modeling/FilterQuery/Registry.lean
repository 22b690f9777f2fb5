import FilterQuery.Schema
import FilterQuery.Text.Split

set_option autoImplicit false
set_option relaxedAutoImplicit false

/-!
Registries: the entities within reach of one root over relations that are joined, with their parts
by name.
-/

namespace FilterQuery

open FilterQuery.Text.Split (segments)

/-- A relation that is joined: its name and its target's name as the schema spells them. -/
structure RelationTarget where
  name : String
  target : String
  collection : Bool
  deriving DecidableEq

/-- What a registry knows of an entity: its name and its identifier's, the names of its attributes,
its joined relations, and the folded names of the others. -/
structure EntityEntry where
  name : String
  identifier : String
  attributes : NameIndex String
  relations : NameIndex RelationTarget
  externals : List String

/-- The entities within reach of a root, and the folded names of all their external relations. -/
structure Registry where
  root : String
  entities : NameIndex EntityEntry
  externals : List String

namespace Registry

def joined (e : Entity) : List Relation :=
  e.relations.filter (!·.external)

/-- The folded names of the relations of an entity that are not joined. -/
def externalNames (e : Entity) : List String :=
  (e.relations.filter (·.external)).map fun r => foldName r.name

def targetOf (schema : Schema) (r : Relation) : Except Error RelationTarget :=
  match schema.entity? r.target with
  | some target => .ok ⟨r.name, target.name, r.collection⟩
  | none => .error (.unknownEntity r.target)

def entryOf (e : Entity) (targets : List RelationTarget) : EntityEntry where
  name := e.name
  identifier := e.identifier
  attributes := NameIndex.ofList id (e.attributes.map (·.name))
  relations := NameIndex.ofList RelationTarget.name targets
  externals := externalNames e

/-- The number of entities whose folded names are not among the given ones. -/
def unseen (schema : Schema) (seen : List String) : Nat :=
  (schema.entities.filter fun e => foldName e.name ∉ seen).length

theorem filter_unseen_cons (schema : Schema) (name : String) (seen : List String) :
    (schema.entities.filter fun e => foldName e.name ∉ foldName name :: seen) =
      (schema.entities.filter fun e => foldName e.name ∉ seen).filter fun e =>
        foldName e.name != foldName name := by
  rw [List.filter_filter]
  congr 1
  funext e
  by_cases hit : foldName e.name = foldName name <;> simp [hit]

private theorem unseen_lt {schema : Schema} {seen : List String} {name : String} {e : Entity}
    (new : foldName name ∉ seen) (found : schema.entity? name = some e) :
    unseen schema (foldName name :: seen) < unseen schema seen := by
  have same := Schema.foldName_of_entity? found
  unfold unseen
  rw [filter_unseen_cons, List.length_filter_lt_length_iff_exists]
  refine ⟨e, ?_, by simp [same]⟩
  rw [List.mem_filter]
  exact ⟨Schema.mem_of_entity? found, by simpa [same] using new⟩

/-- Enters the entities that are waiting and those within their reach, each once. `seen` holds the
folded names of those that were entered; each step enters an entity that was not, or drops one that
was. -/
def explore (schema : Schema) (entities : NameIndex EntityEntry) (externals seen : List String) :
    List String → Except Error (NameIndex EntityEntry × List String)
  | [] => .ok (entities, externals)
  | name :: waiting =>
    if foldName name ∈ seen then explore schema entities externals seen waiting
    else
      match _found : schema.entity? name with
      | none => .error (.unknownEntity name)
      | some e =>
        match (joined e).mapM (targetOf schema) with
        | .error fault => .error fault
        | .ok targets =>
          let next :=
            (targets.map (·.target)).filter fun target => foldName target ∉ foldName name :: seen
          explore schema (entities.insert name (entryOf e targets)) (externals ++ externalNames e)
            (foldName name :: seen) (waiting ++ next)
  termination_by waiting => (unseen schema seen, waiting.length)
  decreasing_by
    · exact Prod.Lex.right _ (by simp)
    · exact Prod.Lex.left _ _ (unseen_lt ‹_› ‹_›)

def build (schema : Schema) (root : String) : Except Error Registry := do
  match schema.entity? root with
  | none => .error (.unknownEntity root)
  | some e =>
    let (entities, externals) ← explore schema .empty [] [] [e.name]
    return ⟨e.name, entities, externals⟩

def containsEntity (registry : Registry) (entity : String) : Bool :=
  registry.entities.contains entity

def relation? (registry : Registry) (entity name : String) : Option RelationTarget :=
  (registry.entities.get? entity).bind fun entry => entry.relations.get? name

def attribute? (registry : Registry) (entity name : String) : Option String :=
  (registry.entities.get? entity).bind fun entry => entry.attributes.get? name

def identifier? (registry : Registry) (entity : String) : Option String :=
  (registry.entities.get? entity).map (·.identifier)

def entityName? (registry : Registry) (entity : String) : Option String :=
  (registry.entities.get? entity).map (·.name)

/-- Whether any entity within reach has an external relation of a name. -/
def isExternal (registry : Registry) (name : String) : Bool :=
  registry.externals.contains (foldName name)

/-- The longest part of a path, from its start, that follows joined relations; the names as the
schema spells them. -/
def follow (registry : Registry) : String → List String → List String
  | _, [] => []
  | entity, name :: path =>
    match registry.relation? entity name with
    | some r => r.name :: follow registry r.target path
    | none => []

/-- A list of texts in increasing order with one more; none stands there twice. -/
def insertText (text : String) : List String → List String
  | [] => [text]
  | other :: texts =>
    if text < other then text :: other :: texts
    else if text = other then other :: texts
    else other :: insertText text texts

/-- The relations to fetch along with the records of an entity: of every path the part that follows
joined relations, unless it is empty, in increasing order. -/
def followable (registry : Registry) (entity : String) (paths : List String) : List String :=
  let followed :=
    (paths.map fun path => registry.follow entity (segments '.' path)).filter (!·.isEmpty)
  (followed.map fun names => ".".intercalate names).foldl (fun texts text =>
    insertText text texts) []

end Registry

end FilterQuery
