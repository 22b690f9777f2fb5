import FilterQuery.Error
import FilterQuery.NameIndex

set_option autoImplicit false
set_option relaxedAutoImplicit false

/-!
Schemas: entities with their attributes and relations, and where a database keeps them. Names are
found without regard to letter case.
-/

namespace FilterQuery

open FilterQuery.Scalar (Kind)

/-- A scalar part of an entity. A `structured` one holds a document whose parts are reached by their
keys. -/
structure Attribute where
  name : String
  column : Option String
  kind : Kind
  structured : Bool
  deriving DecidableEq

/-- The column that holds an attribute, which is named like it unless the schema says otherwise. -/
def Attribute.columnName (a : Attribute) : String :=
  a.column.getD a.name

/-- A way from one entity to another, to one or to a collection. Two rows belong together where the
local column of the one equals the foreign column of the other. An external relation leads to what
is kept elsewhere, and is not joined. -/
structure Relation where
  name : String
  target : String
  collection : Bool
  external : Bool
  localColumn : String
  foreignColumn : String
  deriving DecidableEq

/-- A kind of record: its table, the name of its identifying attribute, and its parts. -/
structure Entity where
  name : String
  table : String
  identifier : String
  attributes : List Attribute
  relations : List Relation
  deriving DecidableEq

namespace Entity

def bare (name table identifier : String) : Entity :=
  ⟨name, table, identifier, [], []⟩

def addAttribute (e : Entity) (a : Attribute) : Entity :=
  { e with attributes := e.attributes ++ [a] }

def addRelation (e : Entity) (r : Relation) : Entity :=
  { e with relations := e.relations ++ [r] }

def attribute? (e : Entity) (name : String) : Option Attribute :=
  (NameIndex.ofList Attribute.name e.attributes).get? name

def relation? (e : Entity) (name : String) : Option Relation :=
  (NameIndex.ofList Relation.name e.relations).get? name

def identifier? (e : Entity) : Option Attribute :=
  e.attribute? e.identifier

end Entity

def findEntity? (entities : List Entity) (name : String) : Option Entity :=
  (NameIndex.ofList Entity.name entities).get? name

/-- Checks that no two entities have the same name; `seen` holds the names that came before. -/
def checkDistinct (seen : List String) : List Entity → Except SchemaFault Unit
  | [] => .ok ()
  | e :: entities =>
    if foldName e.name ∈ seen then .error (.duplicateEntity e.name)
    else checkDistinct (foldName e.name :: seen) entities

/-- Checks that a relation has a target and, if it is joined, its columns. -/
def checkRelation (entities : List Entity) (e : Entity) (r : Relation) : Except SchemaFault Unit :=
  if (findEntity? entities r.target).isNone then .error (.unknownTarget e.name r.name r.target)
  else if !r.external && (r.localColumn.isEmpty || r.foreignColumn.isEmpty) then
    .error (.columnsMissing e.name r.name)
  else .ok ()

/-- Checks that an entity has its identifying attribute, and its relations. -/
def checkEntity (entities : List Entity) (e : Entity) : Except SchemaFault Unit :=
  if e.identifier?.isNone then .error (.identifierMissing e.identifier e.name)
  else e.relations.forM (checkRelation entities e)

def checkEntities (entities : List Entity) : Except SchemaFault Unit := do
  checkDistinct [] entities
  entities.forM (checkEntity entities)

/-- Entities that passed the checks. -/
structure Schema where
  entities : List Entity
  checked : checkEntities entities = .ok ()

namespace Schema

def entity? (schema : Schema) (name : String) : Option Entity :=
  findEntity? schema.entities name

theorem entity?_eq (schema : Schema) (name : String) :
    schema.entity? name = (schema.entities.filter fun e =>
      foldName e.name == foldName name).getLast? :=
  NameIndex.get?_ofList Entity.name schema.entities name

theorem mem_of_entity? {schema : Schema} {name : String} {e : Entity}
    (h : schema.entity? name = some e) :
    e ∈ schema.entities := by
  rw [entity?_eq] at h
  exact (List.mem_filter.1 (List.mem_of_getLast? h)).1

theorem foldName_of_entity? {schema : Schema} {name : String} {e : Entity}
    (h : schema.entity? name = some e) :
    foldName e.name = foldName name := by
  rw [entity?_eq] at h
  simpa using (List.mem_filter.1 (List.mem_of_getLast? h)).2

end Schema

end FilterQuery
