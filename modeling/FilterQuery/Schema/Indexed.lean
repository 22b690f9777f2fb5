import FilterQuery.Schema

set_option autoImplicit false
set_option relaxedAutoImplicit false

/-!
Schemas as they are made and looked up in. Beside each list of definitions stand the places of the
names in it, which are entered anew whenever the list grows, and for every entity that becomes part
of a schema.
-/

namespace FilterQuery

/-- The place of each name in a list; of several definitions whose names fold to the same form, that
of the last. -/
def NameIndex.places {α : Type} (name : α → String) (values : List α) : NameIndex Nat :=
  values.zipIdx.foldl (fun index entry => index.insert (name entry.1) entry.2) .empty

/-- An entity with the places of its parts. -/
structure IndexedEntity extends Entity where
  attributePlaces : NameIndex Nat
  relationPlaces : NameIndex Nat

namespace IndexedEntity

def unindexed (e : Entity) : IndexedEntity :=
  ⟨e, .empty, .empty⟩

def reindex (e : IndexedEntity) : IndexedEntity :=
  ⟨e.toEntity, .places Attribute.name e.attributes, .places Relation.name e.relations⟩

def bare (name table identifier : String) : IndexedEntity :=
  unindexed (.bare name table identifier)

def addAttribute (e : IndexedEntity) (a : Attribute) : IndexedEntity :=
  reindex { e with toEntity := e.toEntity.addAttribute a }

def addRelation (e : IndexedEntity) (r : Relation) : IndexedEntity :=
  reindex { e with toEntity := e.toEntity.addRelation r }

def attribute? (e : IndexedEntity) (name : String) : Option Attribute :=
  (e.attributePlaces.get? name).bind fun place => e.attributes[place]?

def relation? (e : IndexedEntity) (name : String) : Option Relation :=
  (e.relationPlaces.get? name).bind fun place => e.relations[place]?

def identifier? (e : IndexedEntity) : Option Attribute :=
  e.attribute? e.identifier

end IndexedEntity

/-- Entities with the places of their names. -/
structure IndexedSchema where
  entities : List IndexedEntity
  places : NameIndex Nat

namespace IndexedSchema

def entity? (schema : IndexedSchema) (name : String) : Option IndexedEntity :=
  (schema.places.get? name).bind fun place => schema.entities[place]?

/-- Enters further entities one after the other, each with its parts at their places. No two may
have the same name. -/
def enter (schema : IndexedSchema) : List IndexedEntity → Except SchemaFault IndexedSchema
  | [] => .ok schema
  | e :: entities =>
    if schema.places.contains e.name then .error (.duplicateEntity e.name)
    else enter ⟨schema.entities ++ [e.reindex],
      schema.places.insert e.name schema.entities.length⟩ entities

/-- Checks that the target of a relation is found and, if the relation is joined, that it has its
columns. -/
def checkRelation (schema : IndexedSchema) (e : IndexedEntity) (r : Relation) :
    Except SchemaFault Unit :=
  if (schema.entity? r.target).isNone then .error (.unknownTarget e.name r.name r.target)
  else if !r.external && (r.localColumn.isEmpty || r.foreignColumn.isEmpty) then
    .error (.columnsMissing e.name r.name)
  else .ok ()

/-- Checks that the identifying attribute of an entity is found, and its relations. -/
def checkEntity (schema : IndexedSchema) (e : IndexedEntity) : Except SchemaFault Unit :=
  if e.identifier?.isNone then .error (.identifierMissing e.identifier e.name)
  else e.relations.forM (schema.checkRelation e)

/-- The schema of some entities, whatever places they come with. -/
def ofEntities (entities : List IndexedEntity) : Except SchemaFault IndexedSchema := do
  let schema ← enter ⟨[], .empty⟩ entities
  schema.entities.forM schema.checkEntity
  return schema

end IndexedSchema

namespace NameIndex

variable {α : Type} (name : α → String) (values : List α)

private theorem places_append_singleton (value : α) :
    places name (values ++ [value]) = (places name values).insert (name value) values.length := by
  unfold places
  rw [List.zipIdx_append, List.foldl_append, Nat.zero_add]
  rfl

/-- Places and definitions that are entered side by side stay together: at the place of a name
stands its definition. -/
theorem rel_foldl {all before rest : List α} (parts : all = before ++ rest) {places : NameIndex Nat}
    {definitions : NameIndex α} (entered : ∀ wanted,
      Option.Rel (fun place value => all[place]? = some value) (places.get? wanted)
        (definitions.get? wanted))
    (wanted : String) :
    Option.Rel (fun place value => all[place]? = some value)
      (((rest.zipIdx before.length).foldl (fun index entry => index.insert (name entry.1) entry.2)
        places).get? wanted)
      ((rest.foldl (fun index value => index.insert (name value) value) definitions).get?
        wanted) := by
  induction rest generalizing before places definitions with
  | nil => exact entered wanted
  | cons value rest ih =>
    have grown : before.length + 1 = (before ++ [value]).length := by
      rw [List.length_append, List.length_singleton]
    rw [List.zipIdx_cons, List.foldl_cons, List.foldl_cons, grown]
    refine ih (by rw [parts, List.append_assoc, List.singleton_append]) fun other => ?_
    rw [get?_insert, get?_insert]
    split
    · exact .some (by rw [parts, List.getElem?_append_right (Nat.le_refl _), Nat.sub_self,
        List.getElem?_cons_zero])
    · exact entered other

theorem rel_places (wanted : String) :
    Option.Rel (fun place value => values[place]? = some value) ((places name values).get? wanted)
      ((ofList name values).get? wanted) := by
  have nothing : values = [] ++ values := rfl
  exact rel_foldl name nothing (fun _ => .none) wanted

private theorem get?_places (wanted : String) :
    ((places name values).get? wanted).bind (fun place => values[place]?) =
      (ofList name values).get? wanted := by
  have together := rel_places name values wanted
  generalize (places name values).get? wanted = place at together ⊢
  generalize (ofList name values).get? wanted = found at together ⊢
  cases together with
  | none => rfl
  | some stands => exact stands

private theorem contains_insert (index : NameIndex α) (added other : String) (value : α) :
    (index.insert added value).contains other = true ↔ foldName other = foldName added ∨
      index.contains other = true := by
  unfold contains
  rw [get?_insert]
  by_cases same : foldName other = foldName added <;> simp [same]

end NameIndex

/-- An entity whose places are those of its parts. -/
structure IndexedEntity.InStep (e : IndexedEntity) : Prop where
  attributes : e.attributePlaces = .places Attribute.name e.attributes
  relations : e.relationPlaces = .places Relation.name e.relations

/-- A schema whose places, and those of each of its entities, are those of its definitions. -/
structure IndexedSchema.InStep (schema : IndexedSchema) : Prop where
  places : schema.places = .places (·.name) schema.entities
  entities : ∀ e ∈ schema.entities, e.InStep

namespace IndexedEntity

variable {e : IndexedEntity}

theorem inStep_reindex (e : IndexedEntity) : e.reindex.InStep :=
  ⟨rfl, rfl⟩

theorem InStep.attribute?_eq (inStep : e.InStep) (name : String) :
    e.attribute? name = e.toEntity.attribute? name := by
  unfold attribute?
  rw [inStep.attributes, NameIndex.get?_places]
  rfl

theorem InStep.relation?_eq (inStep : e.InStep) (name : String) :
    e.relation? name = e.toEntity.relation? name := by
  unfold relation?
  rw [inStep.relations, NameIndex.get?_places]
  rfl

end IndexedEntity

namespace IndexedSchema

variable {schema : IndexedSchema}

def definitions (entities : List IndexedEntity) : List Entity :=
  entities.map (·.toEntity)

theorem InStep.entity?_eq_get? (inStep : schema.InStep) (name : String) :
    schema.entity? name = (NameIndex.ofList (·.name) schema.entities).get? name := by
  unfold entity?
  rw [inStep.places, NameIndex.get?_places]

theorem InStep.entity?_eq (inStep : schema.InStep) (name : String) :
    (schema.entity? name).map (·.toEntity) = findEntity? (definitions schema.entities) name := by
  unfold findEntity? definitions
  rw [inStep.entity?_eq_get?, NameIndex.get?_ofList, NameIndex.get?_ofList, List.filter_map,
    List.getLast?_map]
  rfl

private theorem InStep.checkEntity_eq (inStep : schema.InStep) {e : IndexedEntity}
    (member : e ∈ schema.entities) :
    schema.checkEntity e = FilterQuery.checkEntity (definitions schema.entities) e.toEntity := by
  have known : ∀ name, (schema.entity? name).isNone =
      (findEntity? (definitions schema.entities) name).isNone := by
    intro name
    rw [← inStep.entity?_eq, Option.isNone_map]
  have relations : schema.checkRelation e = FilterQuery.checkRelation (definitions schema.entities)
      e.toEntity := by
    funext r
    unfold checkRelation FilterQuery.checkRelation
    rw [known]
  unfold checkEntity FilterQuery.checkEntity IndexedEntity.identifier? Entity.identifier?
  rw [(inStep.entities e member).attribute?_eq, relations]

private theorem InStep.forM_checkEntity_eq (inStep : schema.InStep) {entities : List IndexedEntity}
    (members : ∀ e ∈ entities, e ∈ schema.entities) :
    entities.forM schema.checkEntity =
      (definitions entities).forM (FilterQuery.checkEntity (definitions schema.entities)) := by
  induction entities with
  | nil => rfl
  | cons e entities ih =>
    have first := inStep.checkEntity_eq (members e List.mem_cons_self)
    have others := ih fun other member => members other (List.mem_cons_of_mem e member)
    change (schema.checkEntity e).bind (fun _ => entities.forM schema.checkEntity) =
      (FilterQuery.checkEntity _ e.toEntity).bind fun _ => (definitions entities).forM _
    rw [first, others]

/-- Entering goes on as long as the names are distinct, and keeps the places in step with the
entities. -/
theorem enter_eq {seen : List String} (places : schema.places = .places (·.name) schema.entities)
    (known : ∀ name, schema.places.contains name = true ↔ foldName name ∈ seen)
    (entities : List IndexedEntity) :
    enter schema entities = (checkDistinct seen (definitions entities)).map fun _ =>
      ⟨schema.entities ++ entities.map (·.reindex),
        .places (·.name) (schema.entities ++ entities.map (·.reindex))⟩ := by
  induction entities generalizing schema seen with
  | nil =>
    rw [List.map_nil, List.append_nil, ← places]
    rfl
  | cons e entities ih =>
    have shown : definitions (e :: entities) = e.toEntity :: definitions entities := rfl
    rw [enter, shown, checkDistinct]
    by_cases old : foldName e.name ∈ seen
    · rw [if_pos ((known e.name).2 old), if_pos old]
      rfl
    · rw [if_neg fun found => old ((known e.name).1 found), if_neg old]
      have grown : schema.entities ++ (e :: entities).map (·.reindex) =
          schema.entities ++ [e.reindex] ++ entities.map (·.reindex) := by
        rw [List.map_cons, List.append_assoc, List.singleton_append]
      rw [grown]
      refine ih ?_ fun name => ?_
      · rw [NameIndex.places_append_singleton, places]
        rfl
      · rw [NameIndex.contains_insert, known, List.mem_cons]

def made (entities : List IndexedEntity) : IndexedSchema :=
  ⟨entities.map (·.reindex), .places (·.name) (entities.map (·.reindex))⟩

theorem inStep_made (entities : List IndexedEntity) : (made entities).InStep := by
  refine ⟨rfl, ?_⟩
  intro e member
  obtain ⟨before, -, rfl⟩ := List.mem_map.1 member
  exact before.inStep_reindex

theorem definitions_made (entities : List IndexedEntity) :
    definitions (made entities).entities = definitions entities := by
  unfold definitions made
  rw [List.map_map]
  rfl

private theorem ofEntities_eq (entities : List IndexedEntity) :
    ofEntities entities = (checkEntities (definitions entities)).map fun _ => made entities := by
  have entered : enter ⟨[], .empty⟩ entities = (checkDistinct [] (definitions entities)).map
      fun _ => made entities :=
    enter_eq rfl (fun name => by simp [NameIndex.contains, NameIndex.get?_empty]) entities
  have checked : (made entities).entities.forM (made entities).checkEntity =
      (definitions entities).forM (FilterQuery.checkEntity (definitions entities)) := by
    rw [← definitions_made entities]
    exact (inStep_made entities).forM_checkEntity_eq fun _ member => member
  unfold ofEntities checkEntities
  rw [entered]
  cases checkDistinct [] (definitions entities) with
  | error fault => rfl
  | ok =>
    change ((made entities).entities.forM (made entities).checkEntity).bind _ = _
    rw [checked]
    cases (definitions entities).forM (FilterQuery.checkEntity (definitions entities)) <;> rfl

theorem ofEntities_eq_ok_iff {entities : List IndexedEntity} :
    ofEntities entities = .ok schema ↔ checkEntities (definitions entities) = .ok () ∧
      schema = made entities := by
  rw [ofEntities_eq]
  cases checkEntities (definitions entities) with
  | error fault => simp [Except.map]
  | ok => simp [Except.map, eq_comm]

theorem checkEntities_definitions {entities : List IndexedEntity}
    (passed : ofEntities entities = .ok schema) :
    checkEntities (definitions schema.entities) = .ok () := by
  obtain ⟨checked, rfl⟩ := ofEntities_eq_ok_iff.1 passed
  rw [definitions_made]
  exact checked

end IndexedSchema

def Schema.ofEntities (entities : List Entity) : Except Error Schema :=
  match passed : IndexedSchema.ofEntities (entities.map .unindexed) with
  | .ok schema =>
    .ok ⟨IndexedSchema.definitions schema.entities, IndexedSchema.checkEntities_definitions passed⟩
  | .error fault => .error (.schema fault)

end FilterQuery
