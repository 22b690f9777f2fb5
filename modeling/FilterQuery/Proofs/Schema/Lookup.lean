import FilterQuery.Proofs.Registry.Construction
import FilterQuery.Schema.Indexed

set_option autoImplicit false
set_option relaxedAutoImplicit false

/-!
What is found by the places of names. The places of an entity stay those of its parts while parts
are added, and a schema enters all places anew, whatever places its entities come with. So a name
always leads to the last definition of that name, and to the one entity of that name.
-/

namespace FilterQuery

namespace IndexedEntity

variable {e : IndexedEntity}

/-- A part that an entity is given. -/
inductive Part where
  | scalar (a : Attribute)
  | way (r : Relation)

namespace Part

def scalar? : Part → Option Attribute
  | .scalar a => some a
  | .way _ => none

def way? : Part → Option Relation
  | .scalar _ => none
  | .way r => some r

end Part

def add (e : IndexedEntity) : Part → IndexedEntity
  | .scalar a => e.addAttribute a
  | .way r => e.addRelation r

/-- An entity that is given its parts one after the other. -/
def grown (name table identifier : String) (parts : List Part) : IndexedEntity :=
  parts.foldl add (bare name table identifier)

/-- Every name leads to the last definition whose name folds alike, and to nothing if there is
none. -/
structure FindsLast (e : IndexedEntity) : Prop where
  attributes : ∀ wanted,
    e.attribute? wanted = (e.attributes.filter fun a => foldName a.name == foldName wanted).getLast?
  relations : ∀ wanted,
    e.relation? wanted = (e.relations.filter fun r => foldName r.name == foldName wanted).getLast?

private theorem InStep.findsLast (inStep : e.InStep) : e.FindsLast := by
  constructor
  · intro wanted
    rw [inStep.attribute?_eq, Entity.attribute?_eq]
  · intro wanted
    rw [inStep.relation?_eq, Entity.relation?_eq]

private theorem inStep_bare (name table identifier : String) :
    (bare name table identifier).InStep :=
  ⟨rfl, rfl⟩

private theorem inStep_add (e : IndexedEntity) (part : Part) : (e.add part).InStep := by
  cases part with
  | scalar a => exact inStep_reindex _
  | way r => exact inStep_reindex _

private theorem toEntity_add (e : IndexedEntity) (part : Part) :
    (e.add part).toEntity =
      { e.toEntity with
        attributes := e.attributes ++ part.scalar?.toList
        relations := e.relations ++ part.way?.toList } := by
  cases part with
  | scalar a =>
    rw [Part.way?, Option.toList_none, List.append_nil]
    rfl
  | way r =>
    rw [Part.scalar?, Option.toList_none, List.append_nil]
    rfl

private theorem inStep_foldl_add (inStep : e.InStep) (parts : List Part) :
    (parts.foldl add e).InStep := by
  induction parts generalizing e with
  | nil => exact inStep
  | cons part parts ih => exact ih (e.inStep_add part)

private theorem toEntity_foldl_add (e : IndexedEntity) (parts : List Part) :
    (parts.foldl add e).toEntity =
      { e.toEntity with
        attributes := e.attributes ++ parts.filterMap Part.scalar?
        relations := e.relations ++ parts.filterMap Part.way? } := by
  induction parts generalizing e with
  | nil =>
    rw [List.foldl_nil, List.filterMap_nil, List.filterMap_nil, List.append_nil, List.append_nil]
  | cons part parts ih =>
    rw [List.foldl_cons, ih, toEntity_add]
    cases part with
    | scalar a => simp [Part.scalar?, Part.way?, List.filterMap_cons]
    | way r => simp [Part.scalar?, Part.way?, List.filterMap_cons]

end IndexedEntity

/-- The lookup of a schema is the one by the places of its entities. -/
theorem Schema.entity?_eq_indexed (schema : Schema) (name : String) :
    schema.entity? name = ((IndexedSchema.made (schema.entities.map .unindexed)).entity? name).map
      (·.toEntity) := by
  have kept : IndexedSchema.definitions (schema.entities.map .unindexed) = schema.entities := by
    unfold IndexedSchema.definitions
    rw [List.map_map]
    exact List.map_id _
  rw [(IndexedSchema.inStep_made _).entity?_eq, IndexedSchema.definitions_made, kept]
  rfl

namespace IndexedSchema

open IndexedEntity (Part)

variable {schema : IndexedSchema} {entities : List IndexedEntity}

private theorem InStep.exists_entity_at (inStep : schema.InStep) {wanted : String} {place : Nat}
    (found : schema.places.get? wanted = some place) : ∃ e, schema.entities[place]? = some e := by
  have together := NameIndex.rel_places (·.name) schema.entities wanted
  rw [← inStep.places, found] at together
  generalize (NameIndex.ofList (·.name) schema.entities).get? wanted = defined at together
  cases together with
  | some stands => exact ⟨_, stands⟩

private theorem nodup_names_of_ofEntities (passed : ofEntities entities = .ok schema) :
    (schema.entities.map fun e => foldName e.name).Nodup := by
  have distinct := Schema.nodup_names ⟨_, checkEntities_definitions passed⟩
  unfold definitions at distinct
  rwa [List.map_map] at distinct

/-- Places never go stale. However an entity grows, a name leads to the last definition of that name
in it; the same holds of every entity in a schema, whatever places it came with, and a name leads to
the one entity of that name. -/
theorem lookup_never_stale :
    (∀ (name table identifier : String) (parts : List Part),
      (IndexedEntity.grown name table identifier parts).toEntity =
          ⟨name, table, identifier, parts.filterMap Part.scalar?, parts.filterMap Part.way?⟩ ∧
        (IndexedEntity.grown name table identifier parts).FindsLast) ∧
    ∀ (entities : List IndexedEntity) (schema : IndexedSchema), ofEntities entities = .ok schema →
      definitions schema.entities = definitions entities ∧
      (∀ e ∈ schema.entities, e.FindsLast) ∧
      (schema.entities.map fun e => foldName e.name).Nodup ∧
      (∀ wanted e, schema.entity? wanted = some e ↔
        e ∈ schema.entities ∧ foldName e.name = foldName wanted) ∧
      ∀ wanted place, schema.places.get? wanted = some place →
        ∃ e, schema.entities[place]? = some e := by
  constructor
  · intro name table identifier parts
    have start := IndexedEntity.inStep_bare name table identifier
    exact ⟨IndexedEntity.toEntity_foldl_add _ parts,
      (IndexedEntity.inStep_foldl_add start parts).findsLast⟩
  · intro entities schema passed
    have distinct := nodup_names_of_ofEntities passed
    obtain ⟨-, rfl⟩ := ofEntities_eq_ok_iff.1 passed
    have inStep := inStep_made entities
    refine ⟨definitions_made entities, fun e member => (inStep.entities e member).findsLast,
      distinct, ?_, ?_⟩
    · intro wanted e
      rw [inStep.entity?_eq_get?]
      exact NameIndex.get?_ofList_eq_some_iff distinct
    · exact fun wanted place found => inStep.exists_entity_at found

/-- Tags whose label is defined twice, as they are read without places, and what they are attached
to. -/
def labelled : List IndexedEntity :=
  [.unindexed ⟨"Tag", "tags", "id",
    [⟨"id", none, .integer, false⟩, ⟨"Label", none, .text, false⟩,
      ⟨"LABEL", some "rank", .integer, false⟩],
    [⟨"items", "ITEM", true, false, "id", "tag_id"⟩]⟩,
   .unindexed ⟨"Item", "items", "id", [⟨"id", none, .integer, false⟩], []⟩]

/-- Without its places a tag has no label; in the schema its label is the last one. -/
theorem label_found_again :
    ofEntities labelled = .ok (made labelled) ∧
      (∀ e ∈ labelled, e.attribute? "label" = none) ∧
      ∃ tag ∈ (made labelled).entities, (made labelled).entity? "tag" = some tag ∧
        tag.attribute? "label" = some ⟨"LABEL", some "rank", .integer, false⟩ := by
  have passed : ofEntities labelled = .ok (made labelled) :=
    ofEntities_eq_ok_iff.2 ⟨by decide +kernel, rfl⟩
  obtain ⟨-, current, -, found, -⟩ := lookup_never_stale.2 labelled (made labelled) passed
  have member : labelled[0].reindex ∈ (made labelled).entities := List.mem_cons_self
  refine ⟨passed, by decide +kernel, _, member, (found "tag" _).2 ⟨member, by decide +kernel⟩, ?_⟩
  rw [(current _ member).attributes]
  decide +kernel

end IndexedSchema

end FilterQuery
