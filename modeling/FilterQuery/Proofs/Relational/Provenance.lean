import FilterQuery.Proofs.Relational.Routes

set_option autoImplicit false
set_option relaxedAutoImplicit false

/-!
Where joins come from. A join takes its table and whether it is a collection from the last joined
relation of its name, and its columns from the last relation of that name, joined or not. Both are
one relation unless the last one is external.
-/

namespace FilterQuery.Relational

open FilterQuery.Filter (Comparison)
open FilterQuery.Sql (Join)

/-- A join over relations of one name that an entity has: `joined` is the last one that is not
external, and `last` the last one of all. -/
structure Provenance (schema : Schema) (e : Entity) (joined last : Relation) (j : Join) : Prop where
  entity : e ∈ schema.entities
  internal : joined ∈ e.relations ∧ joined.external = false
  known : Registry.joined? e joined.name = some joined
  defined : e.relation? joined.name = some last
  table : (schema.entity? joined.target).map (·.table) = some j.table
  collection : j.collection = joined.collection
  localColumn : j.localColumn = last.localColumn
  foreignColumn : j.foreignColumn = last.foreignColumn

namespace Provenance

variable {schema : Schema} {e : Entity} {joined last : Relation} {j : Join}

private theorem last_mem (origin : Provenance schema e joined last j) :
    last ∈ e.relations ∧ foldName last.name = foldName joined.name := by
  have found := origin.defined
  rw [Entity.relation?_eq] at found
  obtain ⟨member, same⟩ := List.mem_filter.1 (List.mem_of_getLast? found)
  exact ⟨member, beq_iff_eq.1 same⟩

theorem columns_ne_empty (origin : Provenance schema e joined last j)
    (internal : last.external = false) :
    j.localColumn ≠ "" ∧ j.foreignColumn ≠ "" := by
  obtain ⟨member, _⟩ := origin.last_mem
  rw [origin.localColumn, origin.foreignColumn]
  exact Schema.columns_ne_empty origin.entity member internal

end Provenance

variable {context : Context}

private theorem provenance_of_way (built : context.Built) {taken : List Leg} {leg : Leg}
    (way : Way context.schema context.registry context.root (taken ++ [leg])) (table : String) :
    ∃ joined, Provenance context.schema (Leg.destination context.root taken) joined leg.relation
      (Leg.join table taken leg) ∧
      (leg.relation = joined ↔ leg.relation.external = false) := by
  have before : Way context.schema context.registry context.root taken := way.of_append.1
  have own := before.own_destination built.root_own
  obtain ⟨segment, found⟩ := way.last_found
  obtain ⟨_, r, made⟩ := exists_madeOf built.fromSchema own found
  obtain ⟨member, internal, _⟩ := Registry.mem_of_joined? made.joined
  refine ⟨r, ⟨Schema.mem_of_entity? own, ⟨member, internal⟩, ?_, ?_, ?_, made.collection, rfl, rfl⟩,
    made.relation_eq_iff⟩
  · rw [← made.name, made.joined]
  · rw [← made.name, made.defined]
  · rw [made.target]
    rfl

/-- Each join of a plan takes its table and its collection flag from the last joined relation of its
name, of the entity whose rows it joins to others, and its columns from the last relation of that
name. It comes from one relation exactly if that last one is not external, and has both columns
then. -/
theorem join_provenance (built : context.Built) {query : Query} {plan : Plan}
    (compiled : compile context query = .ok plan) {j : Join}
    (member : j ∈ plan.joins ++ plan.sortJoins) :
    ∃ taken leg joined, Reaches (queryRoutes context query) (taken ++ [leg]) ∧
      j.parent = Leg.rowLabel plan.table taken ∧
        Provenance context.schema (Leg.destination context.root taken) joined leg.relation j ∧
          (leg.relation = joined ↔ leg.relation.external = false) ∧
            (leg.relation.external = false → j.localColumn ≠ "" ∧ j.foreignColumn ≠ "") := by
  obtain ⟨forFilter, forSorts⟩ := compile_spans compiled
  obtain ⟨_, table, _⟩ := compile_eq_ok compiled
  have within : j ∈ joinsOf context.root.table (queryRoutes context query) := by
    unfold queryRoutes
    rw [joinsOf_append, List.mem_append]
    exact (List.mem_append.1 member).imp (forFilter.within j) (forSorts.within j)
  obtain ⟨taken, leg, reached, rfl⟩ := mem_joinsOf.1 within
  obtain ⟨joined, origin, one⟩ :=
    provenance_of_way built (way_of_reaches reached) context.root.table
  refine ⟨taken, leg, joined, reached, ?_, origin, one, origin.columns_ne_empty⟩
  rw [table]
  rfl

def ownerTests : List Comparison :=
  [⟨"owner.title", .eq, some "A"⟩]

def ownerPlan : Plan :=
  planOfNodes (.equal (.column "owner" "title") (.text "A"))
    [⟨"nodes", "owner", "nodes", "", "", false⟩]

/-- The owner is joined over the columns of the external relation, which has none. -/
theorem owner_without_columns :
    Tree.context.Built ∧ compile Tree.context (meetingAll ownerTests) = .ok ownerPlan ∧
      ∃ j ∈ ownerPlan.joins, j.localColumn = "" ∧ j.foreignColumn = "" ∧
        ∀ r ∈ Tree.node.relations, r.external = false → r.localColumn ≠ j.localColumn := by
  have owner : Tree.Goes "owner" Tree.toOwner := Tree.goes_toOwner (by simp [Tree.foldings])
  have made : List.Forall₂ (fun test route => routeOf? Tree.context test = some route) ownerTests
      [Tree.toTitle [Tree.toOwner]] :=
    .cons (routeOf?_title (by decide +kernel) (.cons owner .nil) (by decide)) .nil
  exact ⟨Tree.context_built, (compile_meetingAll Tree.identified made).trans
    (by rfl), by decide +kernel⟩

def parentTests : List Comparison :=
  [⟨"parent.title", .eq, some "A"⟩]

def parentPlan : Plan :=
  planOfNodes (.equal (.column "parent" "title") (.text "A"))
    [⟨"nodes", "parent", "nodes", "parent_id", "id", false⟩]

/-- The parent is joined over the columns of its relation. -/
theorem parent_provenance :
    compile Tree.context (meetingAll parentTests) = .ok parentPlan ∧
      ∀ j ∈ parentPlan.joins, ∃ r, Provenance Tree.schema Tree.node r r j ∧ j.localColumn ≠ "" ∧
        j.foreignColumn ≠ "" := by
  have parent : Tree.Goes "parent" Tree.toParent := Tree.goes_toParent (by simp [Tree.foldings])
  have made : List.Forall₂ (fun test route => routeOf? Tree.context test = some route) parentTests
      [Tree.toTitle [Tree.toParent]] :=
    .cons (routeOf?_title (by decide +kernel) (.cons parent .nil) (by decide)) .nil
  have compiled : compile Tree.context (meetingAll parentTests) = .ok parentPlan :=
    (compile_meetingAll Tree.identified made).trans (by rfl)
  refine ⟨compiled, fun j member => ?_⟩
  obtain ⟨taken, leg, joined, reached, _, origin, one, columns⟩ :=
    join_provenance Tree.context_built compiled (List.mem_append.2 (.inl member))
  have only : taken = [] ∧ leg = Tree.toParent := by
    rw [queryRoutes_meetingAll made] at reached
    have listed := reaches_iff.1 reached
    simpa [ways, Tree.toTitle, List.append_eq_singleton_iff] using listed
  obtain ⟨rfl, rfl⟩ := only
  have same : Tree.toParent.relation = joined := one.2 rfl
  subst same
  exact ⟨_, origin, columns rfl⟩

end FilterQuery.Relational
