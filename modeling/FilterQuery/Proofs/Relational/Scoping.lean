import FilterQuery.Proofs.Relational.Shadowing

set_option autoImplicit false
set_option relaxedAutoImplicit false

/-!
What the names in a selection refer to. Within each SELECT a join starts from the table or from a
join before it, and every qualifier is the table's name or the label of a join of the same SELECT.
This holds however the joins were gathered: from the parts of a filter, from sort keys, or from
both.
-/

namespace FilterQuery.Sql

section Anchoring

variable {known : List String} {joins others : List Join}

/-- Adding joins one by one keeps them anchored: where one is left out, its label stands there
already. -/
theorem Anchored.addJoins (anchored : Anchored known joins)
    (further : Anchored ((joins.map (·.label)).reverse ++ known) others) :
    Anchored known (Relational.Path.addJoins joins others) := by
  induction others generalizing joins with
  | nil => exact anchored
  | cons j others ih =>
    obtain ⟨parent, rest⟩ := further
    rw [addJoins_cons]
    by_cases old : j.label ∈ joins.map (·.label)
    · rw [addJoin_of_old old]
      refine ih anchored (rest.mono fun label member => ?_)
      rcases List.mem_cons.1 member with rfl | member
      · exact List.mem_append.2 (.inl (List.mem_reverse.2 old))
      · exact member
    · rw [addJoin_of_new old]
      refine ih (anchored_append.2 ⟨anchored, parent, trivial⟩) ?_
      simpa using rest

end Anchoring

/-- A block whose joins have distinct labels and start from its table or from joins before them, and
whose qualifiers are all names of its rows. -/
structure Block.WellScoped (block : Block) : Prop where
  distinct : (block.joins.map (·.label)).Nodup
  parents : ∀ before j after, block.joins = before ++ j :: after →
    j.parent = block.table ∨ j.parent ∈ before.map (·.label)
  reads : ∀ qualifier ∈ block.qualifiers, qualifier = block.table ∨
    qualifier ∈ block.joins.map (·.label)

/-- A selection of well scoped blocks. Where rows are taken by a key, the key is a column of the
outer block too. -/
structure Select.WellScoped (s : Select) : Prop where
  blocks : ∀ block ∈ s.blocks, block.WellScoped
  key : ∀ table key joins condition, s.restriction = .keyAmong table key joins condition →
    table = s.table ∨ table ∈ s.joins.map (·.label)

end FilterQuery.Sql

namespace FilterQuery.Relational

open FilterQuery.Relational.Path (addJoins)
open FilterQuery.Sql (Anchored Block Columns Condition Join OrderTerm Select)

variable {context : Context} {table : String} {routes others : List Route} {joins : List Join}

private theorem anchored_joins (taken legs : List Leg) :
    Anchored [Leg.rowLabel table taken] (Leg.joins table taken legs) := by
  induction legs generalizing taken with
  | nil => trivial
  | cons leg legs ih =>
    have next := ih (taken ++ [leg])
    refine ⟨List.mem_singleton.2 rfl, next.mono fun label member => ?_⟩
    rw [List.mem_singleton.1 member]
    exact List.mem_cons_self

private theorem anchored_joinsOf (table : String) (routes : List Route) :
    Anchored [table] (joinsOf table routes) := by
  induction routes with
  | nil => trivial
  | cons route routes ih =>
    have first : Anchored [table] (Leg.joins table [] route.legs) := anchored_joins [] route.legs
    refine Sql.anchored_append.2 ⟨first, ih.mono fun label member => ?_⟩
    exact List.mem_append.2 (.inr member)

theorem anchored_addJoins (first : Anchored [table] joins) {more : List Join}
    (second : Anchored [table] more) :
    Anchored [table] (addJoins joins more) :=
  first.addJoins (second.mono fun _ member => List.mem_append.2 (.inr member))

theorem compile_anchored {query : Query} {plan : Plan}
    (compiled : compile context query = .ok plan) :
    Anchored [plan.table] plan.joins ∧ Anchored [plan.table] plan.sortJoins := by
  obtain ⟨forFilter, forSorts⟩ := compile_joins compiled
  obtain ⟨_, same, _⟩ := compile_eq_ok compiled
  rw [forFilter, forSorts, same]
  exact ⟨anchored_addJoins (Sql.anchored_nil _) (anchored_joinsOf _ _),
    anchored_addJoins (Sql.anchored_nil _) (anchored_joinsOf _ _)⟩

theorem toSelect_joins_direct {plan : Plan} (direct : plan.needsSubquery = false) :
    plan.toSelect.joins = addJoins (addJoins [] plan.joins) plan.sortJoins := by
  unfold Plan.toSelect Plan.apply
  rw [direct]
  rfl

private theorem Spans.wellScoped (spans : Spans table routes joins)
    (anchored : Anchored [table] joins) {condition : Option Condition} {orders : List OrderTerm}
    (reads : ∀ qualifier ∈ (columnsIn condition).map (·.1) ++ orders.map (·.expr.source.1),
      ∃ way, Reaches routes way ∧ qualifier = Leg.rowLabel table way) :
    (Block.mk table joins condition orders).WellScoped where
  distinct := spans.distinct
  parents := by
    intro before j after whole
    exact (anchored.parent_mem whole).imp List.mem_singleton.1 id
  reads := fun _ member => List.mem_cons.1 (spans.qualifier_mem reads member)

/-- A plan applied to a selection of some columns of its table. -/
def Plan.applied (plan : Plan) (columns : Columns) : Select :=
  plan.apply plan.table columns

private theorem blocks_applied (plan : Plan) (columns : Columns) :
    (plan.applied columns).blocks = plan.toSelect.blocks := by
  unfold Plan.applied Plan.toSelect Plan.apply Sql.Select.blocks
  cases plan.needsSubquery <;> cases plan.condition <;> rfl

private theorem wellScoped_blocks {query : Query} {plan : Plan}
    (compiled : compile context query = .ok plan) :
    ∀ block ∈ plan.toSelect.blocks, block.table = plan.table ∧ block.WellScoped := by
  obtain ⟨forFilter, forSorts⟩ := compile_spans compiled
  obtain ⟨filterAnchored, sortAnchored⟩ := compile_anchored compiled
  obtain ⟨condition, orders⟩ := reads_of_compile compiled
  have all := query_reads_of_compile compiled
  obtain ⟨_, same, _⟩ := compile_eq_ok compiled
  rw [← same] at forFilter forSorts condition orders all
  cases nested : plan.needsSubquery with
  | false =>
    have both := toSelect_spans compiled nested
    have anchored : Anchored [plan.table] plan.toSelect.joins := by
      rw [toSelect_joins_direct nested]
      exact anchored_addJoins (anchored_addJoins (Sql.anchored_nil _) filterAnchored) sortAnchored
    rw [← same] at both
    rw [blocks_direct nested, List.forall_mem_singleton]
    exact ⟨rfl, both.wellScoped anchored all⟩
  | true =>
    have outer :=
      @Spans.wellScoped _ _ _ forSorts sortAnchored none plan.orders
        (by simpa [columnsIn] using orders)
    have inner :=
      @Spans.wellScoped _ _ _ forFilter filterAnchored plan.condition [] (by simpa using condition)
    rw [blocks_subquery nested, List.forall_mem_cons, List.forall_mem_singleton]
    exact ⟨⟨rfl, outer⟩, rfl, inner⟩

/-- A plan applied to a selection of its table makes one block, or two where its rows are taken by
their keys. Each is over the plan's table and well scoped. -/
theorem applied_wellScoped {query : Query} {plan : Plan}
    (compiled : compile context query = .ok plan) (columns : Columns) :
    (plan.applied columns).WellScoped ∧
      (plan.applied columns).blocks.length = (if plan.needsSubquery then 2 else 1) ∧
        ∀ block ∈ (plan.applied columns).blocks, block.table = plan.table := by
  have each := wellScoped_blocks compiled
  rw [← blocks_applied plan columns] at each
  refine ⟨⟨fun block member => (each block member).2, ?_⟩, ?_,
    fun block member => (each block member).1⟩
  · intro table key joins condition restricted
    unfold Plan.applied Plan.apply at restricted ⊢
    cases nested : plan.needsSubquery with
    | false =>
      rw [nested] at restricted
      cases h : plan.condition <;> simp [h] at restricted
    | true =>
      rw [nested] at restricted
      cases restricted
      exact .inl rfl
  · rw [blocks_applied]
    cases nested : plan.needsSubquery with
    | false => rw [blocks_direct nested]; rfl
    | true => rw [blocks_subquery nested]; rfl

/-- Asks for the title of a sibling, in order of the parents' titles. -/
def sortedSiblings : Query :=
  { meetingAll siblingTests with sorts := ["-parent.title"] }

def sortedSiblingPlan : Plan :=
  { siblingPlan with
    sortJoins := [⟨"nodes", "parent", "nodes", "parent_id", "id", false⟩]
    orders := [⟨.column "parent" "title", true⟩] }

private theorem compile_sortedSiblings :
    compile Tree.context sortedSiblings = .ok sortedSiblingPlan := by
  have parent : Tree.Goes "parent" Tree.toParent := Tree.goes_toParent (by simp [Tree.foldings])
  have child : Tree.Goes "nodes" Tree.toNodes := Tree.goes_toNodes (by simp [Tree.foldings])
  have made : List.Forall₂ (fun test route => routeOf? Tree.context test = some route) siblingTests
      [Tree.toTitle [Tree.toParent, Tree.toNodes]] :=
    .cons (routeOf?_title (by decide +kernel) (.cons parent (.cons child .nil)) (by decide)) .nil
  have located : Tree.context.locate (sortKey "-parent.title").1 =
      .ok (some (Tree.toTitle [Tree.toParent])) :=
    Tree.locate_title (by decide +kernel) (.cons parent .nil)
  have sorted : ["-parent.title"].mapM (compileSortKey Tree.context) =
      .ok [(orderAlong Tree.context "-parent.title" (Tree.toTitle [Tree.toParent]),
        Leg.joins "nodes" [] [Tree.toParent])] :=
    mapM_eq_ok_iff.2 (.cons (compileSortKey_of_route located rfl) .nil)
  exact (compile_meetingAll_by Tree.identified made sorted).trans (by rfl)

/-- The parent is joined twice, once to find the sibling and once to order by. -/
theorem sortedSiblings_wellScoped :
    compile Tree.context sortedSiblings = .ok sortedSiblingPlan ∧
      (sortedSiblingPlan.applied (.named ["title"])).WellScoped ∧
        (sortedSiblingPlan.applied (.named ["title"])).blocks.length = 2 := by
  obtain ⟨wellScoped, length, _⟩ := applied_wellScoped compile_sortedSiblings (.named ["title"])
  exact ⟨compile_sortedSiblings, wellScoped, length⟩

end FilterQuery.Relational
