import FilterQuery.Proofs.Path.Label
import FilterQuery.Proofs.Relational.Columns
import Mathlib.Data.List.Nodup

set_option autoImplicit false
set_option relaxedAutoImplicit false

/-!
The name of the root's table. A selection does not rename its table, and labels are made of the
names of relations, so a label may be the name of the table. A qualifier then stands for two rows.
In all other cases it stands for one.
-/

namespace FilterQuery.Sql

/-- Each qualifier in a block is the name of one of its rows. -/
def Block.Unambiguous (block : Block) : Prop :=
  ∀ qualifier ∈ block.qualifiers, block.names.count qualifier = 1

instance (block : Block) : Decidable block.Unambiguous :=
  inferInstanceAs (Decidable (∀ qualifier ∈ block.qualifiers, block.names.count qualifier = 1))

end FilterQuery.Sql

namespace FilterQuery.Relational

open FilterQuery.Filter (Comparison)
open FilterQuery.Relational.Path (labelOf)
open FilterQuery.Sql (Block Condition Join OrderTerm)

/-- Whether some routes start with a way whose label is the name of the table. -/
def Shadows (table : String) (routes : List Route) : Prop :=
  ∃ taken leg, Reaches routes (taken ++ [leg]) ∧ labelOf (Leg.names (taken ++ [leg])) = table

section Blocks

variable {table : String} {routes others : List Route} {joins : List Join}

private theorem shadows_append :
    Shadows table (routes ++ others) ↔ Shadows table routes ∨ Shadows table others := by
  constructor
  · rintro ⟨taken, leg, ⟨route, member, start⟩, same⟩
    rcases List.mem_append.1 member with member | member
    · exact .inl ⟨taken, leg, ⟨route, member, start⟩, same⟩
    · exact .inr ⟨taken, leg, ⟨route, member, start⟩, same⟩
  · rintro (⟨taken, leg, reached, same⟩ | ⟨taken, leg, reached, same⟩)
    · exact ⟨taken, leg, reached.mono fun r member => List.mem_append.2 (.inl member), same⟩
    · exact ⟨taken, leg, reached.mono fun r member => List.mem_append.2 (.inr member), same⟩

private theorem Spans.table_mem_iff (spans : Spans table routes joins) :
    table ∈ joins.map (·.label) ↔ Shadows table routes := by
  constructor
  · intro labelled
    obtain ⟨j, member, same⟩ := List.mem_map.1 labelled
    obtain ⟨taken, leg, reached, rfl⟩ := mem_joinsOf.1 (spans.within j member)
    exact ⟨taken, leg, reached, (Leg.rowLabel_append table taken leg).symm.trans same⟩
  · rintro ⟨taken, leg, reached, same⟩
    have labelled := spans.covered _ (mem_joinsOf.2 ⟨taken, leg, reached, rfl⟩)
    rwa [Leg.join, Leg.rowLabel_append, same] at labelled

theorem Spans.qualifier_mem (spans : Spans table routes joins) {condition : Option Condition}
    {orders : List OrderTerm}
    (reads : ∀ qualifier ∈ (columnsIn condition).map (·.1) ++ orders.map (·.expr.source.1),
      ∃ way, Reaches routes way ∧ qualifier = Leg.rowLabel table way) {qualifier : String}
    (member : qualifier ∈ (Block.mk table joins condition orders).qualifiers) :
    qualifier ∈ table :: joins.map (·.label) := by
  unfold Block.qualifiers at member
  rw [List.append_assoc, List.mem_append] at member
  rcases member with joined | read
  · rcases List.mem_cons.1 joined with rfl | joined
    · exact List.mem_cons_self
    · obtain ⟨j, inside, ends⟩ := List.mem_flatMap.1 joined
      obtain ⟨taken, leg, reached, rfl⟩ := mem_joinsOf.1 (spans.within j inside)
      have before : Reaches routes taken := reached.of_prefix (List.prefix_append taken [leg])
      rcases List.mem_pair.1 ends with rfl | rfl
      · exact spans.label_mem before
      · exact spans.label_mem reached
  · obtain ⟨way, reached, rfl⟩ := reads qualifier read
    exact spans.label_mem reached

private theorem Spans.unambiguous_iff (spans : Spans table routes joins)
    {condition : Option Condition} {orders : List OrderTerm}
    (reads : ∀ qualifier ∈ (columnsIn condition).map (·.1) ++ orders.map (·.expr.source.1),
      ∃ way, Reaches routes way ∧ qualifier = Leg.rowLabel table way) :
    (Block.mk table joins condition orders).Unambiguous ↔ ¬Shadows table routes := by
  rw [← spans.table_mem_iff]
  constructor
  · intro unambiguous shadowed
    have once := unambiguous table (by simp [Block.qualifiers])
    have twice : 0 < (joins.map (·.label)).count table := List.count_pos_iff.2 shadowed
    simp only [Block.names, List.count_cons_self] at once
    omega
  · intro clear qualifier member
    have distinct : (Block.mk table joins condition orders).names.Nodup :=
      List.nodup_cons.2 ⟨clear, spans.distinct⟩
    exact List.count_eq_one_of_mem distinct (spans.qualifier_mem reads member)

end Blocks

variable {context : Context}

theorem blocks_direct {plan : Plan} (direct : plan.needsSubquery = false) :
    plan.toSelect.blocks = [⟨plan.table, plan.toSelect.joins, plan.condition, plan.orders⟩] := by
  unfold Plan.toSelect Plan.apply Sql.Select.blocks
  rw [direct]
  cases plan.condition <;> rfl

theorem blocks_subquery {plan : Plan} (nested : plan.needsSubquery = true) :
    plan.toSelect.blocks = [⟨plan.table, plan.sortJoins, none, plan.orders⟩,
      ⟨plan.table, plan.joins, plan.condition, []⟩] := by
  unfold Plan.toSelect Plan.apply Sql.Select.blocks
  rw [nested]
  rfl

theorem reads_of_compile {query : Query} {plan : Plan}
    (compiled : compile context query = .ok plan) :
    (∀ qualifier ∈ (columnsIn plan.condition).map (·.1),
      ∃ way, Reaches (filterRoutes context query) way ∧
        qualifier = Leg.rowLabel context.root.table way) ∧
      ∀ qualifier ∈ plan.orders.map (·.expr.source.1),
        ∃ way, Reaches (sortRoutes context query) way ∧
          qualifier = Leg.rowLabel context.root.table way := by
  obtain ⟨condition, orders⟩ := compile_columns compiled
  constructor
  · intro qualifier member
    obtain ⟨column, inside, rfl⟩ := List.mem_map.1 member
    rw [condition] at inside
    obtain ⟨test, htest, read⟩ := List.mem_flatMap.1 inside
    obtain ⟨route, found, rfl⟩ := mem_columnsOf read
    have reached : route ∈ filterRoutes context query := by
      rw [filterRoutes_eq]
      exact List.mem_filterMap.2 ⟨test, htest, found⟩
    exact ⟨route.legs, ⟨route, reached, List.prefix_rfl⟩, rfl⟩
  · intro qualifier member
    have sources : plan.orders.map (·.expr.source.1) =
        (plan.orders.map (·.expr.source)).map (·.1) := by
      rw [List.map_map]
      rfl
    rw [sources, orders, List.map_map] at member
    obtain ⟨route, inside, rfl⟩ := List.mem_map.1 member
    exact ⟨route.legs, ⟨route, inside, List.prefix_rfl⟩, rfl⟩

theorem query_reads_of_compile {query : Query} {plan : Plan}
    (compiled : compile context query = .ok plan) :
    ∀ qualifier ∈ (columnsIn plan.condition).map (·.1) ++ plan.orders.map (·.expr.source.1),
      ∃ way, Reaches (queryRoutes context query) way ∧
        qualifier = Leg.rowLabel context.root.table way := by
  obtain ⟨condition, orders⟩ := reads_of_compile compiled
  intro qualifier member
  rcases List.mem_append.1 member with member | member
  · obtain ⟨way, reached, same⟩ := condition qualifier member
    exact ⟨way, reached.mono fun r inside => List.mem_append.2 (.inl inside), same⟩
  · obtain ⟨way, reached, same⟩ := orders qualifier member
    exact ⟨way, reached.mono fun r inside => List.mem_append.2 (.inr inside), same⟩

private theorem unambiguous_iff {query : Query} {plan : Plan}
    (compiled : compile context query = .ok plan) :
    (∀ block ∈ plan.toSelect.blocks, block.Unambiguous) ↔
      ¬Shadows plan.table (queryRoutes context query) := by
  obtain ⟨forFilter, forSorts⟩ := compile_spans compiled
  obtain ⟨condition, orders⟩ := reads_of_compile compiled
  obtain ⟨_, table, _⟩ := compile_eq_ok compiled
  cases nested : plan.needsSubquery with
  | false =>
    have both := toSelect_spans compiled nested
    rw [blocks_direct nested, List.forall_mem_singleton, table]
    exact both.unambiguous_iff (query_reads_of_compile compiled)
  | true =>
    rw [blocks_subquery nested, List.forall_mem_cons, List.forall_mem_singleton, table]
    have outer :=
      @Spans.unambiguous_iff _ _ _ forSorts none plan.orders (by simpa [columnsIn] using orders)
    have inner :=
      @Spans.unambiguous_iff _ _ _ forFilter plan.condition [] (by simpa using condition)
    rw [outer, inner]
    unfold queryRoutes
    rw [shadows_append]
    tauto

/-- A query can only go a way with the table's name if a relation of the root has it, or if it looks
like a label. -/
theorem of_shadows (built : context.Built) {query : Query} {table : String}
    (shadowed : Shadows table (queryRoutes context query)) :
    (∃ r ∈ context.root.relations, r.external = false ∧ r.name = table) ∨
      ['_', '_'] <:+: table.toList := by
  obtain ⟨taken, leg, reached, rfl⟩ := shadowed
  cases taken with
  | nil =>
    cases way_of_reaches reached with
    | cons first _ =>
      obtain ⟨_, r, made⟩ := exists_madeOf built.fromSchema built.root_own first
      obtain ⟨member, internal, _⟩ := Registry.mem_of_joined? made.joined
      have alone : labelOf (Leg.names ([] ++ [leg])) = leg.link.name := String.intercalate_singleton
      exact .inl ⟨r, member, internal, by rw [alone, made.name]⟩
  | cons first taken =>
    cases taken with
    | nil => exact .inr (separator_of_labelOf _ _ _)
    | cons second taken => exact .inr (separator_of_labelOf _ _ _)

/-- A join has the label of the root's table exactly if a way of the query has that name, and each
qualified column of the selection has one meaning exactly if none has. A relation of the root has
the table's name then, or the table's name looks like a label. -/
theorem table_shadowed_iff (built : context.Built) {query : Query} {plan : Plan}
    (compiled : compile context query = .ok plan) :
    ((∃ j ∈ plan.joins ++ plan.sortJoins, j.label = plan.table) ↔
      Shadows plan.table (queryRoutes context query)) ∧
      ((∀ block ∈ plan.toSelect.blocks, block.Unambiguous) ↔
        ¬Shadows plan.table (queryRoutes context query)) ∧
        (Shadows plan.table (queryRoutes context query) →
          (∃ r ∈ context.root.relations, r.external = false ∧ r.name = plan.table) ∨
            ['_', '_'] <:+: plan.table.toList) := by
  refine ⟨?_, unambiguous_iff compiled, of_shadows built⟩
  obtain ⟨forFilter, forSorts⟩ := compile_spans compiled
  obtain ⟨_, table, _⟩ := compile_eq_ok compiled
  have labelled : (∃ j ∈ plan.joins ++ plan.sortJoins, j.label = plan.table) ↔
      plan.table ∈ plan.joins.map (·.label) ∨ plan.table ∈ plan.sortJoins.map (·.label) := by
    rw [← List.mem_append, ← List.map_append, List.mem_map]
  unfold queryRoutes
  rw [labelled, table, forFilter.table_mem_iff, forSorts.table_mem_iff, shadows_append]

def childTests : List Comparison :=
  [⟨"nodes.title", .eq, some "A"⟩]

def childPlan : Plan :=
  planOfNodes (.equal (.column "nodes" "title") (.text "A"))
    [⟨"nodes", "nodes", "nodes", "id", "parent_id", true⟩]

/-- The children stand under the name of the table, and the title may be that of either. -/
theorem children_shadow_table :
    Tree.context.Built ∧ compile Tree.context (meetingAll childTests) = .ok childPlan ∧
      (∃ j ∈ childPlan.joins, j.label = childPlan.table) ∧
        ¬∀ block ∈ childPlan.toSelect.blocks, block.Unambiguous := by
  have child : Tree.Goes "nodes" Tree.toNodes := Tree.goes_toNodes (by simp [Tree.foldings])
  have made : List.Forall₂ (fun test route => routeOf? Tree.context test = some route) childTests
      [Tree.toTitle [Tree.toNodes]] :=
    .cons (routeOf?_title (by decide +kernel) (.cons child .nil) (by decide)) .nil
  exact ⟨Tree.context_built, (compile_meetingAll Tree.identified made).trans
    (by rfl), by decide +kernel, by decide +kernel⟩

def siblingTests : List Comparison :=
  [⟨"parent.nodes.title", .eq, some "A"⟩]

def siblingPlan : Plan :=
  planOfNodes (.equal (.column "parent__nodes" "title") (.text "A"))
    [⟨"nodes", "parent", "nodes", "parent_id", "id", false⟩,
      ⟨"nodes", "parent__nodes", "parent", "id", "parent_id", true⟩]

/-- Further on, a relation with the name of the table does no harm. -/
theorem siblings_not_shadow_table :
    compile Tree.context (meetingAll siblingTests) = .ok siblingPlan ∧
      ∀ block ∈ siblingPlan.toSelect.blocks, block.Unambiguous := by
  have parent : Tree.Goes "parent" Tree.toParent := Tree.goes_toParent (by simp [Tree.foldings])
  have child : Tree.Goes "nodes" Tree.toNodes := Tree.goes_toNodes (by simp [Tree.foldings])
  have made : List.Forall₂ (fun test route => routeOf? Tree.context test = some route) siblingTests
      [Tree.toTitle [Tree.toParent, Tree.toNodes]] :=
    .cons (routeOf?_title (by decide +kernel) (.cons parent (.cons child .nil)) (by decide)) .nil
  have compiled : compile Tree.context (meetingAll siblingTests) = .ok siblingPlan :=
    (compile_meetingAll Tree.identified made).trans (by rfl)
  obtain ⟨shadowed, unambiguous, _⟩ := table_shadowed_iff Tree.context_built compiled
  have clear : ¬∃ j ∈ siblingPlan.joins ++ siblingPlan.sortJoins, j.label = siblingPlan.table := by
    decide +kernel
  exact ⟨compiled, unambiguous.2 fun shadows => clear (shadowed.2 shadows)⟩

end FilterQuery.Relational
