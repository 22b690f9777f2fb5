import FilterQuery.Proofs.Path.Label
import FilterQuery.Proofs.Relational.Columns

set_option autoImplicit false
set_option relaxedAutoImplicit false

/-!
What a label stands for. Joins are told apart by their labels alone, so a way whose label was taken
before gets no join of its own. Nothing is lost by that exactly where ways of one label have one
join, and where names can be read back from labels no two ways have one label.
-/

namespace FilterQuery.Relational

open FilterQuery.Filter (Comparison)
open FilterQuery.Relational.Path (addJoins labelOf)
open FilterQuery.Sql (Join)

/-- Ways that have one label have one join. -/
def Consistent (table : String) (routes : List Route) : Prop :=
  ∀ p a q b, Reaches routes (p ++ [a]) → Reaches routes (q ++ [b]) →
    labelOf (Leg.names (p ++ [a])) = labelOf (Leg.names (q ++ [b])) →
      Leg.join table p a = Leg.join table q b

theorem Consistent.mono {table : String} {routes others : List Route}
    (consistent : Consistent table routes) (fewer : ∀ r ∈ others, r ∈ routes) :
    Consistent table others :=
  fun p a q b hp hq => consistent p a q b (hp.mono fewer) (hq.mono fewer)

/-- Under the label of every way that some routes start with stands the way's own join, and no
other. -/
def Faithful (table : String) (routes : List Route) (joins : List Join) : Prop :=
  ∀ taken leg, Reaches routes (taken ++ [leg]) →
    (joins.filter fun j => j.label == Leg.rowLabel table (taken ++ [leg])) =
      [Leg.join table taken leg]

section Faithfulness

variable {table : String} {routes : List Route} {joins : List Join}

private theorem filter_label {j : Join} (distinct : (joins.map (·.label)).Nodup)
    (member : j ∈ joins) :
    (joins.filter fun i => i.label == j.label) = [j] := by
  induction joins with
  | nil => cases member
  | cons first joins ih =>
    rw [List.map_cons, List.nodup_cons] at distinct
    rcases List.mem_cons.1 member with rfl | member
    · have others : (joins.filter fun i => i.label == j.label) = [] := by
        refine List.filter_eq_nil_iff.2 fun i inside same => distinct.1 ?_
        rw [← beq_iff_eq.1 same]
        exact List.mem_map.2 ⟨i, inside, rfl⟩
      rw [List.filter_cons_of_pos (by simp), others]
    · have apart : first.label ≠ j.label := by
        intro same
        exact distinct.1 (same ▸ List.mem_map.2 ⟨j, member, rfl⟩)
      rw [List.filter_cons_of_neg (by simpa using apart), ih distinct.2 member]

private theorem Spans.faithful_iff (spans : Spans table routes joins) :
    Faithful table routes joins ↔ Consistent table routes := by
  constructor
  · intro faithful p a q b hp hq same
    have first := faithful p a hp
    have second := faithful q b hq
    rw [Leg.rowLabel_append] at first second
    rw [same, second] at first
    exact (List.cons.inj first).1.symm
  · intro consistent taken leg reached
    have own : Leg.join table taken leg ∈ joins := by
      have labelled := spans.covered _ (mem_joinsOf.2 ⟨taken, leg, reached, rfl⟩)
      obtain ⟨i, member, same⟩ := List.mem_map.1 labelled
      obtain ⟨taken', leg', reached', rfl⟩ := mem_joinsOf.1 (spans.within i member)
      have one : Leg.join table taken' leg' = Leg.join table taken leg := by
        refine consistent taken' leg' taken leg reached' reached ?_
        rw [← Leg.rowLabel_append table, ← Leg.rowLabel_append table]
        exact same
      rwa [one] at member
    exact filter_label spans.distinct own

end Faithfulness

variable {context : Context}

/-- Whether the names of the relations on some routes can be read back from labels. -/
def AllSeparable (routes : List Route) : Prop :=
  ∀ route ∈ routes, ∀ leg ∈ route.legs, Separable leg.link.name

private theorem consistent_of_separable (built : context.Built) {query : Query}
    (separable : AllSeparable (queryRoutes context query)) :
    Consistent context.root.table (queryRoutes context query) := by
  intro p a q b hp hq same
  have names : ∀ leg ∈ (p ++ [a]) ++ (q ++ [b]), Separable leg.link.name := by
    intro leg member
    rcases List.mem_append.1 member with member | member
    · obtain ⟨route, inside, start⟩ := hp
      exact separable route inside leg (start.subset member)
    · obtain ⟨route, inside, start⟩ := hq
      exact separable route inside leg (start.subset member)
  have whole : p ++ [a] = q ++ [b] :=
    Way.eq_of_label built.fromSchema built.root_own (way_of_reaches hp) (way_of_reaches hq)
      (by simp) (by simp) names same
  obtain ⟨rfl, last⟩ := List.append_inj' whole rfl
  cases last
  rfl

/-- Of the joins of a plan one is left out only for the same one exactly if ways of one label have
one join, and likewise of the joins of a selection without a subquery. Each column of the condition
and of the order stands under the label of its own way. -/
structure Labelled (context : Context) (query : Query) (plan : Plan) : Prop where
  filter : Faithful plan.table (filterRoutes context query) plan.joins ↔
    Consistent plan.table (filterRoutes context query)
  sorts : Faithful plan.table (sortRoutes context query) plan.sortJoins ↔
    Consistent plan.table (sortRoutes context query)
  merged : plan.needsSubquery = false →
    (Faithful plan.table (queryRoutes context query) plan.toSelect.joins ↔
      Consistent plan.table (queryRoutes context query))
  condition : ∀ column ∈ columnsIn plan.condition, ∃ test ∈ asked context query, ∃ route,
    routeOf? context test = some route ∧ column = endColumn plan.table route
  orders : plan.orders.map (·.expr.source) = (sortRoutes context query).map (endColumn plan.table)

private theorem labelled_of_compile {query : Query} {plan : Plan}
    (compiled : compile context query = .ok plan) :
    Labelled context query plan := by
  obtain ⟨forFilter, forSorts⟩ := compile_spans compiled
  have forBoth := toSelect_spans compiled
  obtain ⟨condition, orders⟩ := compile_columns compiled
  obtain ⟨_, table, _⟩ := compile_eq_ok compiled
  rw [← table] at forFilter forSorts forBoth orders
  refine ⟨forFilter.faithful_iff, forSorts.faithful_iff,
    fun direct => (forBoth direct).faithful_iff, ?_, orders⟩
  intro column member
  rw [condition] at member
  obtain ⟨test, inside, read⟩ := List.mem_flatMap.1 member
  obtain ⟨route, found, own⟩ := mem_columnsOf read
  exact ⟨test, inside, route, found, table ▸ own⟩

/-- Two ways over relations with separable names have different labels. Compiling a filter after the
joins of some routes leaves a join out only for the same one exactly if ways of one label have one
join, and so does compiling a query; that is so where the names of its relations are separable. -/
theorem joins_faithful (built : context.Built) :
    (∀ (a b : String) (p q : Route), context.locate a = .ok (some p) →
      context.locate b = .ok (some q) → p.legs ≠ [] →
      q.legs ≠ [] → p.legs ≠ q.legs → AllSeparable [p, q] →
        labelOf (Leg.names p.legs) ≠ labelOf (Leg.names q.legs)) ∧
      (∀ before filter condition extended,
        compileFilter context filter (addJoins [] (joinsOf context.root.table before)) =
          .ok (condition, extended) →
          (Faithful context.root.table (before ++ keptRoutes context filter) extended ↔
            Consistent context.root.table (before ++ keptRoutes context filter))) ∧
        ∀ query plan, compile context query = .ok plan →
          Labelled context query plan ∧
            (AllSeparable (queryRoutes context query) →
              Consistent plan.table (queryRoutes context query)) := by
  refine ⟨?_, ?_, ?_⟩
  · intro a b p q ha hb started started' differ separable same
    refine differ (Way.eq_of_label built.fromSchema built.root_own (Context.way_of_locate ha)
      (Context.way_of_locate hb)
      started started' ?_ same)
    intro leg member
    rcases List.mem_append.1 member with member | member
    · exact separable p (by simp) leg member
    · exact separable q (by simp) leg member
  · intro before filter condition extended h
    rw [addsJoins filter _ condition extended h]
    have spans := (spans_joinsOf context.root.table before).addRoutes (keptRoutes context filter)
    exact spans.faithful_iff
  · intro query plan compiled
    obtain ⟨_, table, _⟩ := compile_eq_ok compiled
    rw [table]
    exact ⟨labelled_of_compile compiled, consistent_of_separable built⟩

/-- Asks for the title of a node's grandparent, and for that of its template. -/
def templateTests : List Comparison :=
  [⟨"parent.parent.title", .eq, some "A"⟩, ⟨"parent__parent.title", .eq, some "B"⟩]

def templatePlan : Plan :=
  planOfNodes (.group .and [.equal (.column "parent__parent" "title") (.text "A"),
    .equal (.column "parent__parent" "title") (.text "B")])
    [⟨"nodes", "parent", "nodes", "parent_id", "id", false⟩,
      ⟨"nodes", "parent__parent", "parent", "parent_id", "id", false⟩]

/-- The join of the template is left out for that of the grandparent, and its title is read
there. -/
theorem not_faithful_to_template :
    Tree.context.Built ∧ compile Tree.context (meetingAll templateTests) = .ok templatePlan ∧
      ∃ p q, Tree.context.locate "parent.parent.title" = .ok (some p) ∧
        Tree.context.locate "parent__parent.title" = .ok (some q) ∧ p.legs ≠ q.legs ∧
          labelOf (Leg.names p.legs) = labelOf (Leg.names q.legs) ∧
            ∃ j ∈ Leg.joins "nodes" [] q.legs, j.label ∈ templatePlan.joins.map (·.label) ∧
              j ∉ templatePlan.joins := by
  have parent : Tree.Goes "parent" Tree.toParent := Tree.goes_toParent (by simp [Tree.foldings])
  have template : Tree.Goes "parent__parent" Tree.toTemplate :=
    Tree.goes_toTemplate (by simp [Tree.foldings])
  have up : List.Forall₂ Tree.Goes ["parent", "parent"] [Tree.toParent, Tree.toParent] :=
    .cons parent (.cons parent .nil)
  have aside : List.Forall₂ Tree.Goes ["parent__parent"] [Tree.toTemplate] := .cons template .nil
  have made : List.Forall₂ (fun test route => routeOf? Tree.context test = some route) templateTests
      [Tree.toTitle [Tree.toParent, Tree.toParent], Tree.toTitle [Tree.toTemplate]] :=
    .cons (routeOf?_title (by decide +kernel) up (by decide))
      (.cons (routeOf?_title (by decide +kernel) aside (by decide)) .nil)
  have compiled : compile Tree.context (meetingAll templateTests) = .ok templatePlan :=
    (compile_meetingAll Tree.identified made).trans (by rfl)
  refine ⟨Tree.context_built, compiled, _, _, Tree.locate_title (by decide +kernel) up,
    Tree.locate_title (by decide +kernel) aside, by decide +kernel, by decide +kernel, ?_⟩
  exact ⟨⟨"nodes", "parent__parent", "nodes", "template_id", "id",
    false⟩, by decide +kernel, by decide +kernel, by decide +kernel⟩

/-- Asks for the title of a node's grandparent, and for that of a sibling. -/
def familyTests : List Comparison :=
  [⟨"parent.parent.title", .eq, some "A"⟩, ⟨"PARENT.nodes.title", .eq, some "B"⟩]

def familyPlan : Plan :=
  planOfNodes (.group .and [.equal (.column "parent__parent" "title") (.text "A"),
    .equal (.column "parent__nodes" "title") (.text "B")])
    [⟨"nodes", "parent", "nodes", "parent_id", "id", false⟩,
      ⟨"nodes", "parent__parent", "parent", "parent_id", "id", false⟩,
      ⟨"nodes", "parent__nodes", "parent", "id", "parent_id", true⟩]

/-- Over parents and siblings the joins are faithful, and the parent is joined once. -/
theorem joins_faithful_to_family :
    compile Tree.context (meetingAll familyTests) = .ok familyPlan ∧
      Faithful "nodes" (filterRoutes Tree.context (meetingAll familyTests)) familyPlan.joins := by
  have parent : Tree.Goes "parent" Tree.toParent := Tree.goes_toParent (by simp [Tree.foldings])
  have shouted : Tree.Goes "PARENT" Tree.toParent :=
    Tree.goes_toParent (Text.foldName_ascii (by decide))
  have back : Tree.Goes "nodes" Tree.toNodes := Tree.goes_toNodes (by simp [Tree.foldings])
  have made : List.Forall₂ (fun test route => routeOf? Tree.context test = some route) familyTests
      [Tree.toTitle [Tree.toParent, Tree.toParent], Tree.toTitle [Tree.toParent, Tree.toNodes]] :=
    .cons (routeOf?_title (by decide +kernel) (.cons parent (.cons parent .nil)) (by decide))
      (.cons (routeOf?_title (by decide +kernel) (.cons shouted (.cons back .nil)) (by decide))
        .nil)
  have compiled : compile Tree.context (meetingAll familyTests) = .ok familyPlan :=
    (compile_meetingAll Tree.identified made).trans (by rfl)
  have separable : AllSeparable (queryRoutes Tree.context (meetingAll familyTests)) := by
    rw [queryRoutes_meetingAll made]
    unfold AllSeparable
    decide +kernel
  obtain ⟨_, _, queries⟩ := joins_faithful Tree.context_built
  obtain ⟨labelled, consistent⟩ := queries _ familyPlan compiled
  refine ⟨compiled, labelled.filter.2 ?_⟩
  exact (consistent separable).mono fun r member => List.mem_append.2 (.inl member)

end FilterQuery.Relational
