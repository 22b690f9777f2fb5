import FilterQuery.Proofs.Compilation.Selection
import FilterQuery.Proofs.Relational.Scoping
import FilterQuery.Proofs.Sql.Answer

set_option autoImplicit false
set_option relaxedAutoImplicit false

/-!
The rows that a plan's selection answers with. Joins of collections multiply rows, so where the
filter needs such joins, its rows are asked for by their keys in a subquery, and only sort keys are
joined outside. Either way a row of the root is in the answer at most once, and it is there exactly
if the plan selects it.
-/

namespace FilterQuery.Relational

open FilterQuery.Relational.Path (addJoins)
open FilterQuery.Sql (Anchored Database Engine Identifies Join Row Scope SingleValued meets scopes
    scopesWhere)

variable {context : Context} {query : Query} {plan : Plan} {engine : Engine} {db : Database}

private theorem selects_iff (plan : Plan) (row : Row) :
    plan.Selects engine db row ↔
      ∃ s ∈ scopes db plan.joins (Scope.root plan.table row),
        meets engine plan.condition s = true := by
  unfold Plan.Selects
  cases plan.condition with
  | none =>
    obtain ⟨s, inside⟩ :=
      List.exists_mem_of_ne_nil _ (Sql.scopes_ne_nil db plan.joins (Scope.root plan.table row))
    exact ⟨fun _ => ⟨s, inside, rfl⟩, fun _ => trivial⟩
  | some c => simp only [meets, beq_iff_eq]

private theorem meets_congr (compiled : compile context query = .ok plan) {s other : Scope}
    (same : ∀ label, label = plan.table ∨ label ∈ plan.joins.map (·.label) →
      s label = other label) :
    meets engine plan.condition s = meets engine plan.condition other := by
  obtain ⟨forFilter, _⟩ := compile_spans compiled
  obtain ⟨reads, _⟩ := reads_of_compile compiled
  obtain ⟨_, table, _⟩ := compile_eq_ok compiled
  cases asked : plan.condition with
  | none => rfl
  | some c =>
    have equal : c.eval engine s = c.eval engine other := by
      refine Sql.Condition.eval_congr c fun column member => same _ ?_
      rw [asked] at reads
      obtain ⟨way, reached, label⟩ := reads column.1 (List.mem_map.2 ⟨column, member, rfl⟩)
      rw [label, table]
      exact List.mem_cons.1 (forFilter.label_mem reached)
    rw [meets, meets, equal]

/-- Over single-valued joins that are no collections, each row of the table has one scope. -/
theorem single_scope {joins : List Join} (anchored : Anchored [plan.table] joins)
    (single : SingleValued db plan.table (plan.joins ++ plan.sortJoins))
    (among : ∀ j ∈ joins, j ∈ plan.joins ++ plan.sortJoins ∧ j.collection = false) :
    ∀ row ∈ db plan.table, ∃ only, scopes db joins (Scope.root plan.table row) = [only] := by
  intro row stored
  refine Sql.scopes_eq_singleton single anchored among fun label known => .inr (.inl ?_)
  obtain rfl := List.mem_singleton.1 known
  exact ⟨rfl, by rwa [Scope.root_table]⟩

section Direct

variable (direct : plan.needsSubquery = false)
include direct

private theorem rows_direct : plan.toSelect.rows engine db =
    ((scopesWhere db plan.table plan.toSelect.joins (meets engine plan.condition)).map
      (· plan.table) : List Row) := by
  unfold Sql.Select.rows Plan.toSelect Plan.apply
  rw [direct]
  cases plan.condition <;> rfl

private theorem joins_direct (compiled : compile context query = .ok plan) :
    plan.toSelect.joins = addJoins plan.joins plan.sortJoins := by
  obtain ⟨forFilter, _⟩ := compile_spans compiled
  have all : addJoins [] plan.joins = plan.joins := addJoins_of_new forFilter.distinct
  rw [toSelect_joins_direct direct, all]

private theorem rows_direct_spec (compiled : compile context query = .ok plan)
    (apart : ∀ j ∈ plan.joins ++ plan.sortJoins, j.label ≠ plan.table)
    (stored : (db plan.table).Nodup)
    (single : SingleValued db plan.table (plan.joins ++ plan.sortJoins)) :
    (plan.toSelect.rows engine db).Nodup ∧
      ∀ row, row ∈ plan.toSelect.rows engine db ↔
        row ∈ db plan.table ∧ plan.Selects engine db row := by
  obtain ⟨filterAnchored, sortAnchored⟩ := compile_anchored compiled
  have distinct := (toSelect_spans compiled direct).distinct
  have anchored := anchored_addJoins filterAnchored sortAnchored
  rw [rows_direct direct]
  rw [joins_direct direct compiled] at distinct ⊢
  have toOne : ∀ j ∈ plan.joins, j.collection = false := by
    intro j member
    simpa using List.any_eq_false.1 direct j member
  have among : ∀ j ∈ addJoins plan.joins plan.sortJoins,
      j ∈ plan.joins ++ plan.sortJoins ∧ j.collection = false := by
    intro j member
    rcases mem_of_addJoins member with inside | inside
    · exact ⟨List.mem_append.2 (.inl inside), toOne j inside⟩
    · exact ⟨List.mem_append.2 (.inr inside), sortJoins_toOne compiled j inside⟩
  have clear : plan.table ∉ (addJoins plan.joins plan.sortJoins).map (·.label) := by
    intro shadowed
    obtain ⟨j, member, same⟩ := List.mem_map.1 shadowed
    exact apart j (among j member).1 same
  constructor
  · refine Multiset.coe_nodup.2 (List.Nodup.sublist ?_ stored)
    exact Sql.map_scopesWhere_sublist clear (single_scope anchored single among)
  · intro row
    rw [Multiset.mem_coe, Sql.mem_map_scopesWhere clear, selects_iff]
    refine and_congr_right fun _ => ?_
    obtain ⟨more, whole⟩ := prefix_addJoins plan.joins plan.sortJoins
    rw [← whole] at distinct clear ⊢
    refine Sql.exists_scopes_append fun before after kept => ?_
    -- the condition reads the table and the joins of the filter, and the joins after these write
    -- other labels
    rw [meets_congr compiled fun label known => kept label ?_]
    intro written
    rcases known with rfl | inside
    · exact clear (by rw [List.map_append, List.mem_append]; exact .inr written)
    · rw [List.map_append, List.nodup_append] at distinct
      exact distinct.2.2 label inside label written rfl

end Direct

section Nested

variable (nested : plan.needsSubquery = true)
include nested

private theorem rows_nested : plan.toSelect.rows engine db =
    ((scopesWhere db plan.table plan.sortJoins fun s =>
      (scopesWhere db plan.table plan.joins (meets engine plan.condition)).any fun inner =>
        Sql.keysMeet (s plan.table plan.key) (inner plan.table plan.key)).map (· plan.table) :
          List Row) := by
  unfold Sql.Select.rows Plan.toSelect Plan.apply
  rw [nested]
  rfl

/-- Where a join is a collection, a row's key is among the keys in the subquery exactly if the plan
selects the row. -/
theorem rows_nested_spec (compiled : compile context query = .ok plan)
    (apart : ∀ j ∈ plan.joins ++ plan.sortJoins, j.label ≠ plan.table)
    (identified : Identifies plan.key (db plan.table))
    (single : SingleValued db plan.table (plan.joins ++ plan.sortJoins)) :
    (plan.toSelect.rows engine db).Nodup ∧
      ∀ row, row ∈ plan.toSelect.rows engine db ↔
        row ∈ db plan.table ∧ plan.Selects engine db row := by
  obtain ⟨_, sortAnchored⟩ := compile_anchored compiled
  have outer : plan.table ∉ plan.sortJoins.map (·.label) := by
    intro shadowed
    obtain ⟨j, member, same⟩ := List.mem_map.1 shadowed
    exact apart j (List.mem_append.2 (.inr member)) same
  have inner : plan.table ∉ plan.joins.map (·.label) := by
    intro shadowed
    obtain ⟨j, member, same⟩ := List.mem_map.1 shadowed
    exact apart j (List.mem_append.2 (.inl member)) same
  rw [rows_nested nested]
  constructor
  · refine Multiset.coe_nodup.2 (List.Nodup.sublist ?_ identified.nodup)
    refine Sql.map_scopesWhere_sublist outer (single_scope sortAnchored single fun j member => ?_)
    exact ⟨List.mem_append.2 (.inr member), sortJoins_toOne compiled j member⟩
  · intro row
    rw [Multiset.mem_coe, Sql.mem_map_scopesWhere outer]
    refine and_congr_right fun stored => ?_
    have own : ∀ s ∈ scopes db plan.sortJoins (Scope.root plan.table row), s plan.table = row := by
      intro s inside
      rw [Sql.scope_of_mem_scopes inside outer, Scope.root_table]
    have listed :=
      @Sql.mem_map_scopesWhere db plan.table plan.joins (meets engine plan.condition) row inner
    have selected : row ∈ (scopesWhere db plan.table plan.joins (meets engine plan.condition)).map
        (· plan.table) ↔
        plan.Selects engine db row := by
      rw [listed, selects_iff]
      exact and_iff_right stored
    rw [← selected, List.mem_map]
    constructor
    · rintro ⟨s, inside, among⟩
      obtain ⟨found, member, meet⟩ := List.any_eq_true.1 among
      have other : found plan.table ∈ db plan.table :=
        (Sql.mem_map_scopesWhere inner).1 (List.mem_map.2 ⟨found, member, rfl⟩) |>.1
      rw [own s inside, identified.meet_iff stored other] at meet
      exact ⟨found, member, meet.symm⟩
    · rintro ⟨found, member, same⟩
      obtain ⟨s, inside⟩ :=
        List.exists_mem_of_ne_nil _ (Sql.scopes_ne_nil db plan.sortJoins
          (Scope.root plan.table row))
      refine ⟨s, inside, List.any_eq_true.2 ⟨found, member, ?_⟩⟩
      rw [own s inside, same]
      exact identified.present row stored

end Nested

/-- The selection of a plan answers with each row of its table at most once, and with exactly the
rows that the plan selects, if no label is the table's name, the key identifies the rows, and each
join that is no collection matches at most one row. -/
theorem toSelect_rows (compiled : compile context query = .ok plan)
    (apart : ∀ j ∈ plan.joins ++ plan.sortJoins, j.label ≠ plan.table) (engine : Engine)
    (db : Database) (identified : Identifies plan.key (db plan.table))
    (single : SingleValued db plan.table (plan.joins ++ plan.sortJoins)) :
    (plan.toSelect.rows engine db).Nodup ∧
      ∀ row, row ∈ plan.toSelect.rows engine db ↔
        row ∈ db plan.table ∧ plan.Selects engine db row := by
  cases nested : plan.needsSubquery with
  | false => exact rows_direct_spec nested compiled apart identified.nodup single
  | true => exact rows_nested_spec nested compiled apart identified single

/-- Asks for a comment other than a bad one, in order of the authors' names. -/
def remarkQuery : Query :=
  { Query.empty with filter := some (.compare "comments.body" .ne "bad"), sorts := ["author.name"] }

def remarkPlan : Plan where
  table := "articles"
  key := "id"
  condition := some (.notEqual (.column "comments" "body") (.text "bad"))
  joins := [⟨"comments", "comments", "articles", "id", "article_id", true⟩]
  sortJoins := [⟨"people", "author", "articles", "author_id", "id", false⟩]
  orders := [⟨.column "author" "full_name", false⟩]
  includes := []
  page := ⟨0, 20⟩

def draft : Row :=
  Blog.rowOf [("id", .integer 2), ("title", .text "Draft")]

def shelf : Database := fun table =>
  if table = "articles" then [Blog.news, draft] else Blog.database table

private theorem compile_remarkQuery : compile Blog.context remarkQuery = .ok remarkPlan := by
  rfl

private theorem identifies_shelf : Identifies "id" (shelf "articles") where
  present := by
    change ∀ row ∈ [Blog.news, draft], _
    rw [List.forall_mem_cons, List.forall_mem_singleton]
    exact ⟨by rfl, by rfl⟩
  unique := List.pairwise_pair.2 (by rfl)

private theorem singleValued_shelf :
    SingleValued shelf "articles" (remarkPlan.joins ++ remarkPlan.sortJoins) := by
  intro j member toOne row stands
  have author : j = ⟨"people", "author", "articles", "author_id", "id", false⟩ := by
    rcases List.mem_pair.1 member with rfl | rfl
    · cases toOne
    · rfl
  subst author
  rcases stands with ⟨_, stored⟩ | ⟨i, inside, labelled, _⟩
  · rcases List.mem_pair.1 stored with rfl | rfl
    · exact Nat.le_refl 1
    · exact Nat.zero_le 1
  · rcases List.mem_pair.1 inside with rfl | rfl
    · exact absurd labelled (by decide)
    · exact absurd labelled (by decide)

/-- The article has two comments that are not bad and is in the answer once. -/
theorem remark_rows :
    compile Blog.context remarkQuery = .ok remarkPlan ∧
      (scopes shelf remarkPlan.joins (Scope.root "articles" Blog.news)).length = 2 ∧
        (remarkPlan.toSelect.rows Blog.engine shelf).Nodup ∧
          Blog.news ∈ remarkPlan.toSelect.rows Blog.engine shelf ∧
            draft ∉ remarkPlan.toSelect.rows Blog.engine shelf := by
  have apart : ∀ j ∈ remarkPlan.joins ++ remarkPlan.sortJoins, j.label ≠ remarkPlan.table := by
    decide
  obtain ⟨once, among⟩ :=
    toSelect_rows compile_remarkQuery apart Blog.engine shelf identifies_shelf singleValued_shelf
  have remarked : remarkPlan.Selects Blog.engine shelf Blog.news := by
    rw [selects_iff]
    exact List.any_eq_true.1 (by rfl)
  have unremarked : ¬remarkPlan.Selects Blog.engine shelf draft := by
    rw [selects_iff]
    intro selected
    cases List.any_eq_true.2 selected
  refine ⟨compile_remarkQuery, by rfl, once, (among _).2 ⟨List.mem_cons_self, remarked⟩, ?_⟩
  intro answered
  exact unremarked ((among _).1 answered).2

end FilterQuery.Relational
