import FilterQuery.Proofs.Compilation.Selection

set_option autoImplicit false
set_option relaxedAutoImplicit false

/-!
Conjunctions whose comparisons go over one collection together. The join of a way is made once, so
that the selection asks all comparisons of the same joined row; the predicate asks each of any
element of the collection. Both select the same unless each comparison is true of some joined row
and no joined row makes all of them true.
-/

namespace FilterQuery.Compilation

open FilterQuery.Filter (Comparison Formula)
open FilterQuery.Memory (Mirrors patternFault?)
open FilterQuery.Relational
open FilterQuery.Sql (Condition Database Engine Join Row Scope scopes)

variable {context : Context} {engine : Engine} {db : Database} {row : Row} {all : List Route}

private theorem label_of_compileParts (engine : Engine) (aliased : Aliased context.root.table all)
    {tests : List Comparison} :
    (∀ test ∈ tests, ∀ route, routeOf? context test = some route → route ∈ all) →
      ∀ joins conditions extended, Layout context.root.table all joins →
        compileParts context (tests.map .atom) joins = .ok (conditions, extended) →
          ∀ test ∈ tests, ∀ route, routeOf? context test = some route →
            Leg.rowLabel context.root.table route.legs = context.root.table ∨
              Leg.rowLabel context.root.table route.legs ∈ extended.map (·.label) := by
  have atoms : ∀ tests : List Comparison,
      (∀ test ∈ tests, ∀ route, routeOf? context test = some route → route ∈ all) →
        ∀ part ∈ tests.map Formula.atom, LaysOut engine context all part := by
    intro tests inside part member
    obtain ⟨test, htest, rfl⟩ := List.mem_map.1 member
    refine laysOut_atom aliased fun r reached => ?_
    obtain ⟨other, hother, made⟩ := List.mem_filterMap.1 reached
    rw [Formula.tests_atom, List.mem_singleton] at hother
    subst hother
    exact inside _ htest r made
  induction tests with
  | nil => exact fun _ _ _ _ _ _ => nofun
  | cons test tests ih =>
    intro inside joins conditions extended layout h other member route found
    obtain ⟨first, more, rest, hfirst, hrest, rfl⟩ := compileParts_cons_ok h
    obtain ⟨laid, _, _⟩ :=
      atoms (test :: tests) inside (.atom test) (by simp) joins first more layout hfirst
    have others : ∀ test ∈ tests, ∀ route, routeOf? context test = some route → route ∈ all :=
      fun later later_mem => inside later (List.mem_cons_of_mem test later_mem)
    rcases List.mem_cons.1 member with rfl | member
    · obtain ⟨_, grown, _⟩ :=
        compileParts_laysOut (atoms tests others) more rest extended laid hrest
      obtain ⟨_, rfl⟩ := compileFilter_atom_ok hfirst
      have reached : Reaches all route.legs :=
        ⟨route, inside _ (by simp) route found, List.prefix_rfl⟩
      rw [found] at grown
      rcases layout.label_of_addJoins aliased reached with start | added
      · exact .inl start
      · exact .inr ((grown.map _).subset added)
    · exact ih others more rest extended laid hrest other member route found

private theorem tests_conjunction (tests : List Comparison) :
    (Formula.group .and (tests.map .atom)).tests = tests := by
  rw [Formula.tests_group, List.flatMap_map]
  simp

private theorem value_conjunction {truth : Comparison → Bool} (tests : List Comparison) :
    (Formula.group .and (tests.map .atom)).value truth = true ↔
      ∀ test ∈ tests, truth test = true := by
  rw [Formula.value_and, List.all_map, List.all_eq_true]
  exact forall₂_congr fun test _ => by rw [Function.comp_apply, Formula.value_atom]

section Conjunction

variable {tests : List Comparison}

private theorem layout_of_compile (engine : Engine) {query : Query}
    (hfilter : query.filter = some (.group .and (tests.map .atom)))
    (aliased : Aliased context.root.table (routes context (.group .and (tests.map .atom))))
    {plan : Plan} (compiled : compile context query = .ok plan) :
    Layout context.root.table (routes context (.group .and (tests.map .atom))) plan.joins ∧
      ∀ test ∈ tests, ∀ route, routeOf? context test = some route →
        Leg.rowLabel context.root.table route.legs = context.root.table ∨
          Leg.rowLabel context.root.table route.legs ∈ plan.joins.map (·.label) := by
  obtain ⟨found, _, _⟩ := compile_eq_ok compiled
  rw [hfilter] at found
  have whole : LaysOut engine context (routes context (.group .and (tests.map .atom)))
      (.group .and (tests.map .atom)) :=
    laysOut aliased _ fun _ inside => inside
  obtain ⟨layout, _, _⟩ := whole [] plan.condition plan.joins layout_nil found
  obtain ⟨conditions, parts, _⟩ := compileFilter_and_ok found
  refine ⟨layout, ?_⟩
  refine label_of_compileParts engine aliased (fun test member route made => ?_)
    [] conditions plan.joins layout_nil parts
  exact mem_routes (by rwa [tests_conjunction]) made

/-- The joins of a conjunction make a scope in which one of its comparisons is true exactly if the
comparison is true of some row at the end of its route. -/
theorem exists_scope_iff_atom
    (aliased : Aliased context.root.table (routes context (.group .and (tests.map .atom))))
    {joins : List Join}
    (layout : Layout context.root.table (routes context (.group .and (tests.map .atom))) joins)
    (reads : ∀ test ∈ tests, ∀ route, routeOf? context test = some route →
      Leg.rowLabel context.root.table route.legs = context.root.table ∨
        Leg.rowLabel context.root.table route.legs ∈ joins.map (·.label))
    {test : Comparison} (member : test ∈ tests) :
    (∃ scope ∈ scopes db joins (Scope.root context.root.table row),
      holdsIn engine context scope test = true) ↔
      Satisfiable engine context db row (.atom test) := by
  have inside : test ∈ (Formula.group .and (tests.map .atom)).tests := by rwa [tests_conjunction]
  have fewer : ∀ r ∈ routes context (.atom test),
      r ∈ routes context (.group .and (tests.map .atom)) :=
    routes_atom inside
  rw [layout.exists_scope_iff aliased fun scope other same holds => by
    rwa [← holdsIn_congr fun route found => same _ (reads test member route found)]]
  unfold Satisfiable
  constructor
  · rintro ⟨scope, root, follows, holds⟩
    exact ⟨scope, root, follows.mono fewer, by rwa [Formula.value_atom]⟩
  · rintro ⟨scope, root, follows, holds⟩
    obtain ⟨result, wide, root', same⟩ := follows.extend aliased fewer
    refine ⟨result, root'.trans root, wide, ?_⟩
    have kept : (Formula.atom test).value (holdsIn engine context result) = true := by
      rw [value_holdsIn_congr same]
      exact holds
    rwa [Formula.value_atom] at kept

private theorem selects_conjunction {query : Query}
    (hfilter : query.filter = some (.group .and (tests.map .atom)))
    (aliased : Aliased context.root.table (routes context (.group .and (tests.map .atom))))
    {plan : Plan} (compiled : compile context query = .ok plan) :
    plan.Selects engine db row ↔
      ∃ scope ∈ scopes db plan.joins (Scope.root context.root.table row),
        ∀ test ∈ tests, holdsIn engine context scope test = true := by
  obtain ⟨layout, reads⟩ := layout_of_compile engine hfilter aliased compiled
  rw [selects_iff_satisfiable hfilter aliased compiled, layout.exists_scope_iff aliased]
  · refine exists_congr fun scope => and_congr_right fun _ => and_congr_right fun _ => ?_
    exact value_conjunction tests
  · intro scope other same holds test member
    rw [← holds test member]
    exact (holdsIn_congr fun route found => same _ (reads test member route found)).symm

private theorem holdsOf_conjunction {query : Query}
    (hfilter : query.filter = some (.group .and (tests.map .atom)))
    (plain : ∀ test ∈ (Formula.group .and (tests.map .atom)).tests, Plain context test)
    (aliased : Aliased context.root.table (routes context (.group .and (tests.map .atom))))
      {record : Json.Value} (mirrors : ∀ route ∈ routes context (.group .and (tests.map .atom)),
        Mirrors engine context.coerce db route.ending route.legs row record)
    {plan : Plan} (compiled : compile context query = .ok plan) :
    (Formula.group .and (tests.map .atom)).value (holdsOf context record) = true ↔
      ∀ test ∈ tests, ∃ scope ∈ scopes db plan.joins (Scope.root context.root.table row),
        holdsIn engine context scope test = true := by
  obtain ⟨layout, reads⟩ := layout_of_compile engine hfilter aliased compiled
  rw [value_conjunction]
  refine forall₂_congr fun test member => ?_
  rw [exists_scope_iff_atom aliased layout reads member]
  exact holdsOf_iff_of_mem plain aliased mirrors (by rwa [tests_conjunction])

end Conjunction

/-- Of a conjunction of plain comparisons, the predicate asks each of some joined row, and the
selection asks all of the same one. They differ exactly if each comparison is true of some joined
row and no joined row makes all of them true. There is a predicate unless a pattern is refused, and
a plan if the sort keys of the query do not prevent it. -/
theorem conjunction_selects (built : context.Built) (engine : Engine) (db : Database)
    {query : Query} {tests : List Comparison}
    (hfilter : query.filter = some (.group .and (tests.map .atom)))
    (plain : ∀ test ∈ tests, Plain context test)
    (aliased : Aliased context.root.table (routes context (.group .and (tests.map .atom))))
    {row : Row} {record : Json.Value}
      (mirrors : ∀ route ∈ routes context (.group .and (tests.map .atom)),
        Mirrors engine context.coerce db route.ending route.legs row record) :
    ((∃ plan, compile context { query with sorts := [] } = .ok plan) ∧
      ((∃ predicate, Memory.compileFilter context query.filter = .ok predicate) ↔
        ∀ test ∈ tests, patternFault? context test = none)) ∧
      ∀ predicate, Memory.compileFilter context query.filter = .ok predicate →
        ∃ accepted, predicate.test record = .ok accepted ∧
          ∀ plan, compile context query = .ok plan →
            let joined := scopes db plan.joins (Scope.root plan.table row)
            (accepted = true ↔ ∀ test ∈ tests, ∃ scope ∈ joined,
              holdsIn engine context scope test = true) ∧
              (plan.Selects engine db row ↔
                ∃ scope ∈ joined, ∀ test ∈ tests, holdsIn engine context scope test = true) ∧
                (¬(plan.Selects engine db row ↔ accepted = true) ↔
                  (∀ test ∈ tests, ∃ scope ∈ joined, holdsIn engine context scope test = true) ∧
                    ¬∃ scope ∈ joined, ∀ test ∈ tests,
                      holdsIn engine context scope test = true) := by
  have allPlain : ∀ test ∈ (Formula.group .and (tests.map .atom)).tests, Plain context test := by
    rwa [tests_conjunction]
  have compiles := plain_compiles built hfilter allPlain
  rw [tests_conjunction] at compiles
  refine ⟨compiles, fun predicate made => ⟨_, test_eq built hfilter allPlain made record, ?_⟩⟩
  intro plan compiled joined
  obtain ⟨_, table, _⟩ := compile_eq_ok compiled
  have rows : joined = scopes db plan.joins (Scope.root context.root.table row) := by rw [← table]
  have each : (Formula.group .and (tests.map .atom)).value (holdsOf context record) = true ↔
      ∀ test ∈ tests, ∃ scope ∈ joined, holdsIn engine context scope test = true := by
    rw [rows]
    exact holdsOf_conjunction hfilter allPlain aliased mirrors compiled
  have together : plan.Selects engine db row ↔
      ∃ scope ∈ joined, ∀ test ∈ tests, holdsIn engine context scope test = true := by
    rw [rows]
    exact selects_conjunction hfilter aliased compiled
  have weaker : (∃ scope ∈ joined, ∀ test ∈ tests, holdsIn engine context scope test = true) →
      ∀ test ∈ tests, ∃ scope ∈ joined, holdsIn engine context scope test = true := by
    rintro ⟨scope, inside, holds⟩ test member
    exact ⟨scope, inside, holds test member⟩
  refine ⟨each, together, ?_⟩
  rw [each, together]
  constructor
  · intro differs
    by_cases some_row : ∃ scope ∈ joined, ∀ test ∈ tests, holdsIn engine context scope test = true
    · exact absurd ⟨fun _ => weaker some_row, fun _ => some_row⟩ differs
    · refine ⟨?_, some_row⟩
      by_contra missing
      exact differs ⟨fun holds => absurd holds some_row, fun holds => absurd holds missing⟩
  · rintro ⟨apart, no_row⟩ agrees
    exact no_row (agrees.2 apart)

/-- Asks for a comment by its text and by its identifier. -/
def commentTests : List Comparison :=
  [⟨"comments.body", .eq, some "fine"⟩, ⟨"comments.id", .eq, some "2"⟩]

def commentQuery : Query :=
  { Query.empty with filter := some (.group .and (commentTests.map .atom)) }

private theorem routes_commentTests : routes Blog.context (.group .and (commentTests.map .atom)) =
    [⟨[Blog.toComments], ⟨"body", none, .text, false⟩, []⟩,
      ⟨[Blog.toComments], ⟨"id", none, .integer, false⟩, []⟩] := by
  decide +kernel

private theorem mirrors_commentTests :
    ∀ route ∈ routes Blog.context (.group .and (commentTests.map .atom)),
      Mirrors Blog.engine Blog.context.coerce Blog.database route.ending route.legs Blog.news
        Blog.newsRecord := by
  rw [routes_commentTests]
  simp only [List.forall_mem_cons]
  refine ⟨⟨_, _, rfl, .refl _, .cons ⟨⟨_, rfl⟩, ?_⟩ (.cons ⟨⟨_, rfl⟩, ?_⟩ .nil)⟩,
    ⟨_, _, rfl, .refl _, .cons ⟨⟨_, rfl⟩, ?_⟩ (.cons ⟨⟨_, rfl⟩, ?_⟩ .nil)⟩, nofun⟩
  · exact ⟨by rfl, by rfl⟩
  · exact ⟨by rfl, by rfl⟩
  · exact ⟨by rfl, by rfl⟩
  · exact ⟨by rfl, by rfl⟩

def commentPlan : Plan where
  table := "articles"
  key := "id"
  condition := some (.group .and [.equal (.column "comments" "body") (.text "fine"),
    .equal (.column "comments" "id") (.integer 2)])
  joins := [⟨"comments", "comments", "articles", "id", "article_id", true⟩]
  sortJoins := []
  orders := []
  includes := []
  page := ⟨0, 20⟩

private theorem compile_commentQuery : compile Blog.context commentQuery = .ok commentPlan := by
  rfl

private theorem not_selects_commentPlan :
    ¬commentPlan.Selects Blog.engine Blog.database Blog.news := by
  rintro ⟨scope, inside, true_⟩
  have none_true : (scopes Blog.database commentPlan.joins
      (Scope.root commentPlan.table Blog.news)).all
      (fun scope => (Condition.group .and [.equal (.column "comments" "body") (.text "fine"),
        .equal (.column "comments" "id") (.integer 2)]).eval Blog.engine scope != some true) =
          true := by
    rfl
  have differs := List.all_eq_true.1 none_true scope inside
  simp [true_] at differs

private theorem accepts_newsRecord :
    (Memory.compileFilter Blog.context commentQuery.filter).bind (·.test Blog.newsRecord) =
      .ok true := by
  decide +kernel

/-- The predicate accepts the article's record, which mirrors its row, and the plan does not select
the row. -/
theorem not_agrees_on_commentQuery :
    (∀ route ∈ routes Blog.context (.group .and (commentTests.map .atom)),
      Mirrors Blog.engine Blog.context.coerce Blog.database route.ending route.legs Blog.news
        Blog.newsRecord) ∧
      (Memory.compileFilter Blog.context commentQuery.filter).bind (·.test Blog.newsRecord) =
        .ok true ∧
        compile Blog.context commentQuery = .ok commentPlan ∧
          ¬commentPlan.Selects Blog.engine Blog.database Blog.news :=
  ⟨mirrors_commentTests, accepts_newsRecord, compile_commentQuery, not_selects_commentPlan⟩

/-- Each comparison is true of some comment on the article, and no comment makes both true. -/
theorem conjunction_selects_no_comment :
    let joined := scopes Blog.database commentPlan.joins (Scope.root commentPlan.table Blog.news)
    (∀ test ∈ commentTests, ∃ scope ∈ joined, holdsIn Blog.engine Blog.context scope test = true) ∧
      ¬∃ scope ∈ joined, ∀ test ∈ commentTests,
        holdsIn Blog.engine Blog.context scope test = true := by
  have tests : (∀ test ∈ commentTests, Plain Blog.context test) ∧
      ∀ test ∈ commentTests, patternFault? Blog.context test = none := by
    decide +kernel
  obtain ⟨plain, unrefused⟩ := tests
  have aliased : Aliased Blog.context.root.table
      (routes Blog.context (.group .and (commentTests.map .atom))) := by
    rw [routes_commentTests]
    decide +kernel
  have hfilter : commentQuery.filter = some (.group .and (commentTests.map .atom)) := rfl
  obtain ⟨⟨_, exists_predicate⟩, each⟩ :=
    conjunction_selects Blog.context_built Blog.engine Blog.database hfilter plain aliased
      mirrors_commentTests
  obtain ⟨predicate, made⟩ := exists_predicate.2 unrefused
  obtain ⟨accepted, answer, agrees⟩ := each predicate made
  have accepts := accepts_newsRecord
  rw [made] at accepts
  have yes : accepted = true := Except.ok.inj (answer.symm.trans accepts)
  obtain ⟨_, _, differs⟩ := agrees commentPlan compile_commentQuery
  exact differs.1 fun same => not_selects_commentPlan (same.2 yes)

end FilterQuery.Compilation
