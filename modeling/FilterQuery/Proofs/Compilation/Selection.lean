import FilterQuery.Proofs.Compilation.Agreement
import FilterQuery.Proofs.Memory.Pruning
import FilterQuery.Proofs.Memory.Record
import FilterQuery.Proofs.Relational.Choice

set_option autoImplicit false
set_option relaxedAutoImplicit false

/-!
Agreement of both compilers on what is selected. A record mirrors a row along the routes of a
filter. Each comparison asks the values of its route in the record what it asks of the rows at the
end of the route, so the predicate holds if rows can be chosen for each comparison apart. The
selection asks for rows chosen for all comparisons at once. Where the parts of no conjunction go
over one collection together, these come to the same.
-/

namespace FilterQuery.Compilation

open FilterQuery.Filter (Comparison Connective Formula Operator)
open FilterQuery.Memory (Mirrors Node Predicate Stands passes patternFault? testOf valuesAlong)
open FilterQuery.Relational
open FilterQuery.Scalar (Coercion Kind)
open FilterQuery.Sql (Condition Database Engine Expr Row Scope scopes scopes_ne_nil)

variable {context : Context} {engine : Engine} {db : Database} {row : Row} {record : Json.Value}

def isKeyless : Except Error (Option Route) → Bool
  | .ok (some route) => route.keys.isEmpty
  | .ok none => true
  | .error _ => false

/-- A comparison that, if it is made, asks for an attribute as a whole and minds letter case. -/
def Plain (context : Context) (test : Comparison) : Prop :=
  isComparable (comparand test) test.operator = true →
    test.operator ≠ .ilike ∧ isKeyless (context.locate test.path) = true

instance (context : Context) (test : Comparison) : Decidable (Plain context test) :=
  inferInstanceAs (Decidable (_ → _))

theorem Plain.located {test : Comparison} (plain : Plain context test)
    (comparable : isComparable (comparand test) test.operator = true) :
    ∃ found, context.locate test.path = .ok found ∧ ∀ route, found = some route →
      route.keys = [] := by
  have keyless := (plain comparable).2
  cases located : context.locate test.path with
  | error e => rw [located] at keyless; cases keyless
  | ok found =>
    refine ⟨found, rfl, ?_⟩
    rintro route rfl
    rw [located] at keyless
    exact List.isEmpty_iff.1 keyless

private theorem eval_textual {e : Expr} {kind : Kind} {scope : Scope} {c : Scalar.Value}
    (value : e.eval engine scope = some c) :
    ((textual e kind).eval engine scope).map engine.text = some (engine.text c) := by
  unfold textual
  cases kind.isTextual with
  | true => simp [value]
  | false => simp [Expr.eval, value, engine.text_text]

private theorem eval_iff_passes {operator : Operator} {value : Option String} {kind : Kind}
    {scope : Scope} {e : Expr} {v : Option Json.Value} (sensitive : operator ≠ .ilike)
    (stands : Stands engine context.coerce kind (e.eval engine scope) v) :
    (conditionOf context operator value e kind).eval engine scope = some true ↔
      passes context operator value kind v = true := by
  cases stored : e.eval engine scope with
  | none =>
    rw [stored] at stands
    cases v with
    | some v => exact stands.elim
    | none =>
      have text : (textual e kind).eval engine scope = none := by
        unfold textual
        cases kind.isTextual <;> simp [Expr.eval, stored]
      cases value with
      | none =>
        cases operator <;> simp [conditionOf, Condition.eval, stored, passes, testOf,
          Memory.Test.holds]
      | some raw =>
        cases coerced : context.coerce raw kind <;> cases operator <;>
          simp [conditionOf, Condition.eval, Expr.eval, stored, text, coerced, passes, testOf,
            Memory.Test.holds]
  | some c =>
    rw [stored] at stands
    cases v with
    | none => exact stands.elim
    | some v =>
      obtain ⟨sameText, coercedBack⟩ := stands
      have text : ((textual e kind).eval engine scope).map engine.text = some (engine.text c) :=
        eval_textual stored
      cases value with
      | none =>
        cases operator <;> simp [conditionOf, Condition.eval, stored, passes, testOf,
          Memory.Test.holds]
      | some raw =>
        by_cases like : operator = .like
        · subst like
          have matched : (conditionOf context .like (some raw) e kind).eval engine scope =
              (((textual e kind).eval engine scope).map engine.text).map fun t =>
                Sql.likes (pattern raw).toList t.toList := by
            simp [conditionOf, Condition.eval, Function.comp_def]
          rw [matched, text, pattern, String.toList_ofList, Option.map_some,
            Sql.likes_terminated, ← sameText]
          simp [passes, testOf, Memory.Test.holds, Memory.sameChar]
        · cases coerced : context.coerce raw kind <;> cases operator <;>
            simp_all [conditionOf, Condition.eval, passes, testOf, Memory.Test.holds,
              Memory.storedEquals]

/-- Whether a comparison holds of a record: one of the values of its route passes, or it is not
made. -/
def holdsOf (context : Context) (record : Json.Value) (test : Comparison) : Bool :=
  match routeOf? context test with
  | none => true
  | some route =>
    (valuesAlong route.legs route.ending record).any
      (passes context test.operator (comparand test) route.kind)

theorem answer_eq (built : context.Built) {test : Comparison} (plain : Plain context test)
    (record : Json.Value) :
    Memory.answer context record test = .ok (holdsOf context record test) := by
  have resolved := built.memory_resolve test.path
  unfold holdsOf routeOf?
  cases comparable : isComparable (comparand test) test.operator with
  | false =>
    rw [Memory.answer_of_not_decided ((Memory.isDecidedBy_eq _ _).trans comparable)]
    rfl
  | true =>
    have decided := (Memory.isDecidedBy_eq test.operator (comparand test)).trans comparable
    obtain ⟨found, located, keyless⟩ := plain.located comparable
    rw [located] at resolved
    simp only [if_true, located]
    cases found with
    | none => exact Memory.answer_of_unresolved decided resolved
    | some route =>
      rw [Memory.answer_of_resolved decided resolved]
      exact Memory.nodeAsking_holds _ _ (Memory.values_eq (keyless route rfl) test.path record)

/-- A comparison holds of a record that mirrors a row exactly if it is true of some row at the end
of its route. -/
theorem holdsOf_iff_satisfiable {test : Comparison} (plain : Plain context test)
    (aliased : Aliased context.root.table (routes context (.atom test)))
    (mirrors : ∀ route ∈ routes context (.atom test),
      Mirrors engine context.coerce db route.ending route.legs row record) :
    holdsOf context record test = true ↔ Satisfiable engine context db row (.atom test) := by
  unfold Satisfiable holdsOf
  simp only [Formula.value_atom, holdsIn]
  cases made : routeOf? context test with
  | none =>
    refine ⟨fun _ => ⟨Scope.root context.root.table row, Scope.root_table _ row, ?_, rfl⟩,
      fun _ => rfl⟩
    rintro taken leg ⟨route, member, _⟩
    simp [routes, made] at member
  | some route =>
    have alone : routes context (.atom test) = [route] := by simp [routes, made]
    rw [alone] at aliased mirrors ⊢
    have asked : test.operator ≠ .ilike ∧ route.keys = [] := by
      unfold routeOf? at made
      cases comparable : isComparable (comparand test) test.operator with
      | false => simp [comparable] at made
      | true =>
        obtain ⟨found, located, keyless⟩ := plain.located comparable
        simp only [comparable, if_true, located] at made
        exact ⟨(plain comparable).1, keyless route made⟩
    obtain ⟨sensitive, keyless⟩ := asked
    have kind : route.kind = route.ending.kind := by simp [Route.kind, keyless]
    have value : ∀ scope : Scope, (route.expr context.root.table).eval engine scope =
        scope (Leg.rowLabel context.root.table route.legs) route.ending.columnName := by
      intro scope
      simp [Route.expr, keyless, Route.textUnder, Expr.eval]
    have covered := Memory.cover_valuesAlong (mirrors route (by simp))
    have same : ∀ (scope : Scope) (v : Option Json.Value),
        Stands engine context.coerce route.ending.kind
          (scope (Leg.rowLabel context.root.table route.legs) route.ending.columnName) v →
          ((conditionAlong context test route).eval engine scope = some true ↔
            passes context test.operator (comparand test) route.kind v = true) := by
      intro scope v stands
      refine eval_iff_passes sensitive ?_
      rwa [kind, value scope]
    simp only [List.any_eq_true, beq_iff_eq]
    constructor
    · rintro ⟨v, member, passed⟩
      obtain ⟨last, inside, stands⟩ := covered.2 v member
      obtain ⟨scope, root, follows, rfl⟩ := exists_follows aliased inside
      exact ⟨scope, root, follows, (same scope v stands).2 passed⟩
    · rintro ⟨scope, root, follows, true_⟩
      have inside := follows.row_mem aliased
      rw [root] at inside
      obtain ⟨v, member, stands⟩ := covered.1 _ inside
      exact ⟨v, member, (same scope v stands).1 true_⟩

/-- The predicate of a filter of plain comparisons answers of every record, and by what each
comparison answers. -/
theorem compileFormula_holds (built : context.Built) {filter : Formula} {node : Node}
    (made : Memory.compileFormula context filter = .ok node)
    (plain : ∀ test ∈ filter.tests, Plain context test) (record : Json.Value) :
    node.holds context.coerce record = .ok (filter.value (holdsOf context record)) := by
  have answers : ∀ test ∈ filter.tests, Memory.answer context record test =
      .ok (holdsOf context record test) :=
    fun test member => answer_eq built (plain test member) record
  have settles : Memory.Settles (Memory.answer context record) filter
      (node.holds context.coerce record) :=
    Memory.compileFormula_settles made
  cases outcome : node.holds context.coerce record with
  | error e =>
    rw [outcome] at settles
    obtain ⟨test, member, fails⟩ := settles
    cases (answers test member).symm.trans fails
  | ok b =>
    rw [outcome] at settles
    have possible := filter.mayBe_value fun test member known said =>
      Except.ok.inj ((answers test member).symm.trans said)
    rw [(settles _).1 possible]

private theorem selects_iff_admits {plan : Plan} :
    plan.Selects engine db row ↔
      ∃ scope ∈ scopes db plan.joins (Scope.root plan.table row),
        Admits engine scope plan.condition := by
  unfold Plan.Selects Admits
  cases plan.condition with
  | none =>
    obtain ⟨scope, rest, made⟩ :=
      List.exists_cons_of_ne_nil (scopes_ne_nil db plan.joins (Scope.root plan.table row))
    exact ⟨fun _ => ⟨scope, by rw [made]; simp, nofun⟩, fun _ => trivial⟩
  | some c => simp

/-- A plan selects a row exactly if rows can be chosen along all the ways of its filter to make the
filter true. -/
theorem selects_iff_satisfiable {query : Query} {filter : Formula}
    (hfilter : query.filter = some filter)
    (aliased : Aliased context.root.table (routes context filter)) {plan : Plan}
    (compiled : compile context query = .ok plan) :
    plan.Selects engine db row ↔ Satisfiable engine context db row filter := by
  obtain ⟨made, table, _⟩ := compile_eq_ok compiled
  rw [hfilter] at made
  rw [selects_iff_admits, table]
  exact exists_scope_iff aliased made db row

theorem holdsOf_iff_of_mem {filter : Formula} (plain : ∀ test ∈ filter.tests, Plain context test)
    (aliased : Aliased context.root.table (routes context filter))
    (mirrors : ∀ route ∈ routes context filter,
      Mirrors engine context.coerce db route.ending route.legs row record)
    {test : Comparison} (member : test ∈ filter.tests) :
    holdsOf context record test = true ↔ Satisfiable engine context db row (.atom test) := by
  have fewer : ∀ r ∈ routes context (.atom test), r ∈ routes context filter := routes_atom member
  exact holdsOf_iff_satisfiable (plain test member) (fun p q hp hq =>
    aliased p q (hp.mono fewer) (hq.mono fewer))
    fun route inside => mirrors route (fewer route inside)

private theorem value_holdsOf_of_satisfiable {filter : Formula}
    (plain : ∀ test ∈ filter.tests, Plain context test)
    (aliased : Aliased context.root.table (routes context filter))
    (mirrors : ∀ route ∈ routes context filter,
      Mirrors engine context.coerce db route.ending route.legs row record)
        (satisfiable : Satisfiable engine context db row filter) :
          filter.value (holdsOf context record) = true := by
  obtain ⟨scope, root, follows, holds⟩ := satisfiable
  refine filter.value_mono (fun test member true_ => ?_) holds
  rw [holdsOf_iff_of_mem plain aliased mirrors member]
  exact ⟨scope, root, follows.mono (routes_atom member), by rw [Formula.value_atom]; exact true_⟩

private theorem single_of_mirrors {all : List Route}
    (mirrors : ∀ route ∈ all, Mirrors engine context.coerce db route.ending route.legs row record) :
    Single db row all := by
  rintro way ⟨route, member, start⟩ toOne
  exact Memory.rowsAlong_of_mirrors start toOne (mirrors route member)

private theorem restrictionOf_of_plain {filter : Formula}
    (plain : ∀ test ∈ filter.tests, Plain context test) :
    ∃ condition, restrictionOf context filter = .ok condition := by
  refine exists_restriction fun test member => ?_
  rw [compileTest_eq]
  cases comparable : isComparable (comparand test) test.operator with
  | false => exact ⟨none, rfl⟩
  | true =>
    obtain ⟨found, located, -⟩ := (plain test member).located comparable
    rw [if_pos rfl, located]
    exact ⟨_, rfl⟩

theorem plain_compiles (built : context.Built) {query : Query} {filter : Formula}
    (hfilter : query.filter = some filter) (plain : ∀ test ∈ filter.tests, Plain context test) :
    (∃ plan, compile context { query with sorts := [] } = .ok plan) ∧
      ((∃ predicate, Memory.compileFilter context query.filter = .ok predicate) ↔
        ∀ test ∈ filter.tests, patternFault? context test = none) := by
  obtain ⟨identifier, identified⟩ := Option.isSome_iff_exists.1 built.identifier?_isSome
  obtain ⟨condition, made⟩ := restrictionOf_of_plain plain
  constructor
  · obtain ⟨compiled, forRows, -⟩ := map_eq_ok_iff.1 made
    refine ⟨planOf context { query with sorts := [] } identifier compiled [], ?_⟩
    rw [compile_eq identified, hfilter]
    change (compileFilter context filter []).bind _ = _
    rw [forRows]
    rfl
  · rw [hfilter, Memory.compileFilter_some, ← exists_node_iff built made]
    constructor
    · rintro ⟨predicate, compiled⟩
      obtain ⟨node, compiled, -⟩ := map_eq_ok_iff.1 compiled
      exact ⟨node, compiled⟩
    · rintro ⟨node, compiled⟩
      exact ⟨_, map_eq_ok_iff.2 ⟨node, compiled, rfl⟩⟩

theorem test_eq (built : context.Built) {query : Query} {filter : Formula}
    (hfilter : query.filter = some filter) (plain : ∀ test ∈ filter.tests, Plain context test)
    {predicate : Predicate} (made : Memory.compileFilter context query.filter = .ok predicate)
    (record : Json.Value) :
    predicate.test record = .ok (filter.value (holdsOf context record)) := by
  rw [hfilter, Memory.compileFilter_some] at made
  obtain ⟨node, compiled, same⟩ := map_eq_ok_iff.1 made
  rw [← same]
  exact compileFormula_holds built compiled plain record

/-- Where a filter of plain comparisons has ways of distinct labels and no conjunction whose parts
go over one collection together, the predicate accepts a record that mirrors a row exactly if the
plan selects the row. The predicate answers of every record. There is a predicate unless a pattern
is refused, and a plan if the sort keys of the query do not prevent it. -/
theorem selection_agrees (built : context.Built) (engine : Engine) (db : Database) {query : Query}
    {filter : Formula} (hfilter : query.filter = some filter)
    (plain : ∀ test ∈ filter.tests, Plain context test)
    (aliased : Aliased context.root.table (routes context filter))
    (separate : Separate context filter) {row : Row} {record : Json.Value}
    (mirrors : ∀ route ∈ routes context filter,
      Mirrors engine context.coerce db route.ending route.legs row record) :
    ((∃ plan, compile context { query with sorts := [] } = .ok plan) ∧
      ((∃ predicate, Memory.compileFilter context query.filter = .ok predicate) ↔
        ∀ test ∈ filter.tests, patternFault? context test = none)) ∧
      ∀ predicate, Memory.compileFilter context query.filter = .ok predicate →
        ∃ accepted, predicate.test record = .ok accepted ∧
          ∀ plan, compile context query = .ok plan → (plan.Selects engine db row ↔
            accepted = true) := by
  refine ⟨plain_compiles built hfilter plain, fun predicate made => ?_⟩
  refine ⟨filter.value (holdsOf context record), test_eq built hfilter plain made record, ?_⟩
  intro plan compiled
  rw [selects_iff_satisfiable hfilter aliased compiled]
  constructor
  · exact value_holdsOf_of_satisfiable plain aliased mirrors
  · refine satisfiable_of_each aliased (single_of_mirrors mirrors) separate
      (fun _ inside => inside) ?_
    intro test member holds
    exact (holdsOf_iff_of_mem plain aliased mirrors member).1 holds

end FilterQuery.Compilation

namespace FilterQuery.Blog

open FilterQuery.Filter (Formula)
open FilterQuery.Scalar (Value)
open FilterQuery.Sql (Database Engine Row)

/-- A database that writes integers in decimal digits. -/
def engine : Engine where
  text
    | .text s => s
    | .integer n => toString n
    | .float _ => ""
    | .boolean b => toString b
  text_text _ := rfl
  lower := id
  document _ _ := none
  documentText _ _ := none

def rowOf (cells : List (String × Value)) : Row :=
  fun column => (cells.find? (·.1 == column)).map (·.2)

def news : Row :=
  rowOf [("id", .integer 1), ("title", .text "News"), ("author_id", .integer 7)]

def database : Database
  | "articles" => [news]
  | "people" => [rowOf [("id", .integer 7), ("full_name", .text "Ann")]]
  | "comments" =>
    [rowOf [("id", .integer 1), ("body", .text "fine"), ("article_id", .integer 1)],
      rowOf [("id", .integer 2), ("body", .text "good"), ("article_id", .integer 1)]]
  | _ => []

/-- The article as a record that holds its author and its comments. -/
def newsRecord : Json.Value :=
  .object [("author", .object [("id", .integer 7), ("name", .text "Ann")]),
    ("comments", .list [.object [("body", .text "fine"), ("id", .integer 1)],
      .object [("body", .text "good"), ("id", .integer 2)]]),
    ("id", .integer 1), ("title", .text "News")]

def toComments : Leg :=
  ⟨⟨"comments", "Comment", true⟩, ⟨"comments", "Comment", true, false, "id", "article_id"⟩, comment⟩

def toAuthor : Leg :=
  ⟨⟨"author", "Person", false⟩, ⟨"author", "Person", false, false, "author_id", "id"⟩, person⟩

/-- Asks for a comment that starts with a letter, and for an author of some name or a title; a part
is dropped. -/
def filter : Formula :=
  .group .and [.compare "comments.body" .like "g%",
    .group .or [.compare "author.name" .eq "Bob", .compareNull "title" .ne],
      .compare "title" .gt "A"]

private theorem routes_filter : Relational.routes context filter =
    [⟨[toComments], ⟨"body", none, .text, false⟩, []⟩,
      ⟨[toAuthor], ⟨"name", some "full_name", .text, false⟩, []⟩,
        ⟨[], ⟨"title", none, .text, false⟩, []⟩] := by
  decide +kernel

end FilterQuery.Blog

namespace FilterQuery.Compilation

open FilterQuery.Memory (Mirrors)
open FilterQuery.Relational

/-- The article is selected, since the predicate accepts its record. -/
theorem selection_agrees_on_news :
    ∃ plan, compile Blog.context { Query.empty with filter := some Blog.filter } = .ok plan ∧
      plan.Selects Blog.engine Blog.database Blog.news := by
  have tests : (∀ test ∈ Blog.filter.tests, Plain Blog.context test) ∧
      ∀ test ∈ Blog.filter.tests, Memory.patternFault? Blog.context test = none := by
    decide +kernel
  obtain ⟨plain, unrefused⟩ := tests
  have aliased : Aliased Blog.context.root.table (routes Blog.context Blog.filter) := by
    rw [Blog.routes_filter]
    decide +kernel
  have separate : Separate Blog.context Blog.filter := by
    refine .and (by decide +kernel) ?_
    simp only [List.forall_mem_cons]
    refine ⟨.atom _, .or ?_, .atom _, nofun⟩
    simp only [List.forall_mem_cons]
    exact ⟨.atom _, .atom _, nofun⟩
  have mirrors : ∀ route ∈ routes Blog.context Blog.filter,
      Mirrors Blog.engine Blog.context.coerce Blog.database route.ending route.legs Blog.news
        Blog.newsRecord := by
    rw [Blog.routes_filter]
    simp only [List.forall_mem_cons]
    refine ⟨⟨_, _, rfl, .refl _, .cons ⟨⟨_, rfl⟩, ?_⟩ (.cons ⟨⟨_, rfl⟩, ?_⟩ .nil)⟩,
      ⟨_, rfl, ?_⟩, ?_, nofun⟩
    · exact ⟨by rfl, by rfl⟩
    · exact ⟨by rfl, by rfl⟩
    · exact ⟨by rfl, by rfl⟩
    · exact ⟨by rfl, by rfl⟩
  let query : Query := { Query.empty with filter := some Blog.filter }
  have hfilter : query.filter = some Blog.filter := rfl
  obtain ⟨⟨⟨plan, compiled⟩, exists_predicate⟩, each⟩ :=
    selection_agrees Blog.context_built Blog.engine Blog.database hfilter plain aliased
      separate mirrors
  obtain ⟨predicate, made⟩ := exists_predicate.2 unrefused
  obtain ⟨accepted, answer, agrees⟩ := each predicate made
  have accepts : (Memory.compileFilter Blog.context query.filter).bind (·.test Blog.newsRecord) =
    .ok true := by decide +kernel
  rw [made] at accepts
  have yes : accepted = true := Except.ok.inj (answer.symm.trans accepts)
  exact ⟨plan, compiled, (agrees plan compiled).2 yes⟩

end FilterQuery.Compilation
