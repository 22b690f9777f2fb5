import FilterQuery.Proofs.Compilation.Agreement
import FilterQuery.Proofs.Relational.Routes

set_option autoImplicit false
set_option relaxedAutoImplicit false

/-!
Filters whose operators are all known. The language knows four operators of order that neither
compiler makes a condition of. Of a filter with known operators and values the compilers drop the
comparisons with these four, where their paths lead somewhere, and no others. For records such a
filter may be refused for one of its patterns.
-/

namespace FilterQuery.Filter

/-- Whether an operator compares by order. -/
def Operator.isOrdering : Operator → Bool
  | .lt => true
  | .le => true
  | .gt => true
  | .ge => true
  | _ => false

end FilterQuery.Filter

namespace FilterQuery.Compilation

open FilterQuery.Filter (Comparison Formula Operator)
open FilterQuery.Memory (patternFault?)
open FilterQuery.Relational (compileFilter isComparable isDropped restrictionOf)

variable {context : Context}

private theorem isComparable_some (raw : String) (operator : Operator) :
    isComparable (some raw) operator = (operator.isKnown && !operator.isOrdering) := by
  cases operator <;> rfl

/-- A comparison with a value whose path leads to a column. -/
structure Answerable (context : Context) (test : Comparison) : Prop where
  valued : (comparand test).isSome = true
  resolved : ∃ target, Relational.Path.resolve context.schema context.registry context.root
    test.path = .ok (some target)

section Answerable

variable {test : Comparison}

theorem Answerable.located (answerable : Answerable context test) :
    ∃ route, context.locate test.path = .ok (some route) := by
  obtain ⟨target, resolved⟩ := answerable.resolved
  rw [Context.relational_resolve] at resolved
  cases located : context.locate test.path with
  | error e => rw [located] at resolved; cases resolved
  | ok found =>
    cases found with
    | none => rw [located] at resolved; cases resolved
    | some route => exact ⟨route, rfl⟩

private theorem Answerable.isDropped_eq (answerable : Answerable context test)
    (known : test.operator.isKnown = true) :
    isDropped context test = test.operator.isOrdering := by
  obtain ⟨raw, valued⟩ := Option.isSome_iff_exists.1 answerable.valued
  obtain ⟨route, located⟩ := answerable.located
  unfold isDropped Relational.routeOf?
  rw [valued, isComparable_some, known, located]
  cases test.operator.isOrdering <;> rfl

private theorem Answerable.compileTest_ok (answerable : Answerable context test) :
    ∃ compiled, Relational.compileTest context test = .ok compiled := by
  obtain ⟨route, located⟩ := answerable.located
  rw [Relational.compileTest_eq, located]
  split
  · exact ⟨_, rfl⟩
  · exact ⟨_, rfl⟩

private theorem Answerable.dropped_iff (answerable : Answerable context test)
    (known : test.operator.isKnown = true) (built : context.Built) :
    (∃ compiled, Relational.compileTest context test = .ok compiled ∧
      (compiled = none ↔ test.operator.isOrdering = true)) ∧
      (∀ e, Memory.compileTest context test = .error e ↔ patternFault? context test = some e) ∧
        ∀ node, Memory.compileTest context test = .ok node →
          (node.isAlways = true ↔ test.operator.isOrdering = true) := by
  obtain ⟨compiled, made⟩ := answerable.compileTest_ok
  have forRows : compiled = none ↔ test.operator.isOrdering = true := by
    rw [← answerable.isDropped_eq known, Relational.compileTest_made made, Option.map_eq_none_iff]
    exact Option.isNone_iff_eq_none.symm
  refine ⟨⟨compiled, made, forRows⟩, fun e => ?_, fun node forRecords => ?_⟩
  · rw [compileTest_error_iff built, made]
    simp
  · have alike := compileTest_alike built (patternFault?_of_ok built forRecords)
    rw [made, forRecords] at alike
    cases alike with
    | ok related =>
      refine related.symm.trans ?_
      rw [Option.map_eq_none_iff, forRows]

end Answerable

/-- A filter compiles for rows, after any joins, and for records unless a pattern is refused, and is
no restriction for either exactly if `dropped`. -/
structure MadeAlike (context : Context) (filter : Formula) (dropped : Bool) : Prop where
  rows : ∀ joins, ∃ condition extended,
    compileFilter context filter joins = .ok (condition, extended) ∧
      (condition = none ↔ dropped = true)
  refused : ∀ e, Memory.compileFormula context filter = .error e ↔
    PatternRefused context (some filter) e
  records : ∀ node, Memory.compileFormula context filter = .ok node →
    (node.isAlways = true ↔ dropped = true)

private theorem madeAlike_of_known (built : context.Built) {filter : Formula}
    (known : ∀ test ∈ filter.tests, test.operator.isKnown = true)
    (answerable : ∀ test ∈ filter.tests, Answerable context test) :
    MadeAlike context filter (filter.value (·.operator.isOrdering)) := by
  obtain ⟨condition, made⟩ :=
    Relational.exists_restriction fun test member => (answerable test member).compileTest_ok
  have same : filter.value (isDropped context) = filter.value (·.operator.isOrdering) :=
    filter.value_congr fun test member => (answerable test member).isDropped_eq (known test member)
  have dropped := Relational.restrictionOf_eq_none_iff filter condition made
  rw [same] at dropped
  constructor
  · intro joins
    have found : (compileFilter context filter joins).map (·.1) = restrictionOf context filter :=
      Relational.compileFilter_condition filter joins
    rw [made] at found
    cases compiled : compileFilter context filter joins with
    | error e => rw [compiled] at found; cases found
    | ok result =>
      rw [compiled] at found
      have first : result.1 = condition := Except.ok.inj found
      exact ⟨result.1, result.2, rfl, first ▸ dropped⟩
  · exact compileFormula_error_iff built made
  · intro node compiled
    have alike := compileFormula_alike built (patternFault?_of_compileFormula_ok built compiled)
    rw [made, compiled] at alike
    cases alike with
    | ok related => exact related.symm.trans dropped

/-- A filter is accepted exactly if the language knows all its operators. Of its answerable
comparisons both compilers drop those with an operator of order and make all others, where for
records one with a pattern may be refused. If all are answerable, the filter is no restriction
exactly if it holds with its comparisons by order true and all others false, unless it is refused
for records because of a pattern. -/
theorem accepted_restricts (built : context.Built) (filter : Formula) :
    (filter.unknownOperator? = none ↔ ∀ test ∈ filter.tests, test.operator.isKnown = true) ∧
      (filter.unknownOperator? = none →
        (∀ test ∈ filter.tests, Answerable context test →
          (∃ compiled, Relational.compileTest context test = .ok compiled ∧
            (compiled = none ↔ test.operator.isOrdering = true)) ∧
            (∀ e, Memory.compileTest context test = .error e ↔
              patternFault? context test = some e) ∧
              ∀ node, Memory.compileTest context test = .ok node →
                (node.isAlways = true ↔ test.operator.isOrdering = true)) ∧
          ((∀ test ∈ filter.tests, Answerable context test) →
            MadeAlike context filter (filter.value (·.operator.isOrdering)))) := by
  refine ⟨Formula.unknownOperator?_eq_none_iff, fun accepted => ?_⟩
  have known := Formula.unknownOperator?_eq_none_iff.1 accepted
  refine ⟨?_, madeAlike_of_known built known⟩
  intro test member answerable
  exact answerable.dropped_iff (known test member) built

private theorem answerable_title {path value : String} {operator : Operator} {names : List String}
    {legs : List Leg} (split : Text.Split.segments '.' path = names ++ ["title"])
    (along : List.Forall₂ Tree.Goes names legs) (valued : value ≠ nullWord) :
    Answerable Tree.context ⟨path, operator, some value⟩ := by
  constructor
  · simp [comparand, valued]
  · rw [Context.relational_resolve, Tree.locate_title split along]
    exact ⟨_, rfl⟩

def titleBefore : Comparison :=
  ⟨"title", .lt, some "A"⟩

/-- A comparison by order is accepted and answerable, and both compilers drop it. -/
theorem order_accepted_and_dropped :
    Tree.context.Built ∧ (Formula.atom titleBefore).unknownOperator? = none ∧
      Answerable Tree.context titleBefore ∧
      Relational.compileTest Tree.context titleBefore = .ok none ∧
        Memory.compileTest Tree.context titleBefore = .ok .always :=
  ⟨Tree.context_built,
    by rfl, answerable_title (by decide +kernel) .nil (by decide), by rfl, by rfl⟩

/-- The nodes whose title starts with a letter, or comes after another where the parent has a title
of its own. -/
def mixedFilter : Formula :=
  .group .or [.atom ⟨"title", .like, some "A%"⟩,
    .group .and [.atom ⟨"title", .ge, some "B"⟩, .atom ⟨"parent.title", .eq, some "C"⟩]]

/-- Without its comparison by order the filter still restricts rows and records. -/
theorem mixed_restricts :
    (∃ condition extended, compileFilter Tree.context mixedFilter [] = .ok (condition, extended) ∧
      condition ≠ none) ∧
      ∃ node, Memory.compileFormula Tree.context mixedFilter = .ok node ∧
        node.isAlways = false := by
  have parent : Tree.Goes "parent" Tree.toParent := Tree.goes_toParent (by simp [Tree.foldings])
  have tests : mixedFilter.tests =
      [⟨"title", .like, some "A%"⟩, ⟨"title", .ge, some "B"⟩, ⟨"parent.title", .eq, some "C"⟩] := by
        rfl
  have patterns : ∀ test ∈ mixedFilter.tests, patternFault? Tree.context test = none := by
    rw [tests]
    simp only [List.forall_mem_cons]
    exact ⟨by rfl, by rfl, by rfl, nofun⟩
  have answerable : ∀ test ∈ mixedFilter.tests, Answerable Tree.context test := by
    rw [tests]
    simp only [List.forall_mem_cons]
    exact ⟨answerable_title (by decide +kernel) .nil (by decide),
      answerable_title (by decide +kernel) .nil (by decide),
        answerable_title (by decide +kernel) (.cons parent .nil) (by decide), nofun⟩
  obtain ⟨_, made⟩ := accepted_restricts Tree.context_built mixedFilter
  obtain ⟨_, whole⟩ := made (by rfl)
  obtain ⟨rows, refused, always⟩ := whole answerable
  have restricts : mixedFilter.value (·.operator.isOrdering) = false := by rfl
  rw [restricts] at rows always
  obtain ⟨condition, extended, found, dropped⟩ := rows []
  obtain ⟨node, compiled⟩ : ∃ node, Memory.compileFormula Tree.context mixedFilter = .ok node := by
    rw [exists_ok_iff]
    intro e failed
    obtain ⟨_, before, test, after, ⟨⟩, parts, -, fault⟩ := (refused e).1 failed
    rw [patterns test (by rw [parts]; simp)] at fault
    cases fault
  exact ⟨⟨condition, extended, found, by simpa using dropped⟩, node,
    compiled, by simpa using always node compiled⟩

end FilterQuery.Compilation
