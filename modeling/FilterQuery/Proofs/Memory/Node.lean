import FilterQuery.Proofs.Filter.Truth
import FilterQuery.Proofs.Path.Resolution
import FilterQuery.Proofs.Steps

set_option autoImplicit false
set_option relaxedAutoImplicit false

/-!
The node that a filter compiles to: a comparison follows the route of its path, and a group is made
of its parts. A filter is refused for the first of its comparisons that is, for its path or for its
pattern.
-/

namespace FilterQuery.Memory

open FilterQuery.Filter (Comparison Connective Formula Operator)
open FilterQuery.Memory.Path (Accessor)
open FilterQuery.Scalar (Kind)

variable {context : Context}

theorem isDecidedBy_eq (operator : Operator) (value : Option String) :
    isDecidedBy operator value = Relational.isComparable value operator := by
  cases value <;> cases operator <;> rfl

/-- What a comparison asks of one value, `none` where no value passes. -/
def testOf (context : Context) (operator : Operator) (value : Option String) (kind : Kind) :
    Option Test :=
  match value, operator with
  | none, .ne => some .isNotNull
  | none, _ => some .isNull
  | some raw, .like => some (.matching (Like.pieces raw.toList) false)
  | some raw, .ilike => some (.matching (Like.pieces raw.toList) true)
  | some raw, operator =>
    match context.coerce raw kind with
    | some wanted => some (if operator = .ne then .notEqual wanted else .equal wanted)
    | none => if operator = .ne then some .isNotNull else none

/-- The node that asks something of the values of a path. -/
def nodeAsking (a : Accessor) : Option Test → Node
  | some test => .test a test
  | none => .never

/-- Why the pattern that a path is compared with is refused, if it is. -/
def patternRefusal? (context : Context) : Operator → Option String → Option Error
  | .like, some raw => (context.refusal (Like.expression false raw.toList)).map (.pattern raw)
  | .ilike, some raw => (context.refusal (Like.expression true raw.toList)).map (.pattern raw)
  | _, _ => none

theorem nodeOfTest_eq (operator : Operator) (value : Option String) (a : Accessor) :
    nodeOfTest context operator value a =
      ((patternRefusal? context operator value).map Except.error).getD
        (.ok (nodeAsking a (testOf context operator value a.kind))) := by
  cases value with
  | none => cases operator <;> rfl
  | some raw =>
    by_cases like : operator = .like
    · subst like
      cases refused : context.refusal (Like.expression false raw.toList) <;>
        simp [nodeOfTest, matching, patternRefusal?, testOf, nodeAsking, refused, Except.map]
    · by_cases ilike : operator = .ilike
      · subst ilike
        cases refused : context.refusal (Like.expression true raw.toList) <;>
          simp [nodeOfTest, matching, patternRefusal?, testOf, nodeAsking, refused, Except.map]
      · cases coerced : context.coerce raw a.kind <;> cases operator <;>
          simp_all [nodeOfTest, patternRefusal?, testOf, nodeAsking]

theorem isAlways_nodeAsking (a : Accessor) (asked : Option Test) :
    (nodeAsking a asked).isAlways = false := by
  cases asked <;> rfl

/-- Why the pattern of a comparison whose path leads somewhere is refused, if it is. -/
def patternFault? (context : Context) (test : Comparison) : Option Error :=
  match context.locate test.path with
  | .ok (some _) => patternRefusal? context test.operator (comparand test)
  | _ => none

theorem patternFault?_of_located {test : Comparison} {route : Route}
    (located : context.locate test.path = .ok (some route)) :
    patternFault? context test = patternRefusal? context test.operator (comparand test) := by
  rw [patternFault?, located]

private theorem patternRefusal?_eq_none {operator : Operator} {value : Option String}
    (unmade : Relational.isComparable value operator = false) :
    patternRefusal? context operator value = none := by
  cases value with
  | none => cases operator <;> rfl
  | some raw =>
    cases operator with
    | like => cases unmade
    | ilike => cases unmade
    | _ => rfl

theorem patternFault?_eq_none {test : Comparison}
    (unmade : Relational.isComparable (comparand test) test.operator = false) :
    patternFault? context test = none := by
  unfold patternFault?
  split
  · exact patternRefusal?_eq_none unmade
  · rfl

theorem compileTest_eq (built : context.Built) (test : Comparison) :
    compileTest context test =
      ((patternFault? context test).map Except.error).getD
        (if Relational.isComparable (comparand test) test.operator then
          (context.locate test.path).map fun found => found.elim Node.always fun route =>
            nodeAsking (route.accessor test.path)
              (testOf context test.operator (comparand test) route.kind)
        else .ok .always) := by
  unfold compileTest
  simp only [isDecidedBy_eq]
  cases comparable : Relational.isComparable (comparand test) test.operator with
  | false =>
    rw [patternFault?_eq_none comparable]
    rfl
  | true =>
    simp only [if_true, built.memory_resolve]
    cases located : context.locate test.path with
    | error e =>
      rw [patternFault?, located]
      rfl
    | ok found =>
      cases found with
      | none =>
        rw [patternFault?, located]
        rfl
      | some route =>
        rw [patternFault?_of_located located]
        exact nodeOfTest_eq test.operator (comparand test) (route.accessor test.path)

private theorem compileParts_eq (parts : List Formula) :
    compileParts context parts = parts.mapM (compileFormula context) := by
  induction parts with
  | nil => rw [compileParts]; rfl
  | cons part parts ih => rw [compileParts, List.mapM_cons, ih]

theorem compileFormula_group (connective : Connective) (parts : List Formula) :
    compileFormula context (.group connective parts) =
      (parts.mapM (compileFormula context)).map (group connective) := by
  rw [compileFormula, compileParts_eq]
  cases parts.mapM (compileFormula context) <;> rfl

theorem compileFormula_atom (test : Comparison) :
    compileFormula context (.atom test) = compileTest context test := by
  rw [compileFormula]

theorem compileFormula_error_iff (filter : Formula) (e : Error) :
    compileFormula context filter = .error e ↔
      filter.tests.mapM (compileTest context) = .error e := by
  refine Formula.error_iff (fun test e => ?_) (fun connective parts e => ?_) filter e
  · rw [compileFormula_atom]
  · rw [compileFormula_group]
    exact map_eq_error_iff

theorem compileFilter_some (filter : Formula) :
    compileFilter context (some filter) =
      (compileFormula context filter).map fun node => (⟨node, context.coerce⟩ : Predicate) := by
  simp only [compileFilter]
  cases compileFormula context filter <;> rfl

end FilterQuery.Memory
