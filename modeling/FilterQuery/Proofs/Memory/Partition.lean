import FilterQuery.Proofs.Memory.Evaluation

set_option autoImplicit false
set_option relaxedAutoImplicit false

/-!
Equality with a value, difference from it, and null. Each value that a path has in a record equals
what it is compared with, differs from it, or is missing. The filter that asks for one of these
accepts a record where some value is so.
-/

namespace FilterQuery.Memory

open FilterQuery.Filter (Comparison Operator)
open FilterQuery.Memory.Path (Accessor)
open FilterQuery.Scalar (Kind)

/-- How a value stands to the one that it is compared with. -/
inductive Standing
  | equal
  | different
  | missing
  deriving DecidableEq

/-- The comparison that asks how a path's values stand to a text; null may be spelled out. -/
def Standing.comparison (path raw : String) (null : Option String) : Standing → Comparison
  | .equal => ⟨path, .eq, some raw⟩
  | .different => ⟨path, .ne, some raw⟩
  | .missing => ⟨path, .eq, null⟩

/-- How a value stands to a text. A text that does not coerce equals no value, and neither does a
value that does not. -/
def standingOf (context : Context) (kind : Kind) (raw : String) : Option Json.Value → Standing
  | none => .missing
  | some v =>
    match context.coerce raw kind with
    | some wanted => if storedEquals context.coerce kind v wanted then .equal else .different
    | none => .different

/-- What the predicate of one comparison answers for a record. -/
def verdict (context : Context) (test : Comparison) (record : Json.Value) : Except Error Bool :=
  (compileFilter context (some (.atom test))).bind (·.test record)

variable {context : Context} {path raw : String} {null : Option String}

private theorem comparand_of_ne {operator : Operator} (given : raw ≠ nullWord) :
    comparand ⟨path, operator, some raw⟩ = some raw := by
  simp [comparand, given]

private theorem comparand_null {operator : Operator}
    (spelled : null = none ∨ null = some nullWord) :
    comparand ⟨path, operator, null⟩ = none := by
  rcases spelled with rfl | rfl
  · rfl
  · simp [comparand]

/-- What is asked of one value for each standing; that it equals a text that does not coerce is
asked of none. -/
def Standing.test? (asked : Standing) (wanted : Option Scalar.Value) : Option Test :=
  match asked, wanted with
  | .equal, wanted => wanted.map .equal
  | .different, some wanted => some (.notEqual wanted)
  | .different, none => some .isNotNull
  | .missing, _ => some .isNull

private theorem testOf_comparison (given : raw ≠ nullWord)
    (spelled : null = none ∨ null = some nullWord) (asked : Standing) (kind : Kind) :
    testOf context (asked.comparison path raw null).operator
      (comparand (asked.comparison path raw null)) kind =
      asked.test? (context.coerce raw kind) := by
  cases asked with
  | equal =>
    simp only [Standing.comparison, comparand_of_ne given, testOf]
    cases context.coerce raw kind <;> rfl
  | different =>
    simp only [Standing.comparison, comparand_of_ne given, testOf]
    cases context.coerce raw kind <;> rfl
  | missing =>
    simp only [Standing.comparison, comparand_null spelled, testOf]
    rfl

private theorem passes_comparison (given : raw ≠ nullWord)
    (spelled : null = none ∨ null = some nullWord) (asked : Standing) (kind : Kind)
    (v : Option Json.Value) :
    passes context (asked.comparison path raw null).operator
      (comparand (asked.comparison path raw null)) kind v =
      decide (standingOf context kind raw v = asked) := by
  rw [passes, testOf_comparison given spelled]
  cases v with
  | none => cases asked <;> cases context.coerce raw kind <;> rfl
  | some v =>
    cases coerced : context.coerce raw kind with
    | none =>
      have standing : standingOf context kind raw (some v) = .different := by
        simp [standingOf, coerced]
      rw [standing]
      cases asked <;> rfl
    | some wanted =>
      have standing : standingOf context kind raw (some v) =
          if storedEquals context.coerce kind v wanted then .equal else .different := by
            simp [standingOf, coerced]
      rw [standing]
      cases same : storedEquals context.coerce kind v wanted <;> cases asked
        <;> simp [Standing.test?, Test.holds, same]

private theorem verdict_of_decided {test : Comparison} {a : Accessor}
    (resolved : accessor? context test.path = .ok (some a))
    (decided : isDecidedBy test.operator (comparand test) = true)
    (unrefused : patternRefusal? context test.operator (comparand test) = none)
    (record : Json.Value) :
    verdict context test record =
      (nodeAsking a (testOf context test.operator (comparand test) a.kind)).holds
        context.coerce record := by
  have node : compileTest context test =
      .ok (nodeAsking a (testOf context test.operator (comparand test) a.kind)) := by
    unfold compileTest
    simp only [decided, if_true, resolved]
    change nodeOfTest context test.operator (comparand test) a = _
    rw [nodeOfTest_eq, unrefused]
    rfl
  rw [verdict, compileFilter_some, compileFormula_atom, node]
  rfl

private theorem isDecidedBy_comparison (given : raw ≠ nullWord)
    (spelled : null = none ∨ null = some nullWord) (asked : Standing) :
    isDecidedBy (asked.comparison path raw null).operator
      (comparand (asked.comparison path raw null)) = true := by
  cases asked with
  | equal => rw [Standing.comparison, comparand_of_ne given]; rfl
  | different => rw [Standing.comparison, comparand_of_ne given]; rfl
  | missing => rw [Standing.comparison, comparand_null spelled]; rfl

private theorem patternRefusal?_comparison (asked : Standing) :
    patternRefusal? context (asked.comparison path raw null).operator
      (comparand (asked.comparison path raw null)) =
      none := by
  cases asked <;> rfl

/-- The filter that asks for a standing accepts a record if one of the path's values has it. -/
theorem verdict_comparison {a : Accessor} (resolved : accessor? context path = .ok (some a))
    (given : raw ≠ nullWord) (spelled : null = none ∨ null = some nullWord) {record : Json.Value}
    {values : List (Option Json.Value)} (read : a.values record = .ok values) (asked : Standing) :
    verdict context (asked.comparison path raw null) record =
      .ok (values.any fun v => standingOf context a.kind raw v = asked) := by
  have here : accessor? context (asked.comparison path raw null).path = .ok (some a) := by
    cases asked <;> exact resolved
  rw [verdict_of_decided here (isDecidedBy_comparison given spelled asked)
    (patternRefusal?_comparison asked), nodeAsking_holds _ _ read]
  congr 2
  funext v
  exact passes_comparison given spelled asked a.kind v

/-- Of the filters for equality with a text, for difference from it and for null, exactly one
accepts a record in which the path has one value: that of the value's standing, whether or not the
text and the value coerce. -/
theorem exactly_one_accepts {a : Accessor} (resolved : accessor? context path = .ok (some a))
    (given : raw ≠ nullWord) (spelled : null = none ∨ null = some nullWord) {record : Json.Value}
    {v : Option Json.Value} (read : a.values record = .ok [v]) :
    (∀ asked : Standing, verdict context (asked.comparison path raw null) record =
        .ok (decide (asked = standingOf context a.kind raw v))) ∧
      ∃! asked : Standing, verdict context (asked.comparison path raw null) record = .ok true := by
  have each : ∀ asked : Standing, verdict context (asked.comparison path raw null) record =
      .ok (decide (asked = standingOf context a.kind raw v)) := by
    intro asked
    rw [verdict_comparison resolved given spelled read]
    simp [eq_comm]
  refine ⟨each, standingOf context a.kind raw v, by simp [each], fun asked accepted => ?_⟩
  have same := (each asked).symm.trans accepted
  simpa using same

def misnumbered : Json.Value :=
  .object [("id", .text "first")]

/-- An identifier that is no number differs from a text that is no number either. -/
theorem misnumbered_differs :
    (∃! asked : Standing, verdict Blog.context (asked.comparison "id" "one" (some "null"))
      misnumbered = .ok true) ∧
      verdict Blog.context ⟨"id", .ne, some "one"⟩ misnumbered = .ok true := by
  have resolved : accessor? Blog.context "id" =
    .ok (some ⟨"id", [.field "id"], .integer, false⟩) := by rfl
  have uncoerced : Blog.context.coerce "one" .integer = none := by decide +kernel
  have read : Accessor.values ⟨"id", [.field "id"], .integer, false⟩ misnumbered =
    .ok [some (.text "first")] := by rfl
  obtain ⟨each, one⟩ := exactly_one_accepts resolved (by decide : "one" ≠ nullWord) (.inr rfl) read
  refine ⟨one, (each .different).trans ?_⟩
  simp [standingOf, uncoerced]

end FilterQuery.Memory
