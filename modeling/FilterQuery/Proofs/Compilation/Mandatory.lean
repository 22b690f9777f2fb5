import FilterQuery.Filter.Replacement
import FilterQuery.Proofs.Memory.Evaluation
import FilterQuery.Proofs.Relational.Restriction

set_option autoImplicit false
set_option relaxedAutoImplicit false

/-!
Mandatory filters. Whatever filter a caller brings, the rows and records that it selects together
with a mandatory one are among those that the mandatory one selects alone.
-/

namespace FilterQuery.Compilation

open FilterQuery.Filter (Comparison Formula)
open FilterQuery.Filter.Replacement (restrict)
open FilterQuery.Memory (Predicate)
open FilterQuery.Relational (Plan conjunction restrictionOf)
open FilterQuery.Sql (Condition Join)

variable {context : Context}

/-- Two conditions in conjunction; one that is missing is left out. -/
def both : Option Condition → Option Condition → Option Condition
  | some c, some d => some (.group .and [c, d])
  | some c, none => some c
  | none, d => d

private theorem conjunction_pair (c d : Option Condition) : conjunction [c, d] = both c d := by
  cases c <;> cases d <;> rfl

private theorem compileFilter_pair {given mandatory : Formula} {first second : Predicate}
    (hfirst : Memory.compileFilter context (some given) = .ok first)
    (hsecond : Memory.compileFilter context (some mandatory) = .ok second) :
    ∃ joined, Memory.compileFilter context (some (.group .and [given, mandatory])) = .ok joined ∧
      ∀ record, joined.test record = .ok true ↔ first.test record = .ok true ∧
        second.test record = .ok true := by
  rw [Memory.compileFilter_some] at hfirst hsecond
  cases hgiven : Memory.compileFormula context given with
  | error e => rw [hgiven] at hfirst; cases hfirst
  | ok m =>
    cases hmandatory : Memory.compileFormula context mandatory with
    | error e => rw [hmandatory] at hsecond; cases hsecond
    | ok n =>
      rw [hgiven] at hfirst
      rw [hmandatory] at hsecond
      cases hfirst
      cases hsecond
      have made : Memory.compileFormula context (.group .and [given, mandatory]) =
          .ok (Memory.group .and [m, n]) := by
        rw [Memory.compileFormula_group, List.mapM_cons, List.mapM_cons, List.mapM_nil,
          hgiven, hmandatory]
        rfl
      refine ⟨⟨Memory.group .and [m, n], context.coerce⟩, ?_, ?_⟩
      · rw [Memory.compileFilter_some, made]
        rfl
      · intro record
        unfold Predicate.test
        rw [Memory.group_and_holds]
        simp

private theorem restrictionOf_pair {given mandatory : Formula} {c d : Option Condition}
    (hgiven : restrictionOf context given = .ok c)
    (hmandatory : restrictionOf context mandatory = .ok d) :
    restrictionOf context (.group .and [given, mandatory]) = .ok (both c d) := by
  rw [Relational.restrictionOf_and, List.mapM_cons, List.mapM_cons, List.mapM_nil, hgiven,
    hmandatory, ← conjunction_pair]
  rfl

private theorem restrictionOf_of_compileOptional {filter : Formula} {condition : Option Condition}
    {joins : List Join} (h : Relational.compileOptional context (some filter) =
      .ok (condition, joins)) :
    restrictionOf context filter = .ok condition := by
  unfold restrictionOf
  change (Relational.compileOptional context (some filter)).map (·.1) = _
  rw [h]
  rfl

private theorem compileOptional_of_restrictionOf {filter : Formula} {condition : Option Condition}
    (h : restrictionOf context filter = .ok condition) :
    ∃ joins, Relational.compileOptional context (some filter) = .ok (condition, joins) := by
  unfold restrictionOf at h
  change ∃ joins, Relational.compileFilter context filter [] = .ok (condition, joins)
  cases compiled : Relational.compileFilter context filter [] with
  | error e => rw [compiled] at h; cases h
  | ok made =>
    rw [compiled] at h
    cases h
    exact ⟨made.2, rfl⟩

/-- Under a mandatory filter a caller's filter selects only what the mandatory one selects. Of
records, the predicate of both accepts those that the mandatory predicate accepts and, where a
caller brings a filter, the caller's predicate too. Of rows, the condition of both is the
conjunction of the conditions that they have alone. -/
theorem restrict_conjoins (context : Context) (filter : Option Formula) (mandatory : Formula) :
    (∀ given required, Memory.compileFilter context filter = .ok given →
      Memory.compileFilter context (some mandatory) = .ok required →
      ∃ joined, Memory.compileFilter context (some (restrict filter mandatory)) = .ok joined ∧
        ∀ record, joined.test record = .ok true ↔
          required.test record = .ok true ∧ (filter = none ∨ given.test record = .ok true)) ∧
    ∀ (query : Query) given required, Relational.compile context { query with filter := filter } =
      .ok given →
      Relational.compile context { query with filter := some mandatory } = .ok required →
      ∃ joined, Relational.compile context { query with filter := some (restrict filter mandatory)
        } = .ok joined ∧
        joined.condition = both given.condition required.condition := by
  constructor
  · intro given required hgiven hrequired
    cases filter with
    | none => exact ⟨required, hrequired, fun record => by simp⟩
    | some caller =>
      obtain ⟨joined, made, accepts⟩ := compileFilter_pair hgiven hrequired
      refine ⟨joined, made, ?_⟩
      intro record
      rw [accepts record]
      simp [and_comm]
  · intro query given required hgiven hrequired
    obtain ⟨hfirst, _⟩ := Relational.compile_eq_ok hgiven
    obtain ⟨hsecond, _, others⟩ := Relational.compile_eq_ok hrequired
    cases filter with
    | none =>
      have missing : given.condition = none := (congrArg Prod.fst (Except.ok.inj hfirst)).symm
      refine ⟨required, hrequired, ?_⟩
      rw [missing]
      rfl
    | some caller =>
      have first : restrictionOf context caller = .ok given.condition :=
        restrictionOf_of_compileOptional hfirst
      have second : restrictionOf context mandatory = .ok required.condition :=
        restrictionOf_of_compileOptional hsecond
      obtain ⟨joins, made⟩ := compileOptional_of_restrictionOf (restrictionOf_pair first second)
      exact others _ _ made

/-- A caller whose filter holds always still sees only the articles that the mandatory filter lets
through. -/
theorem restrict_conjoins_of_always :
    let caller := Formula.group .or [.compare "title" .eq "News", .compare "nothing" .eq "x"]
    let mandatory := Formula.compare "title" .eq "Draft"
    (∃ joined, Memory.compileFilter Blog.context (some (restrict (some caller) mandatory)) =
      .ok joined ∧
      joined.test (.object [("title", .text "Draft")]) = .ok true ∧
      joined.test (.object [("title", .text "News")]) ≠ .ok true) ∧
    ∃ plan, Relational.compile Blog.context
      { Query.empty with filter := some (restrict (some caller) mandatory) } =
        .ok plan ∧ plan.condition = some (.equal (.column "articles" "title") (.text "Draft")) := by
  intro caller mandatory
  obtain ⟨records, rows⟩ := restrict_conjoins Blog.context (some caller) mandatory
  constructor
  · obtain ⟨joined, made, accepts⟩ := records ⟨.always, Blog.context.coerce⟩
      ⟨.test ⟨"title", [.field "title"], .text, false⟩ (.equal (.text "Draft")),
        Blog.context.coerce⟩ (by rfl) (by rfl)
    refine ⟨joined, made, (accepts _).2 ⟨by rfl, .inr (by rfl)⟩, ?_⟩
    intro accepted
    exact absurd ((accepts _).1 accepted).1 nofun
  · obtain ⟨plan, made, condition⟩ := rows Query.empty
      ⟨"articles", "id", none, [], [], [], [], ⟨0, 20⟩⟩
      ⟨"articles", "id", some (.equal (.column "articles" "title") (.text "Draft")), [], [],
        [], [], ⟨0, 20⟩⟩
      (by rfl) (by rfl)
    exact ⟨plan, made, condition⟩

end FilterQuery.Compilation
