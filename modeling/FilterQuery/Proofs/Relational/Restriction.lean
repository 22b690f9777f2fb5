import FilterQuery.Proofs.Filter.Truth
import FilterQuery.Proofs.Path.Resolution

set_option autoImplicit false
set_option relaxedAutoImplicit false

/-!
The condition that a filter compiles to, apart from the joins it needs. It does not depend on the
joins that were there before, and that of a group is made of those of its parts.
-/

namespace FilterQuery.Relational

open FilterQuery.Filter (Comparison Connective Formula)
open FilterQuery.Relational.Path (addJoins)
open FilterQuery.Sql (Condition Join OrderTerm)

def restrictionOf (context : Context) (filter : Formula) : Except Error (Option Condition) :=
  (compileFilter context filter []).map (·.1)

def conjunction (parts : List (Option Condition)) : Option Condition :=
  if (parts.filterMap id).isEmpty then none else some (.join .and (parts.filterMap id))

def disjunction : List (Option Condition) → Option Condition
  | [] => some .never
  | parts => (parts.mapM id).map (.join .or)

section Restrictions

variable {α : Type} {conditions : List (Option Condition)}

theorem mapM_id_eq_some {xs : List (Option α)} {ys : List α} (h : xs.mapM id = some ys) :
    xs = ys.map some := by
  induction xs generalizing ys with
  | nil =>
    cases h
    rfl
  | cons x xs ih =>
    rw [List.mapM_cons] at h
    cases x with
    | none => cases h
    | some x =>
      cases rest : xs.mapM id with
      | none => rw [rest] at h; cases h
      | some others =>
        rw [rest] at h
        cases h
        rw [ih rest]
        rfl

theorem mapM_id_eq_none {xs : List (Option α)} : xs.mapM id = none ↔ none ∈ xs := by
  induction xs with
  | nil => simp
  | cons x xs ih =>
    rw [List.mapM_cons, List.mem_cons, ← ih]
    cases x with
    | none => simp
    | some x => cases xs.mapM id <;> simp

theorem conjunction_eq_none : conjunction conditions = none ↔ ∀ c ∈ conditions, c = none := by
  unfold conjunction
  cases h : conditions.filterMap id with
  | nil =>
    have all := List.filterMap_eq_nil_iff.1 h
    exact ⟨fun _ c member => all c member, fun _ => rfl⟩
  | cons first rest =>
    have member : first ∈ conditions.filterMap id := by rw [h]; simp
    obtain ⟨c, hc, rfl⟩ := List.mem_filterMap.1 member
    constructor
    · intro missing
      cases missing
    · intro all
      cases all _ hc

theorem disjunction_eq_none : disjunction conditions = none ↔ none ∈ conditions := by
  cases conditions with
  | nil => simp [disjunction]
  | cons c conditions => rw [disjunction, Option.map_eq_none_iff, mapM_id_eq_none]; simp

end Restrictions

variable {context : Context}

theorem compileTest_eq (test : Comparison) :
    compileTest context test =
      if isComparable (comparand test) test.operator then
        (context.locate test.path).map (Option.map fun route =>
          (conditionOf context test.operator (comparand test)
            (route.expr context.root.table) route.kind, (route.target context.root.table).joins))
      else .ok none := by
  unfold compileTest
  simp only [Context.relational_resolve]
  cases isComparable (comparand test) test.operator with
  | false => rfl
  | true =>
    cases context.locate test.path with
    | error e => rfl
    | ok found => cases found <;> rfl

def orderAlong (context : Context) (key : String) (route : Route) : OrderTerm :=
  let e := route.expr context.root.table
  ⟨if !context.caseSensitive && route.kind.isTextual then .lower e else e, (sortKey key).2⟩

theorem compileSortKey_eq (key : String) :
    compileSortKey context key = (context.locate (sortKey key).1).bind fun found =>
      match found with
      | none => .error (.unknownAttribute context.root.name (sortKey key).1)
      | some route =>
        if route.many then .error (.unsortable context.root.name (sortKey key).1)
        else .ok (orderAlong context key route, Leg.joins context.root.table [] route.legs) := by
  unfold compileSortKey
  simp only [Context.relational_resolve]
  cases context.locate (sortKey key).1 with
  | error e => rfl
  | ok found =>
    cases found with
    | none => rfl
    | some route =>
      simp only [Except.map, Option.map_some, bind, Except.bind, Route.crossesCollection_target]
      cases route.many <;> rfl

private theorem compileFilter_atom (test : Comparison) (joins : List Join) :
    (compileFilter context (.atom test) joins).map (·.1) =
      (compileTest context test).map (Option.map (·.1)) := by
  rw [compileFilter]
  cases compileTest context test with
  | error e => rfl
  | ok made => cases made <;> rfl

theorem compileParts_cons (part : Formula) (parts : List Formula) (joins : List Join) :
    compileParts context (part :: parts) joins =
      (compileFilter context part joins).bind fun first =>
        (compileParts context parts first.2).map fun others => (first.1 :: others.1, others.2) := by
  rw [compileParts]
  cases compileFilter context part joins with
  | error e => rfl
  | ok first =>
    change (compileParts context parts first.2).bind _ = (compileParts context parts first.2).map _
    cases compileParts context parts first.2 <;> rfl

theorem compileParts_cons_ok {part : Formula} {parts : List Formula} {joins extended : List Join}
    {conditions : List (Option Condition)}
    (h : compileParts context (part :: parts) joins = .ok (conditions, extended)) :
    ∃ condition more rest, compileFilter context part joins = .ok (condition, more) ∧
      compileParts context parts more = .ok (rest, extended) ∧ conditions = condition :: rest := by
  rw [compileParts_cons] at h
  obtain ⟨first, hfirst, h⟩ := bind_eq_ok_iff.1 h
  obtain ⟨others, hothers, made⟩ := map_eq_ok_iff.1 h
  cases made
  exact ⟨first.1, first.2, others.1, hfirst, hothers, rfl⟩

theorem compileParts_of_cons {part : Formula} {parts : List Formula}
    {joins more extended : List Join} {condition : Option Condition}
    {rest : List (Option Condition)}
    (first : compileFilter context part joins = .ok (condition, more))
    (others : compileParts context parts more = .ok (rest, extended)) :
    compileParts context (part :: parts) joins = .ok (condition :: rest, extended) := by
  rw [compileParts_cons, first]
  change (compileParts context parts more).map _ = _
  rw [others]
  rfl

theorem compileFilter_of_and {parts : List Formula} {joins extended : List Join}
    {conditions : List (Option Condition)}
    (made : compileParts context parts joins = .ok (conditions, extended)) :
    compileFilter context (.group .and parts) joins = .ok (conjunction conditions, extended) := by
  rw [compileFilter, made]
  rfl

theorem compileFilter_of_or {part : Formula} {parts : List Formula} {joins extended : List Join}
    {conditions : List (Option Condition)}
    (made : compileParts context (part :: parts) joins = .ok (conditions, extended)) :
    compileFilter context (.group .or (part :: parts)) joins =
      .ok (((conditions.mapM id).map fun alternatives => (some (.join .or alternatives),
        extended)).getD (none, joins)) := by
  rw [compileFilter, List.isEmpty_cons, if_neg (by decide), made]
  simp only [bind, Except.bind]
  cases conditions.mapM id <;> rfl

/-- What a group makes of its parts' conditions and joins. A disjunction that is no restriction
leaves the joins as they were. -/
def ofParts (connective : Connective) (joins : List Join)
    (made : List (Option Condition) × List Join) :
    Option Condition × List Join :=
  match connective with
  | .and => (conjunction made.1, made.2)
  | .or => ((disjunction made.1).map fun condition => (some condition, made.2)).getD (none, joins)

theorem compileFilter_group (connective : Connective) (parts : List Formula) (joins : List Join) :
    compileFilter context (.group connective parts) joins =
      (compileParts context parts joins).map (ofParts connective joins) := by
  cases connective with
  | and =>
    rw [compileFilter]
    cases compileParts context parts joins <;> rfl
  | or =>
    cases parts with
    | nil => rfl
    | cons part parts =>
      cases made : compileParts context (part :: parts) joins with
      | error e =>
        rw [compileFilter, made]
        rfl
      | ok result =>
        obtain ⟨conditions, extended⟩ := result
        obtain ⟨first, -, rest, -, -, rfl⟩ := compileParts_cons_ok made
        rw [compileFilter_of_or made]
        change _ = Except.ok (ofParts .or joins (first :: rest, extended))
        simp only [ofParts, disjunction]
        cases (first :: rest).mapM id <;> rfl

private theorem compileParts_conditions {parts : List Formula}
    (alone : ∀ part ∈ parts, ∀ joins,
      (compileFilter context part joins).map (·.1) = restrictionOf context part)
    (joins : List Join) :
    (compileParts context parts joins).map (·.1) = parts.mapM (restrictionOf context) := by
  induction parts generalizing joins with
  | nil => rw [compileParts]; rfl
  | cons part parts ih =>
    rw [compileParts, List.mapM_cons, ← alone part (by simp) joins]
    cases compileFilter context part joins with
    | error e => rfl
    | ok first =>
      have others := ih (fun other member => alone other (List.mem_cons_of_mem part member)) first.2
      simp only [Except.map, bind, Except.bind]
      rw [← others]
      cases compileParts context parts first.2 <;> rfl

private theorem compileFilter_and {parts : List Formula} (joins : List Join) :
    (compileFilter context (.group .and parts) joins).map (·.1) =
      ((compileParts context parts joins).map (·.1)).map conjunction := by
  rw [compileFilter_group]
  cases compileParts context parts joins <;> rfl

private theorem compileFilter_or {parts : List Formula} (joins : List Join) :
    (compileFilter context (.group .or parts) joins).map (·.1) =
      ((compileParts context parts joins).map (·.1)).map disjunction := by
  rw [compileFilter_group]
  cases compileParts context parts joins with
  | error e => rfl
  | ok made =>
    simp only [Except.map, ofParts]
    cases disjunction made.1 <;> rfl

theorem compileFilter_and_ok {parts : List Formula} {joins extended : List Join}
    {condition : Option Condition}
    (h : compileFilter context (.group .and parts) joins = .ok (condition, extended)) :
    ∃ conditions, compileParts context parts joins = .ok (conditions, extended) ∧
      condition = conjunction conditions := by
  rw [compileFilter_group] at h
  obtain ⟨compiled, made, same⟩ := map_eq_ok_iff.1 h
  cases same
  exact ⟨compiled.1, made, rfl⟩

theorem compileFilter_or_ok {parts : List Formula} {joins extended : List Join}
    {condition : Option Condition}
    (h : compileFilter context (.group .or parts) joins = .ok (condition, extended)) :
    (parts = [] ∧ condition = some .never ∧ extended = joins) ∨
      (condition = none ∧ extended = joins) ∨
      ∃ alternatives, compileParts context parts joins = .ok (alternatives.map some, extended) ∧
        condition = some (.join .or alternatives) := by
  rw [compileFilter] at h
  cases parts with
  | nil =>
    cases h
    exact .inl ⟨rfl, rfl, rfl⟩
  | cons part parts =>
    cases made : compileParts context (part :: parts) joins with
    | error e => simp [made, bind, Except.bind] at h
    | ok compiled =>
      simp only [List.isEmpty_cons, Bool.false_eq_true, if_false, made, bind, Except.bind] at h
      cases restricting : compiled.1.mapM id with
      | none =>
        rw [restricting] at h
        cases h
        exact .inr (.inl ⟨rfl, rfl⟩)
      | some alternatives =>
        rw [restricting] at h
        cases h
        refine .inr (.inr ⟨alternatives, ?_, rfl⟩)
        rw [← mapM_id_eq_some restricting]

/-- The condition of a filter does not depend on the joins that were there before. -/
theorem compileFilter_condition (filter : Formula) :
    ∀ joins, (compileFilter context filter joins).map (·.1) = restrictionOf context filter := by
  induction filter using Formula.induction with
  | atom test =>
    intro joins
    rw [restrictionOf, compileFilter_atom, compileFilter_atom]
  | group connective parts ih =>
    intro joins
    cases connective with
    | and =>
      rw [restrictionOf, compileFilter_and, compileFilter_and, compileParts_conditions ih,
        compileParts_conditions ih]
    | or =>
      rw [restrictionOf, compileFilter_or, compileFilter_or, compileParts_conditions ih,
        compileParts_conditions ih]

theorem restrictionOf_atom (test : Comparison) :
    restrictionOf context (.atom test) = (compileTest context test).map (Option.map (·.1)) :=
  compileFilter_atom test []

theorem restrictionOf_and (parts : List Formula) :
    restrictionOf context (.group .and parts) =
      (parts.mapM (restrictionOf context)).map conjunction := by
  rw [restrictionOf, compileFilter_and, compileParts_conditions fun part _ =>
    compileFilter_condition part]

theorem restrictionOf_or (parts : List Formula) :
    restrictionOf context (.group .or parts) =
      (parts.mapM (restrictionOf context)).map disjunction := by
  rw [restrictionOf, compileFilter_or, compileParts_conditions fun part _ =>
    compileFilter_condition part]

theorem restrictionOf_and_ok {parts : List Formula} {condition : Option Condition}
    (h : restrictionOf context (.group .and parts) = .ok condition) :
    ∃ conditions, parts.mapM (restrictionOf context) = .ok conditions ∧
      condition = conjunction conditions := by
  rw [restrictionOf_and] at h
  cases made : parts.mapM (restrictionOf context) with
  | error e => rw [made] at h; cases h
  | ok conditions =>
    rw [made] at h
    cases h
    exact ⟨conditions, rfl, rfl⟩

theorem restrictionOf_or_ok {parts : List Formula} {condition : Option Condition}
    (h : restrictionOf context (.group .or parts) = .ok condition) :
    ∃ conditions, parts.mapM (restrictionOf context) = .ok conditions ∧
      condition = disjunction conditions := by
  rw [restrictionOf_or] at h
  cases made : parts.mapM (restrictionOf context) with
  | error e => rw [made] at h; cases h
  | ok conditions =>
    rw [made] at h
    cases h
    exact ⟨conditions, rfl, rfl⟩

theorem restrictionOf_error_iff (filter : Formula) (e : Error) :
    restrictionOf context filter = .error e ↔
      filter.tests.mapM (compileTest context) = .error e := by
  refine Formula.error_iff (fun test e => ?_) (fun connective parts e => ?_) filter e
  · rw [restrictionOf_atom]
    exact map_eq_error_iff
  · cases connective with
    | and =>
      rw [restrictionOf_and]
      exact map_eq_error_iff
    | or =>
      rw [restrictionOf_or]
      exact map_eq_error_iff

theorem exists_restriction {filter : Formula}
    (each : ∀ test ∈ filter.tests, ∃ compiled, compileTest context test = .ok compiled) :
    ∃ condition, restrictionOf context filter = .ok condition := by
  induction filter using Formula.induction with
  | atom test =>
    obtain ⟨compiled, made⟩ := each test (by simp)
    rw [restrictionOf_atom, made]
    exact ⟨_, rfl⟩
  | group connective parts ih =>
    have inside : ∀ part ∈ parts, ∃ condition, restrictionOf context part = .ok condition := by
      intro part member
      refine ih part member fun test here => each test ?_
      rw [Formula.tests_group]
      exact List.mem_flatMap.2 ⟨part, member, here⟩
    obtain ⟨conditions, made⟩ := exists_mapM_ok inside
    cases connective with
    | and =>
      rw [restrictionOf_and, made]
      exact ⟨_, rfl⟩
    | or =>
      rw [restrictionOf_or, made]
      exact ⟨_, rfl⟩

def compileOptional (context : Context) :
    Option Formula → Except Error (Option Condition × List Join)
  | some filter => compileFilter context filter []
  | none => .ok (none, [])

def planOf (context : Context) (query : Query) (identifier : Attribute)
    (filter : Option Condition × List Join) (keys : List (OrderTerm × List Join)) : Plan where
  table := context.root.table
  key := identifier.columnName
  condition := filter.1
  joins := filter.2
  sortJoins := keys.foldl (fun joins key => addJoins joins key.2) []
  orders := keys.map (·.1)
  includes := context.registry.followable context.registry.root query.includes
  page := Page.resolve query.pageOffset query.pageLimit context.paging

theorem compile_eq {identifier : Attribute}
    (identified : context.root.identifier? = some identifier) (query : Query) :
    compile context query =
      (compileOptional context query.filter).bind fun filter =>
        (query.sorts.mapM (compileSortKey context)).map
          (planOf context query identifier filter) := by
  unfold compile
  simp only [identified]
  cases query.filter with
  | none => cases query.sorts.mapM (compileSortKey context) <;> rfl
  | some filter =>
    simp only [compileOptional]
    cases compileFilter context filter [] with
    | error e => rfl
    | ok compiled => cases query.sorts.mapM (compileSortKey context) <;> rfl

theorem compile_eq_planOf {query : Query} {plan : Plan} (h : compile context query = .ok plan) :
    ∃ identifier filter keys, context.root.identifier? = some identifier ∧
      compileOptional context query.filter = .ok filter ∧
        query.sorts.mapM (compileSortKey context) = .ok keys ∧
        plan = planOf context query identifier filter keys := by
  cases identified : context.root.identifier? with
  | none =>
    unfold compile at h
    simp only [identified] at h
    cases h
  | some identifier =>
    rw [compile_eq identified] at h
    cases hfilter : compileOptional context query.filter with
    | error e => rw [hfilter] at h; cases h
    | ok filter =>
      cases hsorts : query.sorts.mapM (compileSortKey context) with
      | error e => rw [hfilter, hsorts] at h; cases h
      | ok keys =>
        rw [hfilter, hsorts] at h
        cases h
        exact ⟨identifier, filter, keys, rfl, rfl, rfl, rfl⟩

theorem compile_eq_ok {query : Query} {plan : Plan} (h : compile context query = .ok plan) :
    compileOptional context query.filter = .ok (plan.condition, plan.joins) ∧
      plan.table = context.root.table ∧
      ∀ filter compiled, compileOptional context filter = .ok compiled →
        ∃ other, compile context { query with filter := filter } = .ok other ∧
          other.condition = compiled.1 := by
  obtain ⟨identifier, compiled, keys, identified, hfilter, hsorts, rfl⟩ := compile_eq_planOf h
  refine ⟨hfilter, rfl, ?_⟩
  intro filter other hother
  refine ⟨planOf context { query with filter := filter } identifier other keys, ?_, rfl⟩
  rw [compile_eq identified]
  simp only [hother, hsorts]
  rfl

end FilterQuery.Relational
