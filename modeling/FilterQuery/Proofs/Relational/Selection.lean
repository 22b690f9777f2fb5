import FilterQuery.Proofs.Path.Rows
import FilterQuery.Proofs.Relational.Restriction

set_option autoImplicit false
set_option relaxedAutoImplicit false

/-!
The rows that a plan selects. Its condition is true of a row joined to others exactly if the filter
has the value true, where each comparison is asked of the rows that stand there. The joins of the
plan are those of the ways that its condition reads, so a row is selected exactly if rows can be
chosen along all the filter's ways to make the filter true.
-/

namespace FilterQuery.Relational

open FilterQuery.Filter (Comparison Connective Formula)
open FilterQuery.Relational.Path (addJoins)
open FilterQuery.Scalar (Kind)
open FilterQuery.Sql (Assigns Condition Database Engine Expr Join Row Scope mem_scopes scopes)

/-- A row is selected if there is no condition, or the condition is true in one of the scopes that
the joins make of it. -/
def Plan.Selects (engine : Engine) (db : Database) (plan : Plan) (row : Row) : Prop :=
  match plan.condition with
  | none => True
  | some c =>
    ∃ scope ∈ scopes db plan.joins (Scope.root plan.table row), c.eval engine scope = some true

def routeOf? (context : Context) (test : Comparison) : Option Route :=
  if isComparable (comparand test) test.operator then
    match context.locate test.path with
    | .ok found => found
    | .error _ => none
  else none

/-- The routes of the comparisons in a filter. -/
def routes (context : Context) (filter : Formula) : List Route :=
  filter.tests.filterMap (routeOf? context)

def conditionAlong (context : Context) (test : Comparison) (route : Route) : Condition :=
  conditionOf context test.operator (comparand test) (route.expr context.root.table) route.kind

/-- Whether a comparison is true in a scope; one that is not made is. -/
def holdsIn (engine : Engine) (context : Context) (scope : Scope) (test : Comparison) : Bool :=
  match routeOf? context test with
  | none => true
  | some route => (conditionAlong context test route).eval engine scope == some true

variable {context : Context} {engine : Engine} {scope other : Scope}

theorem mem_routes {filter : Formula} {test : Comparison} {route : Route}
    (member : test ∈ filter.tests) (made : routeOf? context test = some route) :
    route ∈ routes context filter :=
  List.mem_filterMap.2 ⟨test, member, made⟩

theorem routes_part {connective : Connective} {parts : List Formula} {part : Formula}
    (member : part ∈ parts) :
    ∀ r ∈ routes context part, r ∈ routes context (.group connective parts) := by
  intro r inside
  obtain ⟨test, htest, made⟩ := List.mem_filterMap.1 inside
  refine mem_routes ?_ made
  rw [Formula.tests_group]
  exact List.mem_flatMap.2 ⟨part, member, htest⟩

theorem routes_atom {filter : Formula} {test : Comparison} (member : test ∈ filter.tests) :
    ∀ r ∈ routes context (.atom test), r ∈ routes context filter := by
  intro r inside
  obtain ⟨other, htest, made⟩ := List.mem_filterMap.1 inside
  rw [Formula.tests_atom, List.mem_singleton] at htest
  subst htest
  exact mem_routes member made

theorem compileTest_made {test : Comparison} {made : Option (Condition × List Join)}
    (h : compileTest context test = .ok made) :
    made = (routeOf? context test).map fun route =>
      (conditionAlong context test route, Leg.joins context.root.table [] route.legs) := by
  rw [compileTest_eq] at h
  unfold routeOf?
  cases comparable : isComparable (comparand test) test.operator with
  | false =>
    rw [comparable] at h
    cases h
    rfl
  | true =>
    rw [comparable] at h
    simp only [if_true] at h ⊢
    cases located : context.locate test.path with
    | error e => rw [located] at h; cases h
    | ok found =>
      rw [located] at h
      cases h
      rfl

theorem restrictionOf_atom_ok {test : Comparison} {condition : Option Condition}
    (h : restrictionOf context (.atom test) = .ok condition) :
    condition = (routeOf? context test).map (conditionAlong context test) := by
  rw [restrictionOf_atom] at h
  cases made : compileTest context test with
  | error e => rw [made] at h; cases h
  | ok compiled =>
    rw [made, compileTest_made made] at h
    cases h
    rw [Option.map_map]
    rfl

theorem compileFilter_atom_ok {test : Comparison} {joins extended : List Join}
    {condition : Option Condition}
    (h : compileFilter context (.atom test) joins = .ok (condition, extended)) :
    condition = (routeOf? context test).map (conditionAlong context test) ∧
      extended = ((routeOf? context test).map fun route =>
        addJoins joins (Leg.joins context.root.table [] route.legs)).getD joins := by
  rw [compileFilter] at h
  cases compiled : compileTest context test with
  | error e => rw [compiled] at h; cases h
  | ok made =>
    rw [compiled, compileTest_made compiled] at h
    cases found : routeOf? context test with
    | none =>
      rw [found] at h
      cases h
      exact ⟨rfl, rfl⟩
    | some route =>
      rw [found] at h
      cases h
      exact ⟨rfl, rfl⟩

def Admits (engine : Engine) (scope : Scope) (condition : Option Condition) : Prop :=
  ∀ c, condition = some c → c.eval engine scope = some true

private theorem admits_none : Admits engine scope none := by
  intro c made
  cases made

private theorem admits_conjunction (conditions : List (Option Condition)) :
    Admits engine scope (conjunction conditions) ↔ ∀ c ∈ conditions, Admits engine scope c := by
  have inside : ∀ c, c ∈ conditions.filterMap id ↔ some c ∈ conditions := by simp
  unfold conjunction
  by_cases empty : (conditions.filterMap id).isEmpty
  · rw [if_pos empty]
    refine ⟨?_, fun _ => admits_none⟩
    intro _ condition member c made
    rw [made, ← inside, List.isEmpty_iff.1 empty] at member
    cases member
  · rw [if_neg empty]
    have joined : Admits engine scope (some (.join .and (conditions.filterMap id))) ↔
        ∀ c ∈ conditions.filterMap id, c.eval engine scope = some true := by
      rw [← Sql.eval_and, ← Sql.eval_join]
      exact ⟨fun admits => admits _ rfl, fun holds _ made => Option.some.inj made ▸ holds⟩
    rw [joined]
    constructor
    · rintro all condition member c rfl
      exact all c ((inside c).2 member)
    · intro all c member
      exact all _ ((inside c).1 member) c rfl

private theorem admits_disjunction (conditions : List (Option Condition)) :
    Admits engine scope (disjunction conditions) ↔ ∃ c ∈ conditions, Admits engine scope c := by
  cases conditions with
  | nil =>
    constructor
    · intro admits
      have never := admits _ rfl
      simp [Condition.eval] at never
    · rintro ⟨c, member, _⟩
      cases member
  | cons first rest =>
    have opened : disjunction (first :: rest) = ((first :: rest).mapM id).map (.join .or) := rfl
    rw [opened]
    cases made : (first :: rest).mapM id with
    | none =>
      rw [Option.map_none]
      exact ⟨fun _ => ⟨none, mapM_id_eq_none.1 made, admits_none⟩, fun _ => admits_none⟩
    | some alternatives =>
      have joined : Admits engine scope (some (.join .or alternatives)) ↔
          ∃ c ∈ alternatives, c.eval engine scope = some true := by
        rw [← Sql.eval_or, ← Sql.eval_join]
        exact ⟨fun admits => admits _ rfl, fun holds _ same => Option.some.inj same ▸ holds⟩
      rw [Option.map_some, joined, mapM_id_eq_some made]
      constructor
      · rintro ⟨c, member, holds⟩
        exact ⟨some c, List.mem_map.2 ⟨c, member, rfl⟩, fun d same => Option.some.inj same ▸ holds⟩
      · rintro ⟨condition, member, admits⟩
        obtain ⟨c, inside, rfl⟩ := List.mem_map.1 member
        exact ⟨c, inside, admits c rfl⟩

/-- The condition of a filter is true in a scope exactly if the filter is, asked of the rows
there. -/
theorem admits_restrictionOf (filter : Formula) :
    ∀ condition, restrictionOf context filter = .ok condition →
      (Admits engine scope condition ↔ filter.value (holdsIn engine context scope) = true) := by
  induction filter using Formula.induction with
  | atom test =>
    intro condition h
    rw [restrictionOf_atom_ok h, Formula.value_atom, holdsIn]
    cases routeOf? context test with
    | none => exact ⟨fun _ => rfl, fun _ => admits_none⟩
    | some route => simp [Admits]
  | group connective parts ih =>
    intro condition h
    have each : ∀ conditions, parts.mapM (restrictionOf context) = .ok conditions →
        List.Forall₂ (fun part c => Admits engine scope c ↔
          part.value (holdsIn engine context scope) = true)
          parts conditions :=
      fun conditions made => forall₂_of_mapM made ih
    cases connective with
    | and =>
      obtain ⟨conditions, made, rfl⟩ := restrictionOf_and_ok h
      rw [admits_conjunction, forall_mem_iff_of_forall₂ (each conditions made), Formula.value_and,
        List.all_eq_true]
    | or =>
      obtain ⟨conditions, made, rfl⟩ := restrictionOf_or_ok h
      rw [admits_disjunction, exists_mem_iff_of_forall₂ (each conditions made), Formula.value_or,
        List.any_eq_true]

private theorem eval_textUnder_congr {e : Expr} (same : e.eval engine scope = e.eval engine other)
    (keys : List String) :
    (Route.textUnder e keys).eval engine scope = (Route.textUnder e keys).eval engine other := by
  induction keys generalizing e with
  | nil => exact same
  | cons key keys ih =>
    cases keys with
    | nil => simp only [Route.textUnder, Expr.eval, same]
    | cons next keys =>
      refine ih ?_
      simp only [Expr.eval, same]

private theorem eval_textual_congr {e : Expr} (same : e.eval engine scope = e.eval engine other)
    (kind : Kind) :
    (textual e kind).eval engine scope = (textual e kind).eval engine other := by
  unfold textual
  cases kind.isTextual with
  | true => exact same
  | false => simp [Expr.eval, same]

private theorem eval_conditionOf_congr {e : Expr} (same : e.eval engine scope = e.eval engine other)
    (operator : Filter.Operator) (value : Option String) (kind : Kind) :
    (conditionOf context operator value e kind).eval engine scope =
      (conditionOf context operator value e kind).eval engine other := by
  have text := eval_textual_congr same kind
  unfold conditionOf
  split
  · simp only [Condition.eval, same]
  · simp only [Condition.eval, same]
  · simp only [Condition.eval, text]
  · simp only [Condition.eval, Expr.eval, text]
  · split
    · split <;> simp only [Condition.eval, same]
    · split <;> simp only [Condition.eval, same]

private theorem eval_conditionAlong_congr {route : Route} (test : Comparison)
    (same : scope (Leg.rowLabel context.root.table route.legs) =
      other (Leg.rowLabel context.root.table route.legs)) :
    (conditionAlong context test route).eval engine scope =
      (conditionAlong context test route).eval engine other := by
  refine eval_conditionOf_congr (eval_textUnder_congr ?_ route.keys) _ _ _
  simp only [Expr.eval, same]

theorem holdsIn_congr {test : Comparison}
    (same : ∀ route, routeOf? context test = some route →
      scope (Leg.rowLabel context.root.table route.legs) =
        other (Leg.rowLabel context.root.table route.legs)) :
    holdsIn engine context scope test = holdsIn engine context other test := by
  unfold holdsIn
  cases made : routeOf? context test with
  | none => rfl
  | some route => simp only [eval_conditionAlong_congr test (same route made)]

/-- A condition whose truth depends on no rows but those of a table and those under the labels of
joins. -/
def ReadsFrom (engine : Engine) (table : String) (joins : List Join) (c : Condition) : Prop :=
  ∀ scope other : Scope, (∀ label, label = table ∨ label ∈ joins.map (·.label) →
    scope label = other label) →
    (c.eval engine scope = some true ↔ c.eval engine other = some true)

theorem ReadsFrom.mono {table : String} {joins more : List Join} {c : Condition}
    (reads : ReadsFrom engine table joins c) (grown : joins <+: more) :
    ReadsFrom engine table more c := by
  intro scope other same
  refine reads scope other fun label known => same label ?_
  rcases known with start | member
  · exact .inl start
  · exact .inr ((grown.map _).subset member)

private theorem readsFrom_join {table : String} {joins : List Join} {conditions : List Condition}
    (each : ∀ c ∈ conditions, ReadsFrom engine table joins c) (connective : Connective) :
    ReadsFrom engine table joins (.join connective conditions) := by
  intro scope other same
  rw [Sql.eval_join, Sql.eval_join]
  cases connective with
  | and =>
    rw [Sql.eval_and, Sql.eval_and]
    exact forall₂_congr fun c member => each c member scope other same
  | or =>
    rw [Sql.eval_or, Sql.eval_or]
    exact exists_congr fun c => and_congr_right fun member => each c member scope other same

/-- Compiling a filter after the joins of some ways adds those of the ways that its condition
reads. -/
def LaysOut (engine : Engine) (context : Context) (all : List Route) (filter : Formula) : Prop :=
  ∀ joins condition extended, Layout context.root.table all joins →
    compileFilter context filter joins = .ok (condition, extended) →
      Layout context.root.table all extended ∧ joins <+: extended ∧
        ∀ c, condition = some c → ReadsFrom engine context.root.table extended c

variable {all : List Route}

theorem laysOut_atom (aliased : Aliased context.root.table all) {test : Comparison}
    (inside : ∀ r ∈ routes context (.atom test), r ∈ all) :
    LaysOut engine context all (.atom test) := by
  intro joins condition extended layout h
  obtain ⟨rfl, rfl⟩ := compileFilter_atom_ok h
  cases found : routeOf? context test with
  | none => exact ⟨layout, List.prefix_rfl, fun c present => by cases present⟩
  | some route =>
    have reached : Reaches all route.legs :=
      ⟨route, inside route (mem_routes (by simp) found), List.prefix_rfl⟩
    have whole : Reaches all ([] ++ route.legs) := reached
    obtain ⟨laid, grown, _⟩ := Layout.addJoins aliased layout whole (.inl (Leg.rowLabel_nil _))
    refine ⟨laid, grown, ?_⟩
    intro c present scope other same
    cases present
    rw [eval_conditionAlong_congr test (same _ (layout.label_of_addJoins aliased reached))]

theorem compileParts_laysOut {parts : List Formula}
    (each : ∀ part ∈ parts, LaysOut engine context all part) :
    ∀ joins conditions extended, Layout context.root.table all joins →
      compileParts context parts joins = .ok (conditions, extended) →
        Layout context.root.table all extended ∧ joins <+: extended ∧
          ∀ condition ∈ conditions, ∀ c, condition = some c →
            ReadsFrom engine context.root.table extended c := by
  induction parts with
  | nil =>
    intro joins conditions extended layout h
    rw [compileParts] at h
    cases h
    exact ⟨layout, List.prefix_rfl, fun condition member => by cases member⟩
  | cons part parts ih =>
    intro joins conditions extended layout h
    obtain ⟨first, more, rest, hfirst, hrest, rfl⟩ := compileParts_cons_ok h
    obtain ⟨laid, grown, reads⟩ := each part (by simp) joins first more layout hfirst
    obtain ⟨laid', grown', reads'⟩ :=
      ih (fun other member => each other (List.mem_cons_of_mem part member)) more rest
        extended laid hrest
    refine ⟨laid', grown.trans grown', ?_⟩
    intro condition member c made
    rcases List.mem_cons.1 member with rfl | member
    · exact (reads c made).mono grown'
    · exact reads' condition member c made

theorem laysOut (aliased : Aliased context.root.table all) (filter : Formula) :
    (∀ r ∈ routes context filter, r ∈ all) → LaysOut engine context all filter := by
  induction filter using Formula.induction with
  | atom test => exact laysOut_atom aliased
  | group connective parts ih =>
    intro inside joins condition extended layout h
    have each : ∀ part ∈ parts, LaysOut engine context all part :=
      fun part member => ih part member fun r reached => inside r (routes_part member r reached)
    cases connective with
    | and =>
      obtain ⟨conditions, made, rfl⟩ := compileFilter_and_ok h
      obtain ⟨laid, grown, reads⟩ := compileParts_laysOut each joins conditions extended layout made
      refine ⟨laid, grown, ?_⟩
      intro c present
      unfold conjunction at present
      split at present
      · cases present
      · cases present
        refine readsFrom_join (fun d member => ?_) .and
        obtain ⟨condition, hcondition, same⟩ := List.mem_filterMap.1 member
        exact reads condition hcondition d same
    | or =>
      rcases compileFilter_or_ok h with ⟨-, rfl, rfl⟩ | ⟨rfl, rfl⟩ | ⟨alternatives, made, rfl⟩
      · refine ⟨layout, List.prefix_rfl, ?_⟩
        intro c present scope other _
        cases present
        simp [Condition.eval]
      · exact ⟨layout, List.prefix_rfl, fun c present => by cases present⟩
      · obtain ⟨laid, grown, reads⟩ := compileParts_laysOut each joins _ extended layout made
        refine ⟨laid, grown, ?_⟩
        intro c present
        cases present
        refine readsFrom_join (fun d member => ?_) .or
        exact reads (some d) (List.mem_map.2 ⟨d, member, rfl⟩) d rfl

/-- The joins of a filter make a scope in which its condition is true exactly if rows can be chosen
along all of the filter's ways so that the filter is true. -/
theorem exists_scope_iff {filter : Formula}
    (aliased : Aliased context.root.table (routes context filter)) {condition : Option Condition}
    {joins : List Join} (compiled : compileFilter context filter [] = .ok (condition, joins))
    (db : Database) (row : Row) :
    (∃ scope ∈ scopes db joins (Scope.root context.root.table row), Admits engine scope condition) ↔
      ∃ scope : Scope, scope context.root.table = row ∧
        Follows db context.root.table (routes context filter) scope ∧
        filter.value (holdsIn engine context scope) = true := by
  have whole : LaysOut engine context (routes context filter) filter :=
    laysOut aliased filter fun _ member => member
  obtain ⟨layout, _, reads⟩ := whole [] condition joins layout_nil compiled
  have alone : restrictionOf context filter = .ok condition := by rw [restrictionOf, compiled]; rfl
  have admits : ∀ scope other : Scope,
      (∀ label, label = context.root.table ∨ label ∈ joins.map (·.label) →
        scope label = other label) →
        Admits engine scope condition → Admits engine other condition :=
    fun scope other same holds c made => (reads c made scope other same).1 (holds c made)
  rw [layout.exists_scope_iff aliased admits]
  refine exists_congr fun scope => and_congr_right fun _ => and_congr_right fun _ => ?_
  exact admits_restrictionOf filter condition alone

end FilterQuery.Relational
