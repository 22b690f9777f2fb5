import FilterQuery.Proofs.Relational.Selection

set_option autoImplicit false
set_option relaxedAutoImplicit false

/-!
Choosing rows for each comparison apart. Where the parts of no conjunction go over one collection
together, rows that make the comparisons of a filter true one by one can be exchanged for rows that
make the filter true at once: what two parts share are relations to one, and these leave no choice.
-/

namespace FilterQuery

open FilterQuery.Sql (Database Row Scope)

def Apart (routes others : List Route) : Prop :=
  ∀ way, Reaches routes way → Reaches others way → ∀ leg ∈ way, leg.link.collection = false

instance (routes others : List Route) : Decidable (Apart routes others) :=
  decidable_of_iff (∀ way ∈ ways routes, way ∈ ways others →
    ∀ leg ∈ way, leg.link.collection = false)
    ⟨fun h way hr ho => h way (reaches_iff.1 hr) (reaches_iff.1 ho),
      fun h way hr ho => h way (reaches_iff.2 hr) (reaches_iff.2 ho)⟩

def Single (db : Database) (row : Row) (routes : List Route) : Prop :=
  ∀ way, Reaches routes way → (∀ leg ∈ way, leg.link.collection = false) →
    ∃ last, Leg.rowsAlong db way row = [last]

variable {db : Database} {table : String} {row : Row} {first second : List Route}

private theorem Follows.row_mem_of_reaches (aliased : Aliased table first) {scope : Scope}
    (follows : Follows db table first scope) {way : List Leg} (reached : Reaches first way) :
    scope (Leg.rowLabel table way) ∈ Leg.rowsAlong db way (scope table) := by
  obtain ⟨route, member, start⟩ := reached
  let shorter : Route := { route with legs := way }
  have fewer : ∀ other, Reaches [shorter] other → Reaches first other := by
    rintro other ⟨r, inside, start'⟩
    rw [List.mem_singleton.1 inside] at start'
    exact ⟨route, member, start'.trans start⟩
  have alone : Aliased table [shorter] := fun p q hp hq => aliased p q (fewer p hp) (fewer q hq)
  have alongWay : Follows db table [shorter] scope :=
    fun taken leg reached => follows taken leg (fewer _ reached)
  exact alongWay.row_mem alone

private theorem eq_of_shared {one two : Scope} (aliased : Aliased table (first ++ second))
    (single : Single db row first) (apart : Apart first second)
    (hfirst : Follows db table first one) (hsecond : Follows db table second two)
    (rootOne : one table = row) (rootTwo : two table = row) {way : List Leg}
    (inFirst : Reaches first way) (inSecond : Reaches second way) :
    one (Leg.rowLabel table way) = two (Leg.rowLabel table way) := by
  obtain ⟨last, only⟩ := single way inFirst (apart way inFirst inSecond)
  have hone := hfirst.row_mem_of_reaches
    (fun p q hp hq => aliased p q (hp.mono (by simp +contextual))
      (hq.mono (by simp +contextual))) inFirst
  have htwo := hsecond.row_mem_of_reaches
    (fun p q hp hq => aliased p q (hp.mono (by simp +contextual))
      (hq.mono (by simp +contextual))) inSecond
  rw [rootOne, only, List.mem_singleton] at hone
  rw [rootTwo, only, List.mem_singleton] at htwo
  rw [hone, htwo]

end FilterQuery

namespace FilterQuery.Relational

open FilterQuery.Filter (Comparison Connective Formula)
open FilterQuery.Sql (Database Engine Row Scope)

/-- No two parts of any conjunction in a filter go over one collection together. -/
inductive Separate (context : Context) : Formula → Prop
  | atom (test : Comparison) : Separate context (.atom test)
  | and {parts : List Formula}
      (apart : parts.Pairwise fun part other => Apart (routes context part) (routes context other))
      (each : ∀ part ∈ parts, Separate context part) : Separate context (.group .and parts)
  | or {parts : List Formula} (each : ∀ part ∈ parts, Separate context part) :
      Separate context (.group .or parts)

variable {context : Context} {engine : Engine} {db : Database} {row : Row} {all : List Route}
  {truth : Comparison → Bool}

private theorem routes_group (connective : Connective) (parts : List Formula) :
    routes context (.group connective parts) = parts.flatMap (routes context) := by
  unfold routes
  rw [Formula.tests_group, List.filterMap_flatMap]

theorem value_holdsIn_congr {filter : Formula} {scope other : Scope}
    (same : ∀ way, Reaches (routes context filter) way →
      scope (Leg.rowLabel context.root.table way) = other (Leg.rowLabel context.root.table way)) :
    filter.value (holdsIn engine context scope) = filter.value (holdsIn engine context other) := by
  refine filter.value_congr fun test member => holdsIn_congr fun route made => same _ ?_
  exact ⟨route, mem_routes member made, List.prefix_rfl⟩

def Satisfiable (engine : Engine) (context : Context) (db : Database) (row : Row)
    (filter : Formula) : Prop :=
  ∃ scope : Scope, scope context.root.table = row ∧
    Follows db context.root.table (routes context filter) scope ∧
    filter.value (holdsIn engine context scope) = true

private theorem satisfiable_or (aliased : Aliased context.root.table all) {parts : List Formula}
    (inside : ∀ r ∈ routes context (.group .or parts), r ∈ all) {part : Formula}
    (member : part ∈ parts) (satisfiable : Satisfiable engine context db row part) :
    Satisfiable engine context db row (.group .or parts) := by
  obtain ⟨scope, root, follows, holds⟩ := satisfiable
  obtain ⟨result, wide, root', same⟩ :=
    follows.extend aliased fun r reached => inside r (routes_part member r reached)
  refine ⟨result, root'.trans root, wide.mono inside, ?_⟩
  rw [Formula.value_or, List.any_eq_true]
  refine ⟨part, member, ?_⟩
  rw [value_holdsIn_congr same]
  exact holds

private theorem satisfiable_and (aliased : Aliased context.root.table all)
    (single : Single db row all) :
    ∀ {parts : List Formula}, (∀ r ∈ routes context (.group .and parts), r ∈ all) →
      parts.Pairwise (fun part other => Apart (routes context part) (routes context other)) →
      (∀ part ∈ parts, Satisfiable engine context db row part) →
        Satisfiable engine context db row (.group .and parts) := by
  intro parts
  induction parts with
  | nil =>
    intro _ _ _
    refine ⟨Scope.root context.root.table row, Scope.root_table _ row, ?_, by simp⟩
    rintro taken leg ⟨route, member, _⟩
    cases member
  | cons part parts ih =>
    intro inside apart each
    rw [List.pairwise_cons] at apart
    have split : routes context (.group .and (part :: parts)) =
        routes context part ++ routes context (.group .and parts) := by
      rw [routes_group, routes_group, List.flatMap_cons]
    rw [split] at inside
    have here : ∀ r ∈ routes context part, r ∈ all :=
      fun r member => inside r (List.mem_append_left _ member)
    have there : ∀ r ∈ routes context (.group .and parts), r ∈ all :=
      fun r member => inside r (List.mem_append_right _ member)
    obtain ⟨one, rootOne, followsOne, holdsOne⟩ := each part (by simp)
    obtain ⟨two, rootTwo, followsTwo, holdsTwo⟩ :=
      ih there apart.2 fun other member => each other (List.mem_cons_of_mem part member)
    have distinct :
        Aliased context.root.table (routes context part ++ routes context (.group .and parts)) :=
      fun p q hp hq => aliased p q (hp.mono inside) (hq.mono inside)
    have together : Apart (routes context part) (routes context (.group .and parts)) := by
      rintro way reached ⟨route, member, start⟩
      rw [routes_group] at member
      obtain ⟨other, inOthers, inOther⟩ := List.mem_flatMap.1 member
      exact apart.1 other inOthers way reached ⟨route, inOther, start⟩
    have only : Single db row (routes context part) :=
      fun way reached => single way (reached.mono here)
    obtain ⟨scope, follows, root, onFirst, onSecond⟩ :=
      followsOne.combine distinct followsTwo (rootOne.trans rootTwo.symm)
        fun way inFirst inSecond =>
        eq_of_shared distinct only together followsOne followsTwo rootOne rootTwo inFirst inSecond
    refine ⟨scope, root.trans rootOne, by rwa [split], ?_⟩
    rw [Formula.value_and, List.all_cons, Bool.and_eq_true]
    constructor
    · rw [value_holdsIn_congr onFirst]
      exact holdsOne
    · rw [← Formula.value_and, value_holdsIn_congr onSecond]
      exact holdsTwo

/-- A filter that is true where each comparison has rows of its own is true of rows chosen for all
of them. -/
theorem satisfiable_of_each (aliased : Aliased context.root.table all) (single : Single db row all)
    {filter : Formula} (separate : Separate context filter) :
    (∀ r ∈ routes context filter, r ∈ all) →
      (∀ test ∈ filter.tests, truth test = true → Satisfiable engine context db row (.atom test)) →
        filter.value truth = true → Satisfiable engine context db row filter := by
  induction separate with
  | atom test =>
    intro _ each holds
    exact each test (by simp) (by simpa using holds)
  | @and parts apart _ ih =>
    intro inside each holds
    rw [Formula.value_and, List.all_eq_true] at holds
    refine satisfiable_and aliased single inside apart fun part member => ?_
    refine ih part member (fun r reached => inside r (routes_part member r reached))
      (fun test htest => ?_)
      (holds part member)
    refine each test ?_
    rw [Formula.tests_group]
    exact List.mem_flatMap.2 ⟨part, member, htest⟩
  | @or parts _ ih =>
    intro inside each holds
    rw [Formula.value_or, List.any_eq_true] at holds
    obtain ⟨part, member, true_⟩ := holds
    refine satisfiable_or aliased inside member ?_
    refine ih part member (fun r reached => inside r (routes_part member r reached))
      (fun test htest => ?_) true_
    refine each test ?_
    rw [Formula.tests_group]
    exact List.mem_flatMap.2 ⟨part, member, htest⟩

end FilterQuery.Relational
