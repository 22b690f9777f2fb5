import FilterQuery.Proofs.Path.Way
import FilterQuery.Proofs.Relational.Joins
import FilterQuery.Proofs.Relational.Selection

set_option autoImplicit false
set_option relaxedAutoImplicit false

/-!
The routes of a query. Compiling adds the joins of one route after the other: those of the
comparisons that the condition asks, and those of the sort keys. A comparison that is dropped, or
stands in a disjunction that is, adds none.
-/

namespace FilterQuery.Relational

open FilterQuery.Filter (Comparison Formula)
open FilterQuery.Relational.Path (addJoins crossesCollection)
open FilterQuery.Sql (Condition Join OrderTerm)

variable {context : Context}

def isDropped (context : Context) (test : Comparison) : Bool :=
  (routeOf? context test).isNone

/-- The routes of the comparisons that the condition of a filter asks. -/
def keptRoutes (context : Context) (filter : Formula) : List Route :=
  (filter.remaining (isDropped context)).filterMap (routeOf? context)

theorem keptRoutes_atom (test : Comparison) :
    keptRoutes context (.atom test) = (routeOf? context test).toList := by
  unfold keptRoutes isDropped
  rw [Formula.remaining]
  cases found : routeOf? context test <;> simp [found]

theorem keptRoutes_and (parts : List Formula) :
    keptRoutes context (.group .and parts) = parts.flatMap (keptRoutes context) := by
  unfold keptRoutes
  rw [Formula.remaining_and, List.filterMap_flatMap]

theorem keptRoutes_or (parts : List Formula) :
    keptRoutes context (.group .or parts) =
      if (Formula.group .or parts).value (isDropped context) then []
        else parts.flatMap (keptRoutes context) := by
  unfold keptRoutes
  rw [Formula.remaining_or, ← List.filterMap_flatMap]
  split <;> rfl

/-- A filter is no restriction exactly if it holds with its dropped comparisons true and all others
false. -/
theorem restrictionOf_eq_none_iff (filter : Formula) :
    ∀ condition, restrictionOf context filter = .ok condition →
      (condition = none ↔ filter.value (isDropped context) = true) := by
  induction filter using Formula.induction with
  | atom test =>
    intro condition h
    rw [restrictionOf_atom_ok h, Formula.value_atom, isDropped]
    cases routeOf? context test <;> simp
  | group connective parts ih =>
    intro condition h
    have each : ∀ conditions, parts.mapM (restrictionOf context) = .ok conditions →
        List.Forall₂ (fun part c => c = none ↔
          part.value (isDropped context) = true) parts conditions :=
      fun conditions made => forall₂_of_mapM made ih
    cases connective with
    | and =>
      obtain ⟨conditions, made, rfl⟩ := restrictionOf_and_ok h
      rw [conjunction_eq_none, forall_mem_iff_of_forall₂ (each conditions made), Formula.value_and,
        List.all_eq_true]
    | or =>
      obtain ⟨conditions, made, rfl⟩ := restrictionOf_or_ok h
      have missing : none ∈ conditions ↔ ∃ c ∈ conditions, c = none := by simp
      rw [disjunction_eq_none, missing, exists_mem_iff_of_forall₂ (each conditions made),
        Formula.value_or, List.any_eq_true]

def AddsJoins (context : Context) (filter : Formula) : Prop :=
  ∀ joins condition extended, compileFilter context filter joins = .ok (condition, extended) →
    extended = addJoins joins (joinsOf context.root.table (keptRoutes context filter))

private theorem compileParts_joins {parts : List Formula}
    (each : ∀ part ∈ parts, AddsJoins context part) :
    ∀ joins conditions extended, compileParts context parts joins = .ok (conditions, extended) →
      extended =
        addJoins joins (joinsOf context.root.table (parts.flatMap (keptRoutes context))) := by
  induction parts with
  | nil =>
    intro joins conditions extended h
    rw [compileParts] at h
    cases h
    rfl
  | cons part parts ih =>
    intro joins conditions extended h
    obtain ⟨first, more, rest, hfirst, hrest, rfl⟩ := compileParts_cons_ok h
    have others :=
      ih (fun other member => each other (List.mem_cons_of_mem part member)) more rest
        extended hrest
    rw [others, each part (by simp) joins first more hfirst, List.flatMap_cons, joinsOf_append,
      addJoins_append]

theorem restrictionOf_of_compileFilter {filter : Formula} {joins extended : List Join}
    {condition : Option Condition}
    (h : compileFilter context filter joins = .ok (condition, extended)) :
    restrictionOf context filter = .ok condition := by
  rw [← compileFilter_condition filter joins, h]
  rfl

theorem addsJoins (filter : Formula) : AddsJoins context filter := by
  induction filter using Formula.induction with
  | atom test =>
    intro joins condition extended h
    obtain ⟨_, rfl⟩ := compileFilter_atom_ok h
    rw [keptRoutes_atom]
    cases routeOf? context test with
    | none => rfl
    | some route => simp [joinsOf]
  | group connective parts ih =>
    intro joins condition extended h
    cases connective with
    | and =>
      obtain ⟨conditions, made, _⟩ := compileFilter_and_ok h
      rw [keptRoutes_and]
      exact compileParts_joins ih joins conditions extended made
    | or =>
      have dropped := restrictionOf_eq_none_iff _ _ (restrictionOf_of_compileFilter h)
      rw [keptRoutes_or]
      -- a disjunction that is no restriction gives back the joins from before its parts
      rcases compileFilter_or_ok h with ⟨rfl, rfl, rfl⟩ | ⟨rfl, rfl⟩ | ⟨alternatives, made, rfl⟩
      · simp [joinsOf, addJoins]
      · rw [if_pos (dropped.1 rfl)]
        rfl
      · rw [if_neg fun holds => by cases dropped.2 holds]
        exact compileParts_joins ih joins _ extended made

def filterRoutes (context : Context) (query : Query) : List Route :=
  query.filter.elim [] (keptRoutes context)

def asked (context : Context) (query : Query) : List Comparison :=
  query.filter.elim [] (·.remaining (isDropped context))

theorem filterRoutes_eq (query : Query) :
    filterRoutes context query = (asked context query).filterMap (routeOf? context) := by
  unfold filterRoutes asked
  cases query.filter <;> rfl

def routeOfSort? (context : Context) (key : String) : Option Route :=
  match context.locate (sortKey key).1 with
  | .ok found => found
  | .error _ => none

def sortRoutes (context : Context) (query : Query) : List Route :=
  query.sorts.filterMap (routeOfSort? context)

/-- The routes of a query: those that its condition reads, and those of its sort keys. -/
def queryRoutes (context : Context) (query : Query) : List Route :=
  filterRoutes context query ++ sortRoutes context query

theorem locate_of_routeOf? {test : Comparison} {route : Route}
    (found : routeOf? context test = some route) :
    context.locate test.path = .ok (some route) := by
  unfold routeOf? at found
  split at found
  · split at found
    · rename_i located
      rw [located, found]
    · cases found
  · cases found

private theorem locate_of_routeOfSort? {key : String} {route : Route}
    (found : routeOfSort? context key = some route) :
    context.locate (sortKey key).1 = .ok (some route) := by
  unfold routeOfSort? at found
  split at found
  · rename_i located
    rw [located, found]
  · cases found

theorem way_of_reaches {query : Query} {way : List Leg}
    (reached : Reaches (queryRoutes context query) way) :
    Way context.schema context.registry context.root way := by
  obtain ⟨route, member, start⟩ := reached
  have located : ∃ path, context.locate path = .ok (some route) := by
    rcases List.mem_append.1 member with member | member
    · rw [filterRoutes_eq] at member
      obtain ⟨test, _, found⟩ := List.mem_filterMap.1 member
      exact ⟨test.path, locate_of_routeOf? found⟩
    · obtain ⟨key, _, found⟩ := List.mem_filterMap.1 member
      exact ⟨(sortKey key).1, locate_of_routeOfSort? found⟩
  obtain ⟨path, found⟩ := located
  have whole := Context.way_of_locate found
  exact whole.of_prefix start

theorem compileSortKey_ok {key : String} {term : OrderTerm} {joins : List Join}
    (h : compileSortKey context key = .ok (term, joins)) :
    ∃ route, routeOfSort? context key = some route ∧ route.many = false ∧
      joins = Leg.joins context.root.table [] route.legs ∧
        (term.expr = route.expr context.root.table ∨
          term.expr = .lower (route.expr context.root.table)) := by
  rw [compileSortKey_eq] at h
  unfold routeOfSort?
  cases located : context.locate (sortKey key).1 with
  | error e => rw [located] at h; cases h
  | ok found =>
    rw [located] at h
    cases found with
    | none => cases h
    | some route =>
      cases many : route.many with
      | true => simp [many, Except.bind] at h
      | false =>
        simp only [many, Except.bind, Bool.false_eq_true, if_false] at h
        cases h
        refine ⟨route, rfl, many, rfl, ?_⟩
        unfold orderAlong
        dsimp only
        split
        · exact .inr rfl
        · exact .inl rfl

theorem compileSortKey_of_route {key : String} {route : Route}
    (located : context.locate (sortKey key).1 = .ok (some route)) (single : route.many = false) :
    compileSortKey context key = .ok (orderAlong context key route,
      Leg.joins context.root.table [] route.legs) := by
  rw [compileSortKey_eq, located]
  exact if_neg (by rw [single]; exact Bool.false_ne_true)

private theorem joins_of_sortKeys {sorts : List String} {keys : List (OrderTerm × List Join)}
    (pairs : List.Forall₂ (fun key compiled =>
      compileSortKey context key = .ok compiled) sorts keys) :
    keys.flatMap (·.2) = joinsOf context.root.table (sorts.filterMap (routeOfSort? context)) := by
  induction pairs with
  | nil => rfl
  | cons first rest ih =>
    obtain ⟨route, located, _, joins, _⟩ := compileSortKey_ok first
    rw [List.flatMap_cons, ih, List.filterMap_cons_some located, joins]
    rfl

private theorem single_of_sortKeys {sorts : List String} {keys : List (OrderTerm × List Join)}
    (pairs : List.Forall₂ (fun key compiled =>
      compileSortKey context key = .ok compiled) sorts keys) :
    ∀ route ∈ sorts.filterMap (routeOfSort? context), route.many = false := by
  induction pairs with
  | nil => exact fun _ member => by cases member
  | cons first rest ih =>
    obtain ⟨route, located, single, _⟩ := compileSortKey_ok first
    rw [List.filterMap_cons_some located, List.forall_mem_cons]
    exact ⟨single, ih⟩

private theorem joins_of_compileOptional {filter : Option Formula}
    {compiled : Option Condition × List Join} (h : compileOptional context filter = .ok compiled) :
    compiled.2 =
      addJoins [] (joinsOf context.root.table (filter.elim [] (keptRoutes context))) := by
  cases filter with
  | none =>
    cases h
    rfl
  | some filter => exact addsJoins filter [] compiled.1 compiled.2 h

theorem compile_joins {query : Query} {plan : Plan} (compiled : compile context query = .ok plan) :
    plan.joins = addJoins [] (joinsOf context.root.table (filterRoutes context query)) ∧
      plan.sortJoins = addJoins [] (joinsOf context.root.table (sortRoutes context query)) := by
  obtain ⟨identifier, filter, keys, _, hfilter, hsorts, rfl⟩ := compile_eq_planOf compiled
  refine ⟨joins_of_compileOptional hfilter, ?_⟩
  change keys.foldl (fun joins key => addJoins joins key.2) [] = _
  unfold sortRoutes
  rw [← joins_of_sortKeys (mapM_eq_ok_iff.1 hsorts)]
  unfold addJoins
  rw [List.foldl_flatMap]

/-- The joins of a plan span the routes that its condition reads, and those of its sort keys. -/
theorem compile_spans {query : Query} {plan : Plan} (compiled : compile context query = .ok plan) :
    Spans context.root.table (filterRoutes context query) plan.joins ∧
      Spans context.root.table (sortRoutes context query) plan.sortJoins := by
  obtain ⟨forFilter, forSorts⟩ := compile_joins compiled
  rw [forFilter, forSorts]
  exact ⟨spans_joinsOf _ _, spans_joinsOf _ _⟩

theorem sortJoins_toOne {query : Query} {plan : Plan}
    (compiled : compile context query = .ok plan) :
    ∀ j ∈ plan.sortJoins, j.collection = false := by
  intro j member
  obtain ⟨_, forSorts⟩ := compile_spans compiled
  obtain ⟨_, _, keys, _, _, sorted, _⟩ := compile_eq_planOf compiled
  obtain ⟨route, inside, here⟩ := List.mem_flatMap.1 (forSorts.within j member)
  have single : crossesCollection (Leg.joins context.root.table [] route.legs) = false := by
    rw [crossesCollection_joins]
    exact single_of_sortKeys (mapM_eq_ok_iff.1 sorted) route inside
  simpa using List.any_eq_false.1 single j here

theorem toSelect_spans {query : Query} {plan : Plan} (compiled : compile context query = .ok plan)
    (direct : plan.needsSubquery = false) :
    Spans context.root.table (queryRoutes context query) plan.toSelect.joins := by
  obtain ⟨forFilter, forSorts⟩ := compile_spans compiled
  have all : addJoins [] plan.joins = plan.joins := addJoins_of_new forFilter.distinct
  have merged : plan.toSelect.joins = addJoins plan.joins plan.sortJoins := by
    unfold Plan.toSelect Plan.apply
    rw [direct, all]
    rfl
  rw [merged]
  exact forFilter.append forSorts

def meetingAll (tests : List Comparison) : Query :=
  { Query.empty with filter := some (.group .and (tests.map .atom)) }

private theorem compileTest_of_route {test : Comparison} {route : Route}
    (found : routeOf? context test = some route) :
    compileTest context test =
      .ok (some (conditionAlong context test route,
        Leg.joins context.root.table [] route.legs)) := by
  have comparable : isComparable (comparand test) test.operator = true := by
    by_contra incomparable
    unfold routeOf? at found
    rw [if_neg incomparable] at found
    cases found
  rw [compileTest_eq, if_pos comparable, locate_of_routeOf? found]
  rfl

theorem compileFilter_of_route {test : Comparison} {route : Route}
    (found : routeOf? context test = some route) (joins : List Join) :
    compileFilter context (.atom test) joins =
      .ok (some (conditionAlong context test route),
        addJoins joins (Leg.joins context.root.table [] route.legs)) := by
  rw [compileFilter, compileTest_of_route found]
  rfl

section Meeting

variable {tests : List Comparison} {found : List Route}

private theorem compileParts_of_routes
    (made : List.Forall₂ (fun test route => routeOf? context test = some route) tests found)
    (joins : List Join) :
    compileParts context (tests.map .atom) joins =
      .ok ((List.zipWith (conditionAlong context) tests found).map some,
        addJoins joins (joinsOf context.root.table found)) := by
  induction made generalizing joins with
  | nil =>
    rw [List.map_nil, compileParts]
    rfl
  | @cons test route tests found first rest ih =>
    have all : joinsOf context.root.table (route :: found) =
        Leg.joins context.root.table [] route.legs ++ joinsOf context.root.table found := rfl
    rw [List.map_cons, compileParts_of_cons (compileFilter_of_route first joins) (ih _), all,
      addJoins_append]
    rfl

theorem compile_meetingAll_by {identifier : Attribute}
    (identified : context.root.identifier? = some identifier)
    (made : List.Forall₂ (fun test route => routeOf? context test = some route) tests found)
    {sorts : List String} {keys : List (OrderTerm × List Join)}
    (sorted : sorts.mapM (compileSortKey context) = .ok keys) :
    compile context { meetingAll tests with sorts := sorts } =
      .ok (planOf context { meetingAll tests with sorts := sorts } identifier
        (conjunction ((List.zipWith (conditionAlong context) tests found).map some),
          addJoins [] (joinsOf context.root.table found)) keys) := by
  have filter : compileOptional context (meetingAll tests).filter =
      .ok (conjunction ((List.zipWith (conditionAlong context) tests found).map some),
        addJoins [] (joinsOf context.root.table found)) := by
    change compileFilter context (.group .and (tests.map .atom)) [] = _
    rw [compileFilter, compileParts_of_routes made]
    rfl
  rw [compile_eq identified, filter]
  simp only [sorted]
  rfl

theorem compile_meetingAll {identifier : Attribute}
    (identified : context.root.identifier? = some identifier)
    (made : List.Forall₂ (fun test route => routeOf? context test = some route) tests found) :
    compile context (meetingAll tests) =
      .ok (planOf context (meetingAll tests) identifier
        (conjunction ((List.zipWith (conditionAlong context) tests found).map some),
          addJoins [] (joinsOf context.root.table found)) []) :=
  compile_meetingAll_by identified made rfl

theorem queryRoutes_meetingAll
    (made : List.Forall₂ (fun test route => routeOf? context test = some route) tests found) :
    queryRoutes context (meetingAll tests) = found := by
  have kept : keptRoutes context (.group .and (tests.map .atom)) = found := by
    rw [keptRoutes_and]
    induction made with
    | nil => rfl
    | cons first rest ih => rw [List.map_cons, List.flatMap_cons, keptRoutes_atom, first, ih]; rfl
  have none_sorted : queryRoutes context (meetingAll tests) =
    keptRoutes context (.group .and (tests.map .atom)) ++ [] := rfl
  rw [none_sorted, kept, List.append_nil]

end Meeting

def planOfNodes (condition : Condition) (joins : List Join) : Plan where
  table := "nodes"
  key := "id"
  condition := some condition
  joins := joins
  sortJoins := []
  orders := []
  includes := []
  page := ⟨0, 20⟩

theorem routeOf?_title {path value : String} {names : List String} {legs : List Leg}
    (split : Text.Split.segments '.' path = names ++ ["title"])
    (along : List.Forall₂ Tree.Goes names legs) (valued : value ≠ nullWord) :
    routeOf? Tree.context ⟨path, .eq, some value⟩ = some (Tree.toTitle legs) := by
  have compared : comparand ⟨path, .eq, some value⟩ = some value := by simp [comparand, valued]
  unfold routeOf?
  rw [Tree.locate_title split along]
  simp [compared, isComparable]

end FilterQuery.Relational
