import FilterQuery.Proofs.Relational.Routes
import Mathlib.Data.List.Nodup

set_option autoImplicit false
set_option relaxedAutoImplicit false

/-!
Which joins a filter leaves behind. A comparison uses the joins of the relations on its path if it
compiles to a condition and no disjunction around it compiles to none. The filter adds these joins
in the order of their first use, and none else.
-/

namespace FilterQuery.Relational

open FilterQuery.Filter (Comparison Formula)
open FilterQuery.Relational.Path (addJoins)
open FilterQuery.Sql (Condition Join)

/-- No two different joins have one label. -/
def LabelledOnce (joins : List Join) : Prop :=
  ∀ i ∈ joins, ∀ j ∈ joins, i.label = j.label → i = j

instance (joins : List Join) : Decidable (LabelledOnce joins) :=
  inferInstanceAs (Decidable (∀ i ∈ joins, ∀ j ∈ joins, i.label = j.label → i = j))

section Adding

variable {joins others : List Join}

theorem LabelledOnce.mono (once : LabelledOnce joins) (fewer : ∀ j ∈ others, j ∈ joins) :
    LabelledOnce others :=
  fun i hi j hj => once i (fewer i hi) j (fewer j hj)

/-- Where labels tell joins apart, adding joins appends those that are not there yet, each at its
first place. -/
theorem addJoins_eq_append (once : LabelledOnce (joins ++ others)) :
    addJoins joins others = joins ++ (others.removeAll joins).eraseDups := by
  induction others generalizing joins with
  | nil => simp [addJoins, List.removeAll]
  | cons j others ih =>
    have later : ∀ i ∈ joins ++ others, i ∈ joins ++ j :: others := by
      intro i member
      rw [List.mem_append, List.mem_cons]
      exact (List.mem_append.1 member).imp id .inr
    rw [addJoins_cons, List.cons_removeAll]
    by_cases member : j ∈ joins
    · have old : j.label ∈ joins.map (·.label) := List.mem_map.2 ⟨j, member, rfl⟩
      rw [addJoin_of_old old, if_neg (by simpa using member)]
      exact ih (once.mono later)
    · have new : j.label ∉ joins.map (·.label) := by
        intro old
        obtain ⟨i, inside, same⟩ := List.mem_map.1 old
        have one : i = j := once i (by simp [inside]) j (by simp) same
        exact member (one ▸ inside)
      have rest : others.removeAll (joins ++ [j]) = (others.removeAll joins).filter fun i =>
          !i == j := by
        unfold List.removeAll
        rw [List.filter_filter]
        refine List.filter_congr fun i _ => ?_
        by_cases same : i = j <;> simp [same]
      rw [addJoin_of_new new, if_pos (by simpa using member), List.eraseDups_cons, ih, rest,
        List.append_assoc, List.singleton_append]
      exact once.mono (by simp)

private theorem addJoins_nil_eq_iff : addJoins [] joins = joins.eraseDups ↔ LabelledOnce joins := by
  constructor
  · intro whole i hi j hj same
    have distinct : (joins.eraseDups.map (·.label)).Nodup := by
      rw [← whole]
      exact nodup_addJoins List.nodup_nil
    exact List.inj_on_of_nodup_map distinct (List.mem_eraseDups.2 hi) (List.mem_eraseDups.2 hj) same
  · intro once
    have appended := @addJoins_eq_append [] joins once
    simpa [List.removeAll] using appended

end Adding

variable {context : Context}

def restricts (context : Context) (filter : Formula) : Bool :=
  match restrictionOf context filter with
  | .ok (some _) => true
  | _ => false

mutual

/-- The comparisons that compile to a condition and stand in no disjunction that compiles to none,
from left to right. -/
def restricting (context : Context) : Formula → List Comparison
  | .atom test => if restricts context (.atom test) then [test] else []
  | .group .and parts => restrictingOfAll context parts
  | .group .or parts =>
    if restricts context (.group .or parts) then restrictingOfAll context parts else []

def restrictingOfAll (context : Context) : List Formula → List Comparison
  | [] => []
  | part :: parts => restricting context part ++ restrictingOfAll context parts

end

def pathJoins (context : Context) (test : Comparison) : List Join :=
  match context.locate test.path with
  | .ok (some route) => Leg.joins context.root.table [] route.legs
  | _ => []

/-- The joins that a filter uses, as often as it uses them. -/
def usedJoins (context : Context) (filter : Formula) : List Join :=
  (restricting context filter).flatMap (pathJoins context)

private theorem restricts_eq {filter : Formula} {condition : Option Condition}
    (h : restrictionOf context filter = .ok condition) :
    restricts context filter = !filter.value (isDropped context) := by
  have dropped := restrictionOf_eq_none_iff filter condition h
  unfold restricts
  rw [h]
  cases condition with
  | none => rw [dropped.1 rfl]; rfl
  | some c =>
    cases value : filter.value (isDropped context) with
    | false => rfl
    | true => cases dropped.2 value

private theorem restrictingOfAll_eq (parts : List Formula) :
    restrictingOfAll context parts = parts.flatMap (restricting context) := by
  induction parts with
  | nil => rfl
  | cons part parts ih => rw [restrictingOfAll, ih, List.flatMap_cons]

private theorem restricting_eq (filter : Formula) :
    ∀ condition, restrictionOf context filter = .ok condition →
      restricting context filter = filter.remaining (isDropped context) := by
  induction filter using Formula.induction with
  | atom test =>
    intro condition h
    rw [restricting, Formula.remaining, restricts_eq h, Formula.value_atom]
    cases isDropped context test <;> rfl
  | group connective parts ih =>
    intro condition h
    have each : ∀ conditions, parts.mapM (restrictionOf context) = .ok conditions →
        parts.flatMap (restricting context) = parts.flatMap (·.remaining (isDropped context)) := by
      intro conditions made
      have pairs := forall₂_of_mapM made ih
      clear made h
      induction pairs with
      | nil => rfl
      | cons first rest ihs =>
        rw [List.flatMap_cons, List.flatMap_cons, first, ihs fun part member =>
          ih part (List.mem_cons_of_mem _ member)]
    cases connective with
    | and =>
      obtain ⟨conditions, made, _⟩ := restrictionOf_and_ok h
      rw [restricting, restrictingOfAll_eq, each conditions made, Formula.remaining_and]
    | or =>
      obtain ⟨conditions, made, _⟩ := restrictionOf_or_ok h
      rw [restricting, restrictingOfAll_eq, each conditions made, Formula.remaining_or,
        restricts_eq h]
      cases (Formula.group .or parts).value (isDropped context) <;> rfl

private theorem pathJoins_of_route {test : Comparison} {route : Route}
    (found : routeOf? context test = some route) :
    pathJoins context test = Leg.joins context.root.table [] route.legs := by
  unfold pathJoins
  rw [locate_of_routeOf? found]

private theorem flatMap_pathJoins {tests : List Comparison}
    (kept : ∀ test ∈ tests, isDropped context test = false) :
    tests.flatMap (pathJoins context) =
      joinsOf context.root.table (tests.filterMap (routeOf? context)) := by
  induction tests with
  | nil => rfl
  | cons test tests ih =>
    have others := ih fun other member => kept other (List.mem_cons_of_mem test member)
    have here : isDropped context test = false := kept test (by simp)
    unfold isDropped at here
    obtain ⟨route, found⟩ := Option.isSome_iff_exists.1 (Option.isNone_eq_false_iff.1 here)
    rw [List.flatMap_cons, others, List.filterMap_cons_some found, pathJoins_of_route found]
    rfl

private theorem usedJoins_eq {filter : Formula} {condition : Option Condition}
    (h : restrictionOf context filter = .ok condition) :
    usedJoins context filter = joinsOf context.root.table (keptRoutes context filter) := by
  unfold usedJoins keptRoutes
  rw [restricting_eq filter condition h]
  exact flatMap_pathJoins filter.dropped_of_remaining

private theorem compileFilter_joins {filter : Formula} {joins extended : List Join}
    {condition : Option Condition}
    (h : compileFilter context filter joins = .ok (condition, extended)) :
    extended = addJoins joins (usedJoins context filter) := by
  rw [usedJoins_eq (restrictionOf_of_compileFilter h)]
  exact addsJoins filter joins condition extended h

private theorem usedJoins_eq_nil {filter : Formula} (h : restrictionOf context filter = .ok none) :
    usedJoins context filter = [] := by
  have dropped := (restrictionOf_eq_none_iff filter none h).1 rfl
  unfold usedJoins
  rw [restricting_eq filter none h, filter.remaining_eq_nil dropped]
  rfl

/-- Compiling a filter to no restriction leaves the joins as they were. If labels tell the joins
apart, it appends the joins that the filter uses and that are not there yet, in the order of their
first use. The joins of a plan are those that its filter uses, in this order and each once, exactly
if labels tell these apart. -/
theorem joins_in_first_use (context : Context) :
    (∀ filter joins extended, compileFilter context filter joins = .ok (none, extended) →
      extended = joins) ∧
      (∀ filter joins condition extended, compileFilter context filter joins =
        .ok (condition, extended) →
        LabelledOnce (joins ++ usedJoins context filter) →
          extended = joins ++ ((usedJoins context filter).removeAll joins).eraseDups) ∧
        ∀ query plan, compile context query = .ok plan →
          (plan.condition = none → plan.joins = []) ∧
            (plan.joins = (query.filter.elim [] (usedJoins context)).eraseDups ↔
              LabelledOnce (query.filter.elim [] (usedJoins context))) := by
  have frame : ∀ filter joins extended, compileFilter context filter joins = .ok (none, extended) →
      extended = joins := by
    intro filter joins extended h
    rw [compileFilter_joins h, usedJoins_eq_nil (restrictionOf_of_compileFilter h)]
    rfl
  refine ⟨frame, ?_, ?_⟩
  · intro filter joins condition extended h once
    rw [compileFilter_joins h, addJoins_eq_append once]
  · intro query plan compiled
    obtain ⟨made, _, _⟩ := compile_eq_ok compiled
    cases given : query.filter with
    | none =>
      rw [given] at made
      have empty : plan.joins = [] := (Prod.mk.inj (Except.ok.inj made)).2.symm
      rw [empty]
      exact ⟨fun _ => rfl, @addJoins_nil_eq_iff []⟩
    | some filter =>
      rw [given] at made
      refine ⟨fun missing => ?_, ?_⟩
      · rw [missing] at made
        exact frame filter [] plan.joins made
      · rw [Option.elim_some, compileFilter_joins made]
        exact addJoins_nil_eq_iff

/-- Asks for the title of a sibling, and for that of the parent or a child. The first disjunction
has a part that is no restriction, so the grandparent is not asked. -/
def relatives : Formula :=
  .group .and [
    .group .or [.atom ⟨"parent.parent.title", .eq, some "A"⟩, .atom ⟨"title", .gt, some "B"⟩],
    .atom ⟨"parent.nodes.title", .eq, some "C"⟩,
    .group .or [.atom ⟨"parent.title", .eq, some "D"⟩, .atom ⟨"nodes.title", .eq, some "E"⟩]]

def relativesPlan : Plan :=
  planOfNodes (.group .and [.equal (.column "parent__nodes" "title") (.text "C"),
    .group .or [.equal (.column "parent" "title") (.text "D"),
      .equal (.column "nodes" "title") (.text "E")]])
    [⟨"nodes", "parent", "nodes", "parent_id", "id", false⟩,
      ⟨"nodes", "parent__nodes", "parent", "id", "parent_id", true⟩,
      ⟨"nodes", "nodes", "nodes", "id", "parent_id", true⟩]

private theorem routeOf?_grandparent :
    routeOf? Tree.context ⟨"parent.parent.title", .eq, some "A"⟩ =
      some (Tree.toTitle [Tree.toParent, Tree.toParent]) := by
  have parent : Tree.Goes "parent" Tree.toParent := Tree.goes_toParent (by simp [Tree.foldings])
  exact routeOf?_title (by decide +kernel) (.cons parent (.cons parent .nil)) (by decide)

private theorem routeOf?_sibling : routeOf? Tree.context ⟨"parent.nodes.title", .eq, some "C"⟩ =
    some (Tree.toTitle [Tree.toParent, Tree.toNodes]) := by
  have parent : Tree.Goes "parent" Tree.toParent := Tree.goes_toParent (by simp [Tree.foldings])
  have child : Tree.Goes "nodes" Tree.toNodes := Tree.goes_toNodes (by simp [Tree.foldings])
  exact routeOf?_title (by decide +kernel) (.cons parent (.cons child .nil)) (by decide)

private theorem routeOf?_parent : routeOf? Tree.context ⟨"parent.title", .eq, some "D"⟩ =
    some (Tree.toTitle [Tree.toParent]) := by
  have parent : Tree.Goes "parent" Tree.toParent := Tree.goes_toParent (by simp [Tree.foldings])
  exact routeOf?_title (by decide +kernel) (.cons parent .nil) (by decide)

private theorem routeOf?_child :
    routeOf? Tree.context ⟨"nodes.title", .eq, some "E"⟩ = some (Tree.toTitle [Tree.toNodes]) := by
  have child : Tree.Goes "nodes" Tree.toNodes := Tree.goes_toNodes (by simp [Tree.foldings])
  exact routeOf?_title (by decide +kernel) (.cons child .nil) (by decide)

private theorem routeOf?_later : routeOf? Tree.context ⟨"title", .gt, some "B"⟩ = none := by
  unfold routeOf?
  rw [if_neg (by decide)]

private theorem compileFilter_relatives :
    compileFilter Tree.context relatives [] =
      .ok (relativesPlan.condition, relativesPlan.joins) := by
  have later : ∀ joins, compileFilter Tree.context (.atom ⟨"title", .gt, some "B"⟩) joins =
      .ok (none, joins) := by
    intro joins
    rw [compileFilter, compileTest_eq, if_neg (by decide)]
    rfl
  have nothing : ∀ joins, compileParts Tree.context [] joins = .ok ([], joins) := by
    intro joins
    rw [compileParts]
    rfl
  have unmade :=
    compileFilter_of_or (compileParts_of_cons (compileFilter_of_route routeOf?_grandparent [])
      (compileParts_of_cons (later _) (nothing _)))
  have either :=
    fun joins => compileFilter_of_or
      (compileParts_of_cons (compileFilter_of_route routeOf?_parent joins)
      (compileParts_of_cons (compileFilter_of_route routeOf?_child _) (nothing _)))
  have all := compileFilter_of_and (compileParts_of_cons unmade
    (compileParts_of_cons (compileFilter_of_route routeOf?_sibling _)
      (compileParts_of_cons (either _) (nothing _))))
  exact all.trans (by rfl)

private theorem usedJoins_relatives : usedJoins Tree.context relatives = joinsOf "nodes"
    [Tree.toTitle [Tree.toParent, Tree.toNodes], Tree.toTitle [Tree.toParent],
      Tree.toTitle [Tree.toNodes]] := by
  rw [usedJoins_eq (restrictionOf_of_compileFilter compileFilter_relatives)]
  simp only [relatives, keptRoutes_and, keptRoutes_or, keptRoutes_atom, isDropped,
    routeOf?_grandparent, routeOf?_later, routeOf?_sibling, routeOf?_parent, routeOf?_child,
      Formula.value_or, Formula.value_atom,
    List.any_cons, List.any_nil, List.flatMap_cons, List.flatMap_nil, Option.isNone_some,
      Option.isNone_none,
    Bool.or_self, Bool.or_false, Bool.or_true, Bool.false_eq_true, if_true, if_false]
  rfl

private theorem compile_relatives :
    compile Tree.context { Query.empty with filter := some relatives } = .ok relativesPlan := by
  rw [compile_eq Tree.identified]
  simp only [compileOptional, compileFilter_relatives]
  rfl

/-- The parent is used twice and stands once, and the grandparent is left out. -/
theorem relatives_in_first_use :
    compile Tree.context { Query.empty with filter := some relatives } = .ok relativesPlan ∧
      (usedJoins Tree.context relatives).map (·.label) =
        ["parent", "parent__nodes", "parent", "nodes"] ∧
        LabelledOnce (usedJoins Tree.context relatives) ∧
          relativesPlan.joins = (usedJoins Tree.context relatives).eraseDups := by
  have once : LabelledOnce (usedJoins Tree.context relatives) := by
    rw [usedJoins_relatives]
    decide +kernel
  obtain ⟨_, _, queries⟩ := joins_in_first_use Tree.context
  -- the query stays a variable here, so that its joins are not computed
  have order : ∀ query plan, compile Tree.context query = .ok plan → query.filter = some relatives →
      plan.joins = (usedJoins Tree.context relatives).eraseDups := by
    intro query plan compiled given
    have inOrder := (queries query plan compiled).2
    rw [given, Option.elim_some] at inOrder
    exact inOrder.2 once
  exact ⟨compile_relatives,
    by rw [usedJoins_relatives]; decide +kernel, once, order _ _ compile_relatives rfl⟩

end FilterQuery.Relational
