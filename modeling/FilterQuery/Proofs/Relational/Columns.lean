import FilterQuery.Proofs.Relational.Routes
import FilterQuery.Proofs.Sql.Blocks

set_option autoImplicit false
set_option relaxedAutoImplicit false

/-!
The columns of a plan. The condition reads the columns of the comparisons that it asks, in their
order, and the order terms read those of the sort keys. Each is the column at the end of its own
route.
-/

namespace FilterQuery.Relational

open FilterQuery.Filter (Comparison Formula)
open FilterQuery.Sql (Condition Expr Join OrderTerm)

def endColumn (table : String) (route : Route) : String × String :=
  (Leg.rowLabel table route.legs, route.ending.columnName)

private theorem source_textUnder (e : Expr) (keys : List String) :
    (Route.textUnder e keys).source = e.source := by
  induction keys generalizing e with
  | nil => rfl
  | cons key keys ih =>
    cases keys with
    | nil => rfl
    | cons next keys => exact ih (.document e key)

private theorem source_expr (table : String) (route : Route) :
    (route.expr table).source = endColumn table route :=
  source_textUnder _ route.keys

private theorem source_textual (e : Expr) (kind : Scalar.Kind) :
    (textual e kind).source = e.source := by
  unfold textual
  split <;> rfl

variable {context : Context}

private theorem columns_conditionOf (operator : Filter.Operator) (value : Option String) (e : Expr)
    (kind : Scalar.Kind) :
    (conditionOf context operator value e kind).columns = [e.source] ∨
      conditionOf context operator value e kind = .never := by
  unfold conditionOf
  split
  · exact .inl rfl
  · exact .inl rfl
  · exact .inl (congrArg (fun column => [column]) (source_textual e kind))
  · exact .inl (congrArg (fun column => [column]) (source_textual e kind))
  · split
    · split <;> exact .inl rfl
    · split
      · exact .inl rfl
      · exact .inr rfl

def columnsOf (context : Context) (test : Comparison) : List (String × String) :=
  (routeOf? context test).elim [] fun route => (conditionAlong context test route).columns

theorem mem_columnsOf {test : Comparison} {column : String × String}
    (member : column ∈ columnsOf context test) :
    ∃ route, routeOf? context test = some route ∧ column = endColumn context.root.table route := by
  unfold columnsOf at member
  cases found : routeOf? context test with
  | none =>
    rw [found] at member
    cases member
  | some route =>
    rw [found, Option.elim_some] at member
    refine ⟨route, rfl, ?_⟩
    unfold conditionAlong at member
    rcases columns_conditionOf test.operator (comparand test) (route.expr context.root.table)
      route.kind with read | never
    · rw [read, List.mem_singleton, source_expr] at member
      exact member
    · rw [never] at member
      cases member

def columnsIn (condition : Option Condition) : List (String × String) :=
  condition.elim [] (·.columns)

private theorem columnsIn_conjunction (conditions : List (Option Condition)) :
    columnsIn (conjunction conditions) = conditions.flatMap columnsIn := by
  have parts : (conditions.filterMap id).flatMap (·.columns) = conditions.flatMap columnsIn := by
    induction conditions with
    | nil => rfl
    | cons c conditions ih => cases c <;> simp [columnsIn, ← ih]
  unfold conjunction
  split
  · rename_i empty
    rw [← parts, List.isEmpty_iff.1 empty]
    rfl
  · rw [← parts]
    exact Sql.columns_join .and _

private theorem columnsIn_disjunction {conditions : List (Option Condition)}
    (restricting : none ∉ conditions) :
    columnsIn (disjunction conditions) = conditions.flatMap columnsIn := by
  cases conditions with
  | nil => rfl
  | cons first rest =>
    have opened : disjunction (first :: rest) = ((first :: rest).mapM id).map (.join .or) := rfl
    rw [opened]
    cases made : (first :: rest).mapM id with
    | none => exact absurd (mapM_id_eq_none.1 made) restricting
    | some alternatives =>
      rw [mapM_id_eq_some made, Option.map_some, List.flatMap_map]
      exact Sql.columns_join .or _

private theorem columns_restrictionOf (filter : Formula) :
    ∀ condition, restrictionOf context filter = .ok condition →
      columnsIn condition = (filter.remaining (isDropped context)).flatMap (columnsOf context) := by
  induction filter using Formula.induction with
  | atom test =>
    intro condition h
    rw [restrictionOf_atom_ok h, Formula.remaining]
    unfold isDropped columnsOf
    cases found : routeOf? context test <;> simp [columnsIn, found]
  | group connective parts ih =>
    intro condition h
    have flat : ∀ conditions, parts.mapM (restrictionOf context) = .ok conditions →
        conditions.flatMap columnsIn =
          (parts.flatMap (·.remaining (isDropped context))).flatMap (columnsOf context) := by
      intro conditions made
      have pairs := forall₂_of_mapM made ih
      clear made h
      induction pairs with
      | nil => rfl
      | cons first rest ihs =>
        rw [List.flatMap_cons, List.flatMap_cons, List.flatMap_append, first,
          ihs fun part member => ih part (List.mem_cons_of_mem _ member)]
    have dropped := restrictionOf_eq_none_iff _ condition h
    cases connective with
    | and =>
      obtain ⟨conditions, made, rfl⟩ := restrictionOf_and_ok h
      rw [columnsIn_conjunction, flat conditions made, Formula.remaining_and]
    | or =>
      obtain ⟨conditions, made, rfl⟩ := restrictionOf_or_ok h
      rw [Formula.remaining_or]
      -- with one part dropped the whole disjunction is, and the columns of the others are not read
      by_cases missing : none ∈ conditions
      · have none_left := disjunction_eq_none.2 missing
        rw [none_left, if_pos (dropped.1 none_left)]
        rfl
      · rw [columnsIn_disjunction missing, flat conditions made, if_neg]
        exact fun holds => missing (disjunction_eq_none.1 (dropped.2 holds))

private theorem columns_compileOptional {filter : Option Formula}
    {compiled : Option Condition × List Join} (h : compileOptional context filter = .ok compiled) :
    columnsIn compiled.1 = (filter.elim [] (·.remaining (isDropped context))).flatMap
      (columnsOf context) := by
  cases filter with
  | none =>
    cases h
    rfl
  | some filter => exact columns_restrictionOf filter _ (restrictionOf_of_compileFilter h)

private theorem columns_orders {sorts : List String} {keys : List (OrderTerm × List Join)}
    (pairs : List.Forall₂ (fun key compiled =>
      compileSortKey context key = .ok compiled) sorts keys) :
    keys.map (·.1.expr.source) = (sorts.filterMap (routeOfSort? context)).map
      (endColumn context.root.table) := by
  induction pairs with
  | nil => rfl
  | cons first rest ih =>
    obtain ⟨route, located, _, _, ordered⟩ := compileSortKey_ok first
    have read : ∀ e : Expr, e = route.expr context.root.table ∨
        e = .lower (route.expr context.root.table) →
        e.source = endColumn context.root.table route := by
      rintro e (rfl | rfl)
      · exact source_expr _ route
      · exact source_expr _ route
    rw [List.map_cons, ih, List.filterMap_cons_some located, List.map_cons, read _ ordered]

theorem compile_columns {query : Query} {plan : Plan}
    (compiled : compile context query = .ok plan) :
    columnsIn plan.condition = (asked context query).flatMap (columnsOf context) ∧
      plan.orders.map (·.expr.source) =
        (sortRoutes context query).map (endColumn context.root.table) := by
  obtain ⟨identifier, filter, keys, _, hfilter, hsorts, rfl⟩ := compile_eq_planOf compiled
  refine ⟨columns_compileOptional hfilter, ?_⟩
  change (keys.map (·.1)).map (·.expr.source) = _
  rw [List.map_map]
  exact columns_orders (mapM_eq_ok_iff.1 hsorts)

end FilterQuery.Relational
