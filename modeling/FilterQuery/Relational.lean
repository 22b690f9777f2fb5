import FilterQuery.Context
import FilterQuery.Like
import FilterQuery.Relational.Path

set_option autoImplicit false
set_option relaxedAutoImplicit false

/-!
Queries compiled to a selection. A comparison that cannot be made, for its operator or its path, is
no restriction: it drops out of a conjunction and makes a disjunction hold always.
-/

namespace FilterQuery.Relational

open FilterQuery.Filter (Comparison Formula Operator)
open FilterQuery.Relational.Path
open FilterQuery.Scalar (Kind)
open FilterQuery.Sql (Columns Condition Expr Join OrderTerm Select)

/-- A compiled query over the rows of one table. -/
structure Plan where
  table : String
  key : String
  condition : Option Condition
  joins : List Join
  sortJoins : List Join
  orders : List OrderTerm
  includes : List String
  page : Page

/-- An expression whose text is compared, cast unless it is text already. -/
def textual (e : Expr) (kind : Kind) : Expr :=
  if kind.isTextual then e else .castText e

def pattern (raw : String) : String :=
  String.ofList (Like.terminated raw.toList)

/-- Whether a comparison can be made: with null by three operators, with a value by four. -/
def isComparable (value : Option String) (operator : Operator) : Bool :=
  match value with
  | none => operator = .eq || operator = .like || operator = .ne
  | some _ => operator = .eq || operator = .ne || operator = .like || operator = .ilike

/-- The condition of a comparison that can be made. A value that does not coerce equals nothing and
differs from every value. -/
def conditionOf (context : Context) (operator : Operator) (value : Option String) (e : Expr)
    (kind : Kind) :
    Condition :=
  match value, operator with
  | none, .ne => .isNotNull e
  | none, _ => .isNull e
  | some raw, .like => .like (textual e kind) (pattern raw)
  | some raw, .ilike => .like (.lower (textual e kind)) (pattern (Text.Lowercase.lowercase raw))
  | some raw, operator =>
    match context.coerce raw kind with
    | some v => if operator = .ne then .notEqual e v else .equal e v
    | none => if operator = .ne then .isNotNull e else .never

/-- The condition of a comparison and the joins it needs, `none` where it is no restriction. -/
def compileTest (context : Context) (test : Comparison) :
    Except Error (Option (Condition × List Join)) := do
  let value := comparand test
  if !isComparable value test.operator then return none
  match ← resolve context.schema context.registry context.root test.path with
  | none => return none
  | some target =>
    return some (conditionOf context test.operator value target.expr target.kind, target.joins)

mutual

/-- The condition of a filter, `none` where it is no restriction, and the joins with those that it
needs. -/
def compileFilter (context : Context) :
    Formula → List Join → Except Error (Option Condition × List Join)
  | .atom test, joins => do
    match ← compileTest context test with
    | none => return (none, joins)
    | some (condition, needed) => return (some condition, addJoins joins needed)
  | .group .and parts, joins => do
    let (conditions, joins) ← compileParts context parts joins
    let restrictions := conditions.filterMap id
    return (if restrictions.isEmpty then none else some (.join .and restrictions), joins)
  | .group .or parts, joins => do
    if parts.isEmpty then return (some .never, joins)
    let (conditions, extended) ← compileParts context parts joins
    match conditions.mapM id with
    | some alternatives => return (some (.join .or alternatives), extended)
    | none => return (none, joins)

def compileParts (context : Context) :
    List Formula → List Join → Except Error (List (Option Condition) × List Join)
  | [], joins => return ([], joins)
  | part :: parts, joins => do
    let (condition, joins) ← compileFilter context part joins
    let (conditions, joins) ← compileParts context parts joins
    return (condition :: conditions, joins)

end

/-- The order of a sort key and the joins it needs. A key must have one value for each row. -/
def compileSortKey (context : Context) (key : String) : Except Error (OrderTerm × List Join) := do
  let (path, descending) := sortKey key
  match ← resolve context.schema context.registry context.root path with
  | none => throw (.unknownAttribute context.root.name path)
  | some target =>
    if crossesCollection target.joins then throw (.unsortable context.root.name path)
    let e :=
      if !context.caseSensitive && target.kind.isTextual then .lower target.expr else target.expr
    return (⟨e, descending⟩, target.joins)

/-- Compiles a query: first the filter, then the sort keys in order. -/
def compile (context : Context) (query : Query) : Except Error Plan := do
  let root := context.root
  match root.identifier? with
  | none => throw (.schema (.identifierMissing root.identifier root.name))
  | some identifier =>
    let (condition, joins) ← match query.filter with
      | some filter => compileFilter context filter []
      | none => pure (none, [])
    let keys ← query.sorts.mapM (compileSortKey context)
    return {
      table := root.table
      key := identifier.columnName
      condition := condition
      joins := joins
      sortJoins := keys.foldl (fun joins key => addJoins joins key.2) []
      orders := keys.map (·.1)
      includes := context.registry.followable context.registry.root query.includes
      page := Page.resolve query.pageOffset query.pageLimit context.paging }

/-- The raw values that compiling a filter coerces, in order, each with its storage type. -/
def coercions (context : Context) (filter : Formula) : List (String × Kind) :=
  filter.tests.filterMap fun test =>
    match comparand test, resolve context.schema context.registry context.root test.path with
    | some raw, .ok (some target) =>
      if test.operator = .eq || test.operator = .ne then some (raw, target.kind) else none
    | _, _ => none

namespace Plan

/-- Whether the filter's joins may repeat rows, so that it has to be asked of the rows' keys. -/
def needsSubquery (plan : Plan) : Bool :=
  crossesCollection plan.joins

/-- A selection of some columns of a table and nothing else, with the plan's joins, restriction,
order and page. -/
def apply (plan : Plan) (table : String) (columns : Columns) : Select :=
  if plan.needsSubquery then
    ⟨table, columns, plan.sortJoins, .keyAmong plan.table plan.key plan.joins plan.condition,
      plan.orders, some plan.page⟩
  else
    let restriction := match plan.condition with
      | some condition => .condition condition
      | none => .none
    ⟨table, columns, addJoins (addJoins [] plan.joins) plan.sortJoins, restriction, plan.orders,
      some plan.page⟩

def toSelect (plan : Plan) : Select :=
  plan.apply plan.table .all

end Plan

end FilterQuery.Relational
