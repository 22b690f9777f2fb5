import FilterQuery.Context
import FilterQuery.Memory.Order
import FilterQuery.Memory.Predicate
import FilterQuery.Page

set_option autoImplicit false
set_option relaxedAutoImplicit false

/-!
Queries evaluated over JSON records. A comparison that cannot be made, for its operator or its path,
holds always.
-/

namespace FilterQuery.Memory

open FilterQuery.Filter (Comparison Connective Formula Operator)
open FilterQuery.Memory.Order (SortKey)
open FilterQuery.Memory.Path (Accessor)

def accessor? (context : Context) (path : String) : Except Error (Option Accessor) :=
  Path.resolve context.schema context.registry context.root path

def isDecidedBy (operator : Operator) (value : Option String) : Bool :=
  if value.isNone then [.eq, .like, .ne].contains operator
    else [.eq, .ne, .like, .ilike].contains operator

/-- The test for the texts that a pattern matches. It needs the regular expression of the
pattern. -/
def matching (context : Context) (raw : String) (ignoreCase : Bool) : Except Error Test :=
  match context.refusal (Like.expression ignoreCase raw.toList) with
  | some reason => .error (.pattern raw reason)
  | none => .ok (.matching (Like.pieces raw.toList) ignoreCase)

/-- The node of a comparison that can be made. A value that does not coerce equals nothing and
differs from every value. -/
def nodeOfTest (context : Context) (operator : Operator) (value : Option String) (a : Accessor) :
    Except Error Node :=
  match value, operator with
  | none, .ne => .ok (.test a .isNotNull)
  | none, _ => .ok (.test a .isNull)
  | some raw, .like => (matching context raw false).map (.test a)
  | some raw, .ilike => (matching context raw true).map (.test a)
  | some raw, operator =>
    match context.coerce raw a.kind with
    | some wanted => .ok (.test a (if operator = .ne then .notEqual wanted else .equal wanted))
    | none => .ok (if operator = .ne then .test a .isNotNull else .never)

def compileTest (context : Context) (test : Comparison) : Except Error Node := do
  let value := comparand test
  if isDecidedBy test.operator value then
    match ← accessor? context test.path with
    | some a => nodeOfTest context test.operator value a
    | none => return .always
  else return .always

/-- The node of a group: what holds always drops out of a conjunction and decides a disjunction. -/
def group : Connective → List Node → Node
  | .and, parts =>
    let restricting := parts.filter (!·.isAlways)
    if restricting.isEmpty then .always else .all restricting
  | .or, parts =>
    if parts.isEmpty then .never
    else if parts.any (·.isAlways) then .always
    else .any parts

mutual

def compileFormula (context : Context) : Formula → Except Error Node
  | .atom test => compileTest context test
  | .group connective parts => do return group connective (← compileParts context parts)

def compileParts (context : Context) : List Formula → Except Error (List Node)
  | [] => .ok []
  | part :: parts => do
    let first ← compileFormula context part
    let others ← compileParts context parts
    return first :: others

end

/-- The predicate of a filter; without one every record is accepted. -/
def compileFilter (context : Context) (filter : Option Formula) : Except Error Predicate := do
  match filter with
  | some filter => return ⟨← compileFormula context filter, context.coerce⟩
  | none => return ⟨.always, context.coerce⟩

/-- The sort key of a key; it must have one value for each record. -/
def compileSortKey (context : Context) (key : String) : Except Error SortKey := do
  let (path, descending) := sortKey key
  match ← accessor? context path with
  | none => throw (.unknownAttribute context.root.name path)
  | some a =>
    if a.many then throw (.unsortable context.root.name path)
    return ⟨a, descending, !context.caseSensitive && a.kind.isTextual⟩

def compileSort (context : Context) (keys : List String) : Except Error (List SortKey) :=
  keys.mapM (compileSortKey context)

/-- The items on the query's page of those whose records it selects, sorted. -/
def execute {α : Type} (context : Context) (query : Query) (record : α → Json.Value)
    (items : List α) :
    Except Error (List α) := do
  let predicate ← compileFilter context query.filter
  let keys ← compileSort context query.sorts
  let page := Page.resolve query.pageOffset query.pageLimit context.paging
  let selected ← predicate.select record items
  let sorted ← Order.sort keys record selected
  return page.slice sorted

end FilterQuery.Memory
