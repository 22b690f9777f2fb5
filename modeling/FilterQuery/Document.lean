import FilterQuery.Error
import FilterQuery.Json.Writer
import FilterQuery.Number.Reading
import FilterQuery.Query

set_option autoImplicit false
set_option relaxedAutoImplicit false

/-!
Filter documents: JSON objects whose members all have to hold. A member is a field with a scalar
that it equals, a field with an object of operators, or a list of documents under `$and` or `$or`.
-/

namespace FilterQuery.Document

open FilterQuery.Filter (Formula Operator)
open FilterQuery.Number.Reading (inInt64)

def refuse {α : Type} (fault : DocumentFault) : Except Error α :=
  .error (.document fault)

def isReserved (name : String) : Bool :=
  name.toList.head? == some '$'

/-- The value of a comparison: the text of a scalar, where null stands for no value. -/
def operand (path : String) : Json.Value → Except Error (Option String)
  | .null => .ok none
  | .text s => .ok (some s)
  | .boolean b => .ok (some (Json.Writer.compact (.boolean b)))
  | .integer n => .ok (some (Json.Writer.compact (.integer n)))
  | .real x => .ok (some (Json.Writer.compact (.real x)))
  | _ => refuse (.notAScalar path)

def compareWith (path : String) (operator : Operator) (value : Json.Value) :
    Except Error Formula := do
  return .atom ⟨path, operator, ← operand path value⟩

def comparison? : String → Option Operator
  | "$eq" => some .eq
  | "$ne" => some .ne
  | "$lt" => some .lt
  | "$lte" => some .le
  | "$gt" => some .gt
  | "$gte" => some .ge
  | "$like" => some .like
  | "$ilike" => some .ilike
  | _ => none

def itemsOf (operator : String) : Json.Value → Except Error (List Json.Value)
  | .list items => .ok items
  | _ => refuse (.notAnArray operator)

def ofOperator (path operator : String) (argument : Json.Value) : Except Error Formula :=
  match comparison? operator with
  | some comparison => compareWith path comparison argument
  | none =>
    match operator with
    | "$in" => do
      return .join .or (← (← itemsOf operator argument).mapM (compareWith path .eq))
    | "$nin" => do
      return .join .and (← (← itemsOf operator argument).mapM (compareWith path .ne))
    | "$exists" =>
      match argument with
      | .boolean true => .ok (.compareNull path .ne)
      | .boolean false => .ok (.compareNull path .eq)
      | _ => refuse .notABoolean
    | _ => .error (.unsupportedOperator operator)

def ofField (path : String) : Json.Value → Except Error Formula
  | .object [] => refuse (.noOperators path)
  | .object operators => do
    return .join .and (← operators.mapM fun (operator, argument) =>
      ofOperator path operator argument)
  | value => compareWith path .eq value

mutual

/-- The filter that a document says, absent where the document has no member. -/
def toFilter : Json.Value → Except Error (Option Formula)
  | .object members => do return Formula.conjunction? (← ofMembers members)
  | _ => refuse .notAnObject

def ofMembers : List (String × Json.Value) → Except Error (List Formula)
  | [] => .ok []
  | (name, value) :: members => do
    let first ←
      if name = "$and" then
        match value with
        | .list documents => do pure (Formula.join .and (← toFilters documents))
        | _ => refuse (.groupNotAnArray name)
      else if name = "$or" then
        match value with
        | .list documents => do pure (Formula.join .or (← toFilters documents))
        | _ => refuse (.groupNotAnArray name)
      else if isReserved name then .error (.unsupportedOperator name)
      else ofField name value
    return first :: (← ofMembers members)

def toFilters : List Json.Value → Except Error (List Formula)
  | [] => .ok []
  | document :: documents => do
    let first := (← toFilter document).getD (.join .and [])
    return first :: (← toFilters documents)

end

/-- A sort key for a field of the sort option; the direction is 1 or -1. -/
def toSortKey : String × Json.Value → Except Error String
  | (field, .integer 1) => .ok field
  | (field, .integer (-1)) => .ok ("-" ++ field)
  | (field, _) => refuse (.badDirection field)

def toSortKeys (options : Json.Value) : Except Error (List String) :=
  match options.member? "sort" with
  | none => .ok []
  | some (.object fields) => fields.mapM toSortKey
  | some _ => refuse .sortNotAnObject

def toInteger (options : Json.Value) (name : String) : Except Error (Option Int) :=
  match options.member? name with
  | none => .ok none
  | some .null => .ok none
  | some (.integer n) => if inInt64 n then .ok (some n) else refuse (.notAnInteger name)
  | some _ => refuse (.notAnInteger name)

/-- The query that a filter document and the options beside it say. Options that are no object say
nothing. -/
def toQuery (document options : Json.Value) : Except Error Query := do
  let filter ← toFilter document
  match options with
  | .object _ =>
    let sorts ← toSortKeys options
    let skip ← toInteger options "skip"
    let limit ← toInteger options "limit"
    return ⟨filter, [], sorts, skip, limit⟩
  | _ => return { Query.empty with filter := filter }

end FilterQuery.Document
