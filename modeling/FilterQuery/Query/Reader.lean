import FilterQuery.Error
import FilterQuery.Number.Reading
import FilterQuery.Query
import FilterQuery.Text.Split

set_option autoImplicit false
set_option relaxedAutoImplicit false

/-!
Queries read from text: clauses with `&` between them, each a key, `=` and values with `,` between
them. The keys are `filter[path]`, `filter[path][operator]`, `include`, `sort`, `page[offset]` and
`page[limit]`. An error names the first byte of what is wrong.
-/

namespace FilterQuery.Query.Reader

open FilterQuery.Filter (Formula Operator)
open FilterQuery.Number.Reading (natOfDigits isDigits)
open FilterQuery.Text.Split

/-- What one clause says. -/
inductive Clause
  | filter (formula : Formula)
  | includes (paths : List String)
  | sorts (keys : List String)
  | pageOffset (n : Int)
  | pageLimit (n : Int)

/-- A letter or an underscore, then letters, digits and underscores, all of ASCII. -/
def isName : List Char → Bool
  | [] => false
  | c :: rest => (c.isAlpha || c == '_') && rest.all fun c => c.isAlphanum || c == '_'

def isPath (s : List Char) : Bool :=
  (split '.' s).all isName

def isToken (s : List Char) : Bool :=
  !s.isEmpty && s.all Char.isAlpha

def refuse {α : Type} (place : Nat) (fault : SyntaxFault) : Except Error α :=
  .error (.query place fault)

/-- The values of a clause with their places; none may be empty. -/
def readValues (start : Nat) (raw : List Char) : Except Error (List (Nat × List Char)) :=
  (place start (split ',' raw)).mapM fun (start, value) =>
    if value.isEmpty then refuse start .emptyValue else .ok (start, value)

def readPath (start : Nat) (path : List Char) : Except Error String :=
  if isPath path then .ok (String.ofList path) else refuse start (.invalidPath (String.ofList path))

def readSortKey (start : Nat) (key : List Char) : Except Error String := do
  match key with
  | '-' :: path => discard (readPath (start + 1) path)
  | path => discard (readPath start path)
  return String.ofList key

/-- A number of decimal digits alone, below the bound of integers with a sign. -/
def readInteger (start : Nat) (raw : List Char) : Except Error Int :=
  if !isDigits raw then refuse start (.notInteger (String.ofList raw))
  else if natOfDigits raw < 0x8000000000000000 then .ok (natOfDigits raw)
  else refuse start (.integerTooLarge (String.ofList raw))

/-- What stands between the brackets that a text begins with, and what follows them. No bracket may
stand inside. -/
def bracketed? : List Char → Option (List Char × List Char)
  | '[' :: rest =>
    let inside := rest.takeWhile fun c => c != '[' && c != ']'
    match rest.drop inside.length with
    | ']' :: rest => some (inside, rest)
    | _ => none
  | _ => none

def filterKey? (key : List Char) : Option (List Char × Option (List Char)) :=
  if key.take 6 = "filter".toList then
    match bracketed? (key.drop 6) with
    | some (path, []) => some (path, none)
    | some (path, rest) =>
      match bracketed? rest with
      | some (token, []) => some (path, some token)
      | _ => none
    | none => none
  else none

/-- The operator of a filter clause, equality where none is given. -/
def readOperator (start : Nat) : Option (List Char) → Except Error Operator
  | none => .ok .eq
  | some token =>
    if isToken token then .ok (.ofToken (String.ofList token))
    else refuse start (.invalidOperator (String.ofList token))

/-- A value of a filter clause; the word for null stands for no value. -/
def readOperand (value : List Char) : Option String :=
  let value := String.ofList value
  if value = nullWord then none else some value

/-- A filter clause: one comparison for each value, any of which may hold. -/
def readFilter (start : Nat) (key : List Char) (valuesAt : Nat) (raw : List Char) :
    Except Error Formula :=
  match filterKey? key with
  | none => refuse start (.unrecognizedClause (String.ofList key))
  | some (path, token) => do
    let pathAt := start + 7
    let path' ← readPath pathAt path
    let operator ← readOperator (pathAt + byteSize path + 2) token
    let values ← readValues valuesAt raw
    return .join .or (values.map fun (_, value) => .atom ⟨path', operator, readOperand value⟩)

def readClause (start : Nat) (clause : List Char) : Except Error Clause :=
  if clause.isEmpty then refuse start .emptyClause
  else
    match cut? '=' clause with
    | none => refuse start (.missingEquals (String.ofList clause))
    | some (key, raw) =>
      let valuesAt := start + byteSize key + 1
      match String.ofList key with
      | "include" => do
        let values ← readValues valuesAt raw
        return .includes (← values.mapM fun (start, path) => readPath start path)
      | "sort" => do
        let values ← readValues valuesAt raw
        return .sorts (← values.mapM fun (start, key) => readSortKey start key)
      | "page[offset]" => .pageOffset <$> readInteger valuesAt raw
      | "page[limit]" => .pageLimit <$> readInteger valuesAt raw
      | _ => .filter <$> readFilter start key valuesAt raw

def Clause.formula? : Clause → Option Formula
  | .filter formula => some formula
  | _ => none

def Clause.paths : Clause → List String
  | .includes paths => paths
  | _ => []

def Clause.keys : Clause → List String
  | .sorts keys => keys
  | _ => []

def Clause.offset? : Clause → Option Int
  | .pageOffset n => some n
  | _ => none

def Clause.limit? : Clause → Option Int
  | .pageLimit n => some n
  | _ => none

/-- The query that clauses make up: the filter clauses hold together, and of several page numbers
the last counts. -/
def ofClauses (clauses : List Clause) : Query where
  filter := Formula.conjunction? (clauses.filterMap Clause.formula?)
  includes := clauses.flatMap Clause.paths
  sorts := clauses.flatMap Clause.keys
  pageOffset := (clauses.filterMap Clause.offset?).getLast?
  pageLimit := (clauses.filterMap Clause.limit?).getLast?

def readClauses (start : Nat) (s : List Char) : Except Error (List Clause) :=
  (place start (split '&' s)).mapM fun (start, clause) => readClause start clause

def read (text : String) : Except Error Query :=
  if text.isEmpty then .ok .empty
  else ofClauses <$> readClauses 0 text.toList

end FilterQuery.Query.Reader
