import FilterQuery.Number.Shortest
import FilterQuery.Sql

set_option autoImplicit false
set_option relaxedAutoImplicit false

/-!
The text of a selection. The dialects differ in how a text is quoted.
-/

namespace FilterQuery.Sql.Render

open FilterQuery.Filter (Connective)
open FilterQuery.Number.Shortest (Layout)

/-- A dialect of SQL. -/
inductive Dialect
  | postgres
  | sqlite
  deriving DecidableEq

def identifier (name : String) : String :=
  String.ofList ('"' :: name.toList.flatMap (fun c => if c = '"' then ['"', '"'] else [c]) ++ ['"'])

def escapeChar (c : Char) : List Char :=
  if c = '\\' then ['\\', '\\']
  else if c = '"' then ['\\', '"']
  else if c = '\'' then ['\\', '\'']
  else if c = '\x00' then ['\\', '0']
  else if c = '\x08' then ['\\', 'b']
  else if c = '\t' then ['\\', 't']
  else if c = '\x1a' then ['\\', 'z']
  else if c = '\n' then ['\\', 'n']
  else if c = '\r' then ['\\', 'r']
  else [c]

/-- A text between single quotes. Where backslashes escape, the quotes are marked if there is
one. -/
def textLiteral : Dialect → String → String
  | .postgres, s =>
    let escaped := s.toList.flatMap escapeChar
    let quoted := '\'' :: escaped ++ ['\'']
    String.ofList (if escaped.contains '\\' then 'E' :: quoted else quoted)
  | .sqlite, s =>
    String.ofList ('\'' :: s.toList.flatMap (fun c => if c = '\'' then ['\'', '\''] else [c]) ++
      ['\''])

/-- A floating-point number is written without an exponent, and without a point where it is an
integer. -/
def numberLayout : Layout where
  tieUp := true
  positional := fun _ => true
  integerEnd := ""
  exponentSign := ""

def literal (dialect : Dialect) : Scalar.Value → String
  | .text s => textLiteral dialect s
  | .integer n => toString n
  | .float x => Number.Shortest.text numberLayout x
  | .boolean true => "TRUE"
  | .boolean false => "FALSE"

def column (table name : String) : String :=
  identifier table ++ "." ++ identifier name

mutual

def expr (dialect : Dialect) : Expr → String
  | .column table name => column table name
  | .document e key => operand dialect e ++ " -> " ++ textLiteral dialect key
  | .documentText e key => operand dialect e ++ " ->> " ++ textLiteral dialect key
  | .lower e => "LOWER(" ++ expr dialect e ++ ")"
  | .castText e => "CAST(" ++ expr dialect e ++ " AS TEXT)"

/-- An expression beside an operator; one that is made with an operator itself stands in
parentheses. -/
def operand (dialect : Dialect) : Expr → String
  | .column table name => column table name
  | .document e key => "(" ++ operand dialect e ++ " -> " ++ textLiteral dialect key ++ ")"
  | .documentText e key => "(" ++ operand dialect e ++ " ->> " ++ textLiteral dialect key ++ ")"
  | .lower e => "LOWER(" ++ expr dialect e ++ ")"
  | .castText e => "CAST(" ++ expr dialect e ++ " AS TEXT)"

end

def test (dialect : Dialect) : Condition → String
  | .equal e value => operand dialect e ++ " = " ++ literal dialect value
  | .notEqual e value => operand dialect e ++ " <> " ++ literal dialect value
  | .isNull e => operand dialect e ++ " IS NULL"
  | .isNotNull e => operand dialect e ++ " IS NOT NULL"
  | .like e pattern =>
    operand dialect e ++ " LIKE " ++ textLiteral dialect pattern ++ " ESCAPE " ++
      textLiteral dialect "\\"
  | .never => "FALSE"
  | .group _ _ => ""

mutual

def condition (dialect : Dialect) : Condition → String
  | .group connective parts => group dialect connective parts
  | c => test dialect c

/-- The parts of a group with the word for its connective between them. -/
def group (dialect : Dialect) (connective : Connective) : List Condition → String
  | [] => ""
  | [part] => condition dialect part
  | part :: next :: parts =>
    leading dialect connective part ++ others dialect connective (next :: parts)

/-- The first part of a group. A group under the same connective needs no parentheses there. -/
def leading (dialect : Dialect) (connective : Connective) : Condition → String
  | .group inner parts =>
    if inner = connective then group dialect inner parts
      else "(" ++ group dialect inner parts ++ ")"
  | .never => "(FALSE)"
  | c => test dialect c

def other (dialect : Dialect) : Condition → String
  | .group inner parts => "(" ++ group dialect inner parts ++ ")"
  | .never => "(FALSE)"
  | c => test dialect c

def others (dialect : Dialect) (connective : Connective) : List Condition → String
  | [] => ""
  | part :: parts =>
    " " ++ connective.word ++ " " ++ other dialect part ++ others dialect connective parts

end

def join (j : Join) : String :=
  " LEFT JOIN " ++ identifier j.table ++ " AS " ++ identifier j.label ++ " ON " ++
    column j.parent j.localColumn ++ " = " ++ column j.label j.foreignColumn

def joins (js : List Join) : String :=
  String.join (js.map join)

def restriction (dialect : Dialect) : Restriction → String
  | .none => ""
  | .condition c => " WHERE " ++ condition dialect c
  | .keyAmong table key js c =>
    let key := column table key
    let inner := match c with
      | some c => " WHERE " ++ condition dialect c
      | none => ""
    " WHERE " ++ key ++ " IN (SELECT " ++ key ++ " FROM " ++ identifier table ++
      joins js ++ inner ++ ")"

def orderTerm (dialect : Dialect) (o : OrderTerm) : String :=
  expr dialect o.expr ++ (if o.descending then " DESC" else " ASC") ++ " NULLS LAST"

def orders (dialect : Dialect) : List OrderTerm → String
  | [] => ""
  | os => " ORDER BY " ++ ", ".intercalate (os.map (orderTerm dialect))

def columns (table : String) : Columns → String
  | .all => identifier table ++ ".*"
  | .named names => ", ".intercalate (names.map (column table))

def page : Option Page → String
  | some p => " LIMIT " ++ toString p.limit ++ " OFFSET " ++ toString p.offset
  | none => ""

def select (dialect : Dialect) (s : Select) : String :=
  "SELECT " ++ columns s.table s.columns ++ " FROM " ++ identifier s.table ++ joins s.joins ++
    restriction dialect s.restriction ++ orders dialect s.orders ++ page s.page

end FilterQuery.Sql.Render
