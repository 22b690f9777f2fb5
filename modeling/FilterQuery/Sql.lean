import FilterQuery.Filter
import FilterQuery.Page
import FilterQuery.Scalar

set_option autoImplicit false
set_option relaxedAutoImplicit false

/-!
The part of SQL that queries are compiled to: expressions over columns, conditions, left joins and
selections.
-/

namespace FilterQuery.Sql

open FilterQuery.Filter (Connective)

/-- A value computed from a row. -/
inductive Expr
  | column (table name : String)
  /-- The document under a key of a document. -/
  | document (e : Expr) (key : String)
  /-- The text under a key of a document. -/
  | documentText (e : Expr) (key : String)
  | lower (e : Expr)
  | castText (e : Expr)
  deriving DecidableEq

/-- What is asked of a row. In a pattern a backslash escapes the next character. -/
inductive Condition
  | equal (e : Expr) (value : Scalar.Value)
  | notEqual (e : Expr) (value : Scalar.Value)
  | isNull (e : Expr)
  | isNotNull (e : Expr)
  | like (e : Expr) (pattern : String)
  | never
  | group (connective : Connective) (parts : List Condition)

/-- A group of the given conditions; a single one needs no group around it. -/
def Condition.join (connective : Connective) : List Condition → Condition
  | [part] => part
  | parts => .group connective parts

/-- A left join of a table under a label, from the table or label `parent`. A collection may match
several rows. -/
structure Join where
  table : String
  label : String
  parent : String
  localColumn : String
  foreignColumn : String
  collection : Bool
  deriving DecidableEq

/-- An expression to order rows by; rows where it is null come last in either direction. -/
structure OrderTerm where
  expr : Expr
  descending : Bool
  deriving DecidableEq

/-- Which rows a selection keeps. -/
inductive Restriction
  | none
  | condition (c : Condition)
  /-- The rows whose column `key` is among its values in the joined rows of the table that meet the
  condition. -/
  | keyAmong (table key : String) (joins : List Join) (condition : Option Condition)

/-- The columns of a selection. -/
inductive Columns
  | all
  | named (names : List String)

/-- A selection of rows of one table. -/
structure Select where
  table : String
  columns : Columns
  joins : List Join
  restriction : Restriction
  orders : List OrderTerm
  page : Option Page

end FilterQuery.Sql
