set_option autoImplicit false
set_option relaxedAutoImplicit false

/-!
Filters: comparisons of attributes with values, combined by AND and OR.
-/

namespace FilterQuery.Filter

/-- How an attribute is compared with a value. A token that names no operator is kept as it was
written. -/
inductive Operator
  | eq
  | ne
  | lt
  | le
  | gt
  | ge
  | like
  | ilike
  | unknown (token : String)
  deriving DecidableEq

def Operator.ofToken (token : String) : Operator :=
  match token.toUpper with
  | "EQ" => .eq
  | "NEQ" => .ne
  | "LT" => .lt
  | "LE" => .le
  | "GT" => .gt
  | "GE" => .ge
  | "LIKE" => .like
  | "ILIKE" => .ilike
  | _ => .unknown token

def Operator.token : Operator → String
  | .eq => "EQ"
  | .ne => "NEQ"
  | .lt => "LT"
  | .le => "LE"
  | .gt => "GT"
  | .ge => "GE"
  | .like => "LIKE"
  | .ilike => "ILIKE"
  | .unknown token => token

def Operator.isKnown : Operator → Bool
  | .unknown _ => false
  | _ => true

/-- How the parts of a group are combined. -/
inductive Connective
  | and
  | or
  deriving DecidableEq

def Connective.word : Connective → String
  | .and => "AND"
  | .or => "OR"

/-- One test of the attribute that a dotted path names. The value `none` is an explicit null. -/
structure Comparison where
  path : String
  operator : Operator
  value : Option String
  deriving DecidableEq

/-- A comparison, or a group of filters under one connective. -/
inductive Formula
  | atom (test : Comparison)
  | group (connective : Connective) (parts : List Formula)

def Formula.compare (path : String) (operator : Operator) (value : String) : Formula :=
  .atom ⟨path, operator, some value⟩

def Formula.compareNull (path : String) (operator : Operator) : Formula :=
  .atom ⟨path, operator, none⟩

/-- A group of the given parts; a single part needs no group around it. -/
def Formula.join (connective : Connective) : List Formula → Formula
  | [part] => part
  | parts => .group connective parts

/-- The conjunction of the given parts, absent when there is none. -/
def Formula.conjunction? : List Formula → Option Formula
  | [] => none
  | parts => some (.join .and parts)

mutual

def Formula.tests : Formula → List Comparison
  | .atom test => [test]
  | .group _ parts => testsOfAll parts

def testsOfAll : List Formula → List Comparison
  | [] => []
  | part :: parts => part.tests ++ testsOfAll parts

end

/-- The first operator of a filter that the language does not know. -/
def Formula.unknownOperator? (filter : Formula) : Option Operator :=
  (filter.tests.find? fun test => !test.operator.isKnown).map (·.operator)

end FilterQuery.Filter
