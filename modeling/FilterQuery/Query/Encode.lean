import FilterQuery.Json
import FilterQuery.Query

set_option autoImplicit false
set_option relaxedAutoImplicit false

/-!
Queries as JSON values. The members of an object stand in the order in which the parts of a query
are declared.
-/

namespace FilterQuery.Query.Encode

open FilterQuery.Filter (Formula)

def textOrNull : Option String → Json.Value
  | some s => .text s
  | none => .null

def integerOrNull : Option Int → Json.Value
  | some n => .integer n
  | none => .null

def texts (items : List String) : Json.Value :=
  .list (items.map .text)

mutual

def encodeFormula : Formula → Json.Value
  | .atom test =>
    .object [("kind", .text "expression"), ("attribute", .text test.path),
      ("operator", .text test.operator.token), ("value", textOrNull test.value)]
  | .group connective parts =>
    .object [("kind", .text "group"), ("conjunction", .text connective.word),
      ("children", .list (encodeParts parts))]

def encodeParts : List Formula → List Json.Value
  | [] => []
  | part :: parts => encodeFormula part :: encodeParts parts

end

def encodeFilter : Option Formula → Json.Value
  | some filter => encodeFormula filter
  | none => .null

def encode (query : Query) : Json.Value :=
  .object [("filters", encodeFilter query.filter), ("includes", texts query.includes),
    ("sorts", texts query.sorts), ("page_offset", integerOrNull query.pageOffset),
      ("page_limit", integerOrNull query.pageLimit)]

end FilterQuery.Query.Encode
