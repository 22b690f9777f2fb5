import FilterQuery.Filter

set_option autoImplicit false
set_option relaxedAutoImplicit false

/-!
Queries: a filter, the relations to include, the sort keys and the page asked for.
-/

namespace FilterQuery

open FilterQuery.Filter (Formula)

/-- What is asked of a collection of records. A sort key is a path, with a hyphen in front for
descending order. -/
structure Query where
  filter : Option Formula
  includes : List String
  sorts : List String
  pageOffset : Option Int
  pageLimit : Option Int

def Query.empty : Query :=
  ⟨none, [], [], none, none⟩

def nullWord : String :=
  "null"

/-- The path of a sort key, and whether it asks for descending order. -/
def sortKey (key : String) : String × Bool :=
  match key.toList with
  | '-' :: path => (String.ofList path, true)
  | _ => (key, false)

end FilterQuery
