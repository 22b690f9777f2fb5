import FilterQuery.Query
import FilterQuery.Registry
import FilterQuery.Settings

set_option autoImplicit false
set_option relaxedAutoImplicit false

/-!
What a query is compiled against, whatever it is compiled to.
-/

namespace FilterQuery

open FilterQuery.Filter (Comparison)
open FilterQuery.Scalar (Coercion)

/-- A schema, the registry of one root in it and the root itself, how values are coerced, the
settings, and why a regular expression cannot be built, for those that cannot. -/
structure Context where
  schema : Schema
  registry : Registry
  root : Entity
  coerce : Coercion
  paging : PageSettings
  caseSensitive : Bool
  refusal : List Char → Option String

def Context.ofRegistry (schema : Schema) (registry : Registry) (coerce : Coercion)
    (settings : Settings) (refusal : List Char → Option String) : Except Error Context :=
  match schema.entity? registry.root with
  | some root =>
    .ok ⟨schema, registry, root, coerce, settings.paging, settings.caseSensitive, refusal⟩
  | none => .error (.unknownEntity registry.root)

/-- The value that a comparison is made with; the word for null stands for no value. -/
def comparand (test : Comparison) : Option String :=
  test.value.filter (· != nullWord)

end FilterQuery
