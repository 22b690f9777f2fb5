import FilterQuery.Number.Reading
import FilterQuery.Scalar
import FilterQuery.Scalar.Timestamp
import FilterQuery.Scalar.Uuid
import FilterQuery.Text.Blank

set_option autoImplicit false
set_option relaxedAutoImplicit false

/-!
The coercion used where the caller brings none. Blanks around a text matter only where the text
itself is the value.
-/

namespace FilterQuery.Scalar.Coerce

open FilterQuery.Number.Reading (int64? binary64?)
open FilterQuery.Text.Blank (trimChars)

def boolean? (s : List Char) : Option Bool :=
  let word := String.ofList (s.map Char.toLower)
  if word = "true" then some true else if word = "false" then some false else none

/-- A raw text as a value of a storage type. Identifiers and moments are checked and kept as they
were written. -/
def coerce : Coercion := fun raw kind =>
  let trimmed := trimChars raw.toList
  match kind with
  | .text => some (.text raw)
  | .json => some (.text raw)
  | .integer => (int64? trimmed).map .integer
  | .float => (binary64? trimmed).map .float
  | .boolean => (boolean? trimmed).map .boolean
  | .uuid => if Uuid.isUuid trimmed then some (.text raw) else none
  | .timestamp => if Timestamp.isTimestamp trimmed then some (.text raw) else none

end FilterQuery.Scalar.Coerce
