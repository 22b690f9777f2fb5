import FilterQuery.Filter
import FilterQuery.Text.Quoted

set_option autoImplicit false
set_option relaxedAutoImplicit false

/-!
Filters as people read them: `title EQ "Home"`, `title EQ null`, `AND(a EQ "1", b NEQ "2")`.
-/

namespace FilterQuery.Filter.Display

open FilterQuery.Text.Quoted (quote)

def valueText : Option String → List Char
  | some value => (quote value).toList
  | none => "null".toList

def comparisonText (test : Comparison) : List Char :=
  test.path.toList ++ ' ' :: test.operator.token.toList ++ ' ' :: valueText test.value

mutual

def formulaText : Formula → List Char
  | .atom test => comparisonText test
  | .group connective parts => connective.word.toList ++ '(' :: partsText parts ++ [')']

/-- The parts of a group, with a comma and a space between them. -/
def partsText : List Formula → List Char
  | [] => []
  | [part] => formulaText part
  | part :: next :: parts => formulaText part ++ ',' :: ' ' :: partsText (next :: parts)

end

def display (filter : Formula) : String :=
  String.ofList (formulaText filter)

end FilterQuery.Filter.Display
