set_option autoImplicit false
set_option relaxedAutoImplicit false

/-!
Patterns of LIKE: `%` stands for any run of characters and `_` for any one character. A backslash
takes away the meaning of the next character, and one at the end stands for itself. A pattern is
written as a regular expression, and matched row by row.
-/

namespace FilterQuery.Like

/-- A part of a pattern. -/
inductive Piece
  | run
  | one
  | char (c : Char)
  deriving DecidableEq

def pieces : List Char → List Piece
  | [] => []
  | '%' :: rest => .run :: pieces rest
  | '_' :: rest => .one :: pieces rest
  | ['\\'] => [.char '\\']
  | '\\' :: c :: rest => .char c :: pieces rest
  | c :: rest => .char c :: pieces rest

/-- A pattern whose last backslash does not stand alone: with an odd number of them at the end there
is one more. -/
def terminated (pattern : List Char) : List Char :=
  if (pattern.reverse.takeWhile (· == '\\')).length % 2 = 1 then pattern ++ ['\\'] else pattern

/-- The characters with a meaning of their own in regular expressions. -/
def reserved : List Char :=
  "\\.+*?()|[]\x7b\x7d^$#&-~".toList

/-- What a regular expression has for a character that stands for itself. -/
def literal (c : Char) : List Char :=
  if c ∈ reserved then ['\\', c] else [c]

def expressionParts : List Char → List Char
  | [] => ['$']
  | '%' :: rest => '.' :: '*' :: expressionParts rest
  | '_' :: rest => '.' :: expressionParts rest
  | ['\\'] => literal '\\' ++ ['$']
  | '\\' :: c :: rest => literal c ++ expressionParts rest
  | c :: rest => literal c ++ expressionParts rest

/-- The regular expression of a pattern. It is anchored at both ends, its dot stands for line ends
too, and case is ignored if asked for. -/
def expression (ignoreCase : Bool) (pattern : List Char) : List Char :=
  '(' :: '?' :: (if ignoreCase then ['i', 's'] else ['s']) ++ ')' :: '^' :: expressionParts pattern

/-- Which of the suffixes of a text, from the longest to the empty one, are empty. -/
def emptyRow : List Char → List Bool
  | [] => [true]
  | _ :: s => false :: emptyRow s

/-- From the suffixes that the rest of a pattern matches, those that it matches after one character
that passes a test. -/
def stepRow (test : Char → Bool) : List Char → List Bool → List Bool
  | [], _ => [false]
  | c :: s, row => (test c && (row.drop 1).headD false) :: stepRow test s (row.drop 1)

/-- From the suffixes that the rest of a pattern matches, those that it matches after any run of
characters. -/
def runRow : List Bool → List Bool
  | [] => []
  | here :: row =>
    let others := runRow row
    (here || others.headD false) :: others

/-- Which of the suffixes of a text, from the longest to the empty one, a pattern matches, where
`same` tells which characters count as equal. -/
def matchRow (same : Char → Char → Bool) : List Piece → List Char → List Bool
  | [], s => emptyRow s
  | .run :: rest, s => runRow (matchRow same rest s)
  | .one :: rest, s => stepRow (fun _ => true) s (matchRow same rest s)
  | .char c :: rest, s => stepRow (same c) s (matchRow same rest s)

def accepts (same : Char → Char → Bool) (pattern : List Piece) (s : List Char) : Bool :=
  (matchRow same pattern s).headD false

end FilterQuery.Like
