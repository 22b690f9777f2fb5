import FilterQuery.Like

set_option autoImplicit false
set_option relaxedAutoImplicit false

/-!
What an engine for regular expressions refuses. It compiles an expression to a program over the
bytes of UTF-8, which may not take more than ten mebibytes.
-/

namespace FilterQuery.Like

/-- The parts of a regular expression up to its end: dots, dots with a star, and characters, of
which the reserved ones must be escaped. `none` for anything else. -/
def readParts : List Char → Option (List Piece)
  | [] => none
  | ['$'] => some []
  | '.' :: '*' :: rest => (readParts rest).map (.run :: ·)
  | '.' :: rest => (readParts rest).map (.one :: ·)
  | '\\' :: c :: rest => if c ∈ reserved then (readParts rest).map (.char c :: ·) else none
  | c :: rest => if c ∈ reserved then none else (readParts rest).map (.char c :: ·)

def readExpression : List Char → Option (Bool × List Piece)
  | '(' :: '?' :: 's' :: ')' :: '^' :: rest => (readParts rest).map (false, ·)
  | '(' :: '?' :: 'i' :: 's' :: ')' :: '^' :: rest => (readParts rest).map (true, ·)
  | _ => none

def sizeLimit : Nat :=
  10 * 1024 * 1024

/-- An estimate of the bytes that a program takes for a part. There are 32 for each state, and a dot
that reads a character from its end has 29 states and nine ways to go on. A letter whose case is
ignored counts as two ranges of bytes. -/
def Piece.size (ignoreCase : Bool) : Piece → Nat
  | .run => 1004
  | .one => 964
  | .char c => if ignoreCase && c.isAlpha then 80 else 32 * c.utf8Size

/-- The bytes that a program takes, with those for both anchors. -/
def programSize (ignoreCase : Bool) (parts : List Piece) : Nat :=
  parts.foldr (fun part size => part.size ignoreCase + size) 192

def refusal (expression : List Char) : Option String :=
  (readExpression expression).bind fun (ignoreCase, parts) =>
    if sizeLimit < programSize ignoreCase parts then
      some s!"Compiled regex exceeds size limit of {sizeLimit} bytes."
    else none

end FilterQuery.Like
