set_option autoImplicit false
set_option relaxedAutoImplicit false

/-!
Texts cut at separators, with the place of each piece in the whole, counted in bytes of its UTF-8
form.
-/

namespace FilterQuery.Text.Split

/-- The pieces between separators; there is always one more than there are separators. -/
def split (separator : Char) : List Char → List (List Char)
  | [] => [[]]
  | c :: rest =>
    if c = separator then [] :: split separator rest
    else
      match split separator rest with
      | [] => [[c]]
      | piece :: pieces => (c :: piece) :: pieces

def cut? (separator : Char) : List Char → Option (List Char × List Char)
  | [] => none
  | c :: rest =>
    if c = separator then some ([], rest)
    else (cut? separator rest).map fun (before, after) => (c :: before, after)

def byteSize : List Char → Nat
  | [] => 0
  | c :: s => c.utf8Size + byteSize s

/-- Pieces with the place of each, where the first starts at `start` and a separator of one byte
stands between two. -/
def place (start : Nat) : List (List Char) → List (Nat × List Char)
  | [] => []
  | piece :: pieces => (start, piece) :: place (start + byteSize piece + 1) pieces

def segments (separator : Char) (s : String) : List String :=
  (split separator s.toList).map String.ofList

end FilterQuery.Text.Split
