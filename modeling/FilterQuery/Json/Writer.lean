import FilterQuery.Json
import FilterQuery.Number.Shortest

set_option autoImplicit false
set_option relaxedAutoImplicit false

/-!
JSON values written as text: compact, or indented by two blanks for each level.
-/

namespace FilterQuery.Json.Writer

open FilterQuery.Number.Shortest (Layout)

/-- A number keeps a fractional digit where it is written without an exponent, which it is from 10 ^
-5 to below 10 ^ 16. An exponent has its sign, and between two equally near decimals the even one is
taken. -/
def numberLayout : Layout where
  tieUp := false
  positional := fun e => -5 ≤ e && e < 16
  integerEnd := ".0"
  exponentSign := "+"

def escapeChar (c : Char) : List Char :=
  if c = '"' then ['\\', '"']
  else if c = '\\' then ['\\', '\\']
  else if c = '\x08' then ['\\', 'b']
  else if c = '\x0c' then ['\\', 'f']
  else if c = '\n' then ['\\', 'n']
  else if c = '\r' then ['\\', 'r']
  else if c = '\t' then ['\\', 't']
  else if c.toNat < 0x10 then ['\\', 'u', '0', '0', '0'] ++ Nat.toDigits 16 c.toNat
  else if c.toNat < 0x20 then ['\\', 'u', '0', '0'] ++ Nat.toDigits 16 c.toNat
  else [c]

def textChars (s : String) : List Char :=
  '"' :: s.toList.flatMap escapeChar ++ ['"']

def scalarChars : Value → List Char
  | .null => "null".toList
  | .boolean true => "true".toList
  | .boolean false => "false".toList
  | .integer n => (toString n).toList
  | .real x => (Number.Shortest.text numberLayout x).toList
  | .text s => textChars s
  | _ => []

mutual

def compactChars : Value → List Char
  | .list items => '[' :: compactItems items ++ [']']
  | .object members => '\x7b' :: compactMembers members ++ ['\x7d']
  | scalar => scalarChars scalar

def compactItems : List Value → List Char
  | [] => []
  | [item] => compactChars item
  | item :: next :: items => compactChars item ++ ',' :: compactItems (next :: items)

def compactMembers : List (String × Value) → List Char
  | [] => []
  | [(name, value)] => textChars name ++ ':' :: compactChars value
  | (name, value) :: next :: members =>
    textChars name ++ ':' :: compactChars value ++ ',' :: compactMembers (next :: members)

end

def newLine (level : Nat) : List Char :=
  '\n' :: List.replicate (2 * level) ' '

mutual

/-- The text of a value at a level, with each part on a line of its own. -/
def prettyChars (level : Nat) : Value → List Char
  | .list [] => ['[', ']']
  | .list items => '[' :: prettyItems level items ++ newLine level ++ [']']
  | .object [] => ['\x7b', '\x7d']
  | .object members => '\x7b' :: prettyMembers level members ++ newLine level ++ ['\x7d']
  | scalar => scalarChars scalar

/-- The items of a list, each on a line of its own one level deeper. -/
def prettyItems (level : Nat) : List Value → List Char
  | [] => []
  | [item] => newLine (level + 1) ++ prettyChars (level + 1) item
  | item :: next :: items =>
    newLine (level + 1) ++ prettyChars (level + 1) item ++ ',' :: prettyItems level (next :: items)

/-- The members of an object, each on a line of its own one level deeper. -/
def prettyMembers (level : Nat) : List (String × Value) → List Char
  | [] => []
  | [(name, value)] =>
    newLine (level + 1) ++ textChars name ++ ':' :: ' ' :: prettyChars (level + 1) value
  | (name, value) :: next :: members =>
    newLine (level + 1) ++ textChars name ++ ':' :: ' ' :: prettyChars (level + 1) value ++
      ',' :: prettyMembers level (next :: members)

end

def compact (v : Value) : String :=
  String.ofList (compactChars v)

def pretty (v : Value) : String :=
  String.ofList (prettyChars 0 v)

end FilterQuery.Json.Writer
