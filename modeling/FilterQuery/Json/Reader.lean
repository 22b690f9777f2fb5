import FilterQuery.Json
import FilterQuery.Number.Reading

set_option autoImplicit false
set_option relaxedAutoImplicit false

/-!
JSON values read from text. Nothing beyond the grammar is let through, lists and objects may be
nested only so deep, and a number beyond the range of floating point is refused.
-/

namespace FilterQuery.Json.Reader

open FilterQuery.Number (Binary64)
open FilterQuery.Number.Reading (natOfDigits)

abbrev Reading (α : Type) := List Char → Option (α × List Char)

def skipBlanks (s : List Char) : List Char :=
  s.dropWhile fun c => c == ' ' || c == '\n' || c == '\t' || c == '\r'

def hexValue? (c : Char) : Option Nat :=
  if c.isDigit then some (c.toNat - '0'.toNat)
  else if 'a' ≤ c && c ≤ 'f' then some (c.toNat - 'a'.toNat + 10)
  else if 'A' ≤ c && c ≤ 'F' then some (c.toNat - 'A'.toNat + 10)
  else none

def unit? (a b c d : Char) : Option Nat := do
  let a ← hexValue? a
  let b ← hexValue? b
  let c ← hexValue? c
  let d ← hexValue? d
  return ((a * 16 + b) * 16 + c) * 16 + d

/-- What a character after a backslash stands for, other than the mark of a unit. -/
def escaped? : Char → Option Char
  | '"' => some '"'
  | '\\' => some '\\'
  | '/' => some '/'
  | 'b' => some '\x08'
  | 'f' => some '\x0c'
  | 'n' => some '\n'
  | 'r' => some '\r'
  | 't' => some '\t'
  | _ => none

def isLeading (n : Nat) : Bool :=
  0xD800 ≤ n && n < 0xDC00

def isTrailing (n : Nat) : Bool :=
  0xDC00 ≤ n && n < 0xE000

/-- The rest of a text up to its closing quote. A leading surrogate stands right before a trailing
one, with which it makes up one character, and a trailing one nowhere else. -/
def readTextBody : Reading (List Char)
  | [] => none
  | '"' :: rest => some ([], rest)
  | '\\' :: 'u' :: a :: b :: c :: d :: rest =>
    match unit? a b c d with
    | none => none
    | some first =>
      if isTrailing first then none
      else if isLeading first then
        match rest with
        | '\\' :: 'u' :: e :: f :: g :: h :: rest =>
          match unit? e f g h with
          | none => none
          | some second =>
            if isTrailing second then
              let code := 0x10000 + (first - 0xD800) * 0x400 + (second - 0xDC00)
              (readTextBody rest).map fun (body, rest) => (Char.ofNat code :: body, rest)
            else none
        | _ => none
      else (readTextBody rest).map fun (body, rest) => (Char.ofNat first :: body, rest)
  | '\\' :: c :: rest =>
    match escaped? c with
    | none => none
    | some c => (readTextBody rest).map fun (body, rest) => (c :: body, rest)
  | c :: rest =>
    if c.toNat < 0x20 then none
    else (readTextBody rest).map fun (body, rest) => (c :: body, rest)

def readText : Reading String := fun s =>
  (readTextBody s).map fun (body, rest) => (String.ofList body, rest)

def significandMax : Nat :=
  0xFFFFFFFFFFFFFFFF

/-- Takes digits onto a significand while it stays in range; the digits that are left over. -/
def takeDigits (significand : Nat) : List Char → Nat × List Char
  | [] => (significand, [])
  | c :: digits =>
    let next := 10 * significand + (c.toNat - '0'.toNat)
    if next ≤ significandMax then takeDigits next digits else (significand, c :: digits)

def powerOfTen (n : Nat) : Binary64 :=
  .ofQuotient false (Number.tenTo n) 1

/-- A significand scaled by a power of ten: the significand is rounded first, and so is every
scaling, of which there is one for each 308 powers downward. `none` beyond the range of floating
point. -/
def scaled? (negative : Bool) (significand : Nat) (exponent : Int) : Option Binary64 :=
  let start := Binary64.ofQuotient negative significand 1
  let down := (-exponent).toNat
  if significand = 0 then some (.zero negative)
  else if 308 < exponent then none
  else if 0 ≤ exponent then
    let x := start.mul (powerOfTen exponent.toNat)
    if x.isFinite then some x else none
  else if down ≤ 308 then some (start.div (powerOfTen down))
  else if down ≤ 616 then some ((start.div (powerOfTen 308)).div (powerOfTen (down - 308)))
  else some (.zero negative)

def readExponent : Reading Int
  | [] => some (0, [])
  | mark :: rest =>
    if mark = 'e' ∨ mark = 'E' then
      let (negative, rest) := Number.Reading.takeSign rest
      let digits := rest.takeWhile Char.isDigit
      if digits.isEmpty then none
      else
        let n : Int := natOfDigits digits
        some (if negative then -n else n, rest.drop digits.length)
    else some (0, mark :: rest)

/-- A number without its sign. An integer stays one where it fits 64 bits. Of a number with a
fraction or an exponent, and of an integer that does not fit, the digits count as long as the
significand fits 64 bits. -/
def readNumber (negative : Bool) : Reading Value := fun s => do
  let whole := s.takeWhile Char.isDigit
  let rest := s.drop whole.length
  if whole.isEmpty || (whole.length > 1 && whole.head? == some '0') then none
  else
    let (kept, dropped) := takeDigits 0 whole
    match rest with
    | '.' :: rest =>
      let fraction := rest.takeWhile Char.isDigit
      if fraction.isEmpty then none
      else
        let (significand, spare) := takeDigits kept fraction
        let (exponent, rest) ← readExponent (rest.drop fraction.length)
        let shift : Int := (dropped.length : Int) - ((fraction.length : Int) - (spare.length : Int))
        let x ← scaled? negative significand (exponent + shift)
        return (.real x, rest)
    | rest =>
      let isReal := match rest with
        | mark :: _ => mark == 'e' || mark == 'E'
        | [] => false
      let n : Int := if negative then -(kept : Int) else kept
      let fits := dropped.isEmpty && !(negative && (kept == 0 || 0x8000000000000000 < kept))
      if !isReal && fits then return (.integer n, rest)
      else
        let (exponent, rest) ← readExponent rest
        let x ← scaled? negative kept (exponent + dropped.length)
        return (.real x, rest)

def readWord (word : String) (value : Value) : Reading Value := fun s =>
  if word.toList.isPrefixOf s then some (value, s.drop word.length) else none

def readScalar : Reading Value
  | '"' :: rest => (readText rest).map fun (s, rest) => (.text s, rest)
  | '-' :: rest => readNumber true rest
  | 'n' :: rest => readWord "ull" .null rest
  | 't' :: rest => readWord "rue" (.boolean true) rest
  | 'f' :: rest => readWord "alse" (.boolean false) rest
  | s => readNumber false s

/-- The items of a list from the first one on, up to the closing bracket. -/
def readItems (item : Reading Value) : Nat → Reading (List Value)
  | 0, _ => none
  | steps + 1, s => do
    let (value, rest) ← item (skipBlanks s)
    match skipBlanks rest with
    | ',' :: rest =>
      let (values, rest) ← readItems item steps rest
      return (value :: values, rest)
    | ']' :: rest => return ([value], rest)
    | _ => none

def readMember (item : Reading Value) (s : List Char) : Option ((String × Value) × List Char) :=
  match skipBlanks s with
  | '"' :: rest => do
    let (name, rest) ← readText rest
    match skipBlanks rest with
    | ':' :: rest =>
      let (value, rest) ← item (skipBlanks rest)
      return ((name, value), rest)
    | _ => none
  | _ => none

/-- The members of an object from the first one on, up to the closing brace. -/
def readMembers (item : Reading Value) : Nat → Reading (List (String × Value))
  | 0, _ => none
  | steps + 1, s => do
    let (first, rest) ← readMember item s
    match skipBlanks rest with
    | ',' :: rest =>
      let (others, rest) ← readMembers item steps rest
      return (first :: others, rest)
    | '\x7d' :: rest => return ([first], rest)
    | _ => none

/-- A value in which lists and objects are nested at most so deep and none has more than so many
parts. -/
def readValue (steps : Nat) : Nat → Reading Value
  | 0, s =>
    match s with
    | '[' :: _ => none
    | '\x7b' :: _ => none
    | s => readScalar s
  | depth + 1, s =>
    match s with
    | '[' :: rest =>
      match skipBlanks rest with
      | ']' :: rest => some (.list [], rest)
      | rest =>
        (readItems (readValue steps depth) steps rest).map fun (items, rest) => (.list items, rest)
    | '\x7b' :: rest =>
      match skipBlanks rest with
      | '\x7d' :: rest => some (.object [], rest)
      | rest =>
        (readMembers (readValue steps depth) steps rest).map fun (members, rest) =>
          (objectOf members, rest)
    | s => readScalar s

def depthLimit : Nat :=
  127

/-- The value that a whole text says, nested at most so deep. It has fewer parts than the text has
characters. -/
def readWithin (depth : Nat) (text : String) : Option Value := do
  let (value, rest) ← readValue text.length depth (skipBlanks text.toList)
  if (skipBlanks rest).isEmpty then some value else none

def read (text : String) : Option Value :=
  readWithin depthLimit text

end FilterQuery.Json.Reader
