import FilterQuery.Configuration
import FilterQuery.Number.Reading
import FilterQuery.Scalar.Uuid
import FilterQuery.Text.Split
import FilterQuery.Toml.Moment

set_option autoImplicit false
set_option relaxedAutoImplicit false

/-!
The values of a TOML document that are written without quotes or brackets: truth values, integers in
four bases, floating-point numbers and moments. Between two digits there may be an underscore. What
only looks like a number may stand where nothing reads it.
-/

namespace FilterQuery.Toml.Literal

open FilterQuery.Configuration (Item)
open FilterQuery.Number.Reading (takeSign)

/-- Digits without the underscores between them; `none` where an underscore has no digit on either
side. -/
def digits? (isDigit : Char → Bool) : List Char → Option (List Char)
  | [] => none
  | [c] => if isDigit c then some [c] else none
  | c :: '_' :: rest => if isDigit c then (digits? isDigit rest).map (c :: ·) else none
  | c :: rest => if isDigit c then (digits? isDigit rest).map (c :: ·) else none

def digitValue (c : Char) : Nat :=
  if c.isDigit then c.toNat - '0'.toNat else c.toLower.toNat - 'a'.toNat + 10

def isDigitOf (base : Nat) (c : Char) : Bool :=
  Scalar.Uuid.isHexDigit c && digitValue c < base

def valueOf (base : Nat) (digits : List Char) : Nat :=
  digits.foldl (fun n c => base * n + digitValue c) 0

def bounded (n : Int) : Item :=
  if -0x80000000000000000000000000000000 ≤ n ∧
    n < 0x100000000000000000000000000000000 then .integer n
  else .unreadable

/-- Whether every underscore stands where it may: a digit comes after it, and before it a digit or a
sign alone. -/
def isSpaced (isDigit : Char → Bool) (s : List Char) : Bool :=
  let pieces := Text.Split.split '_' s
  pieces.head? != some [] && pieces.tail.all (fun piece => piece.head?.any isDigit) &&
    pieces.dropLast.all (fun piece => piece.length == 1 || piece.getLast?.any isDigit)

/-- Whether decimal digits, perhaps with underscores, begin with a zero that says nothing. -/
def hasLeadingZero (digits : List Char) : Bool :=
  digits.head? == some '0' && 1 < (digits.filter Char.isDigit).length

def marked? (base : Nat) (s : List Char) : Option Item :=
  if s.isEmpty then some .unreadable else (digits? (isDigitOf base) s).map fun digits =>
    bounded (valueOf base digits)

/-- A decimal integer with an optional sign. After its first underscore anything stands that has
neither a space nor the look of a fraction; it cannot be read unless it is digits. -/
def decimalInteger? (s : List Char) : Option Item :=
  let (negative, rest) := takeSign s
  let digits := rest.filter (· != '_')
  let n : Int := valueOf 10 digits
  let item := if digits.all Char.isDigit then bounded (if negative then -n else n) else .unreadable
  match rest.dropWhile Char.isDigit with
  | [] => if rest.isEmpty || hasLeadingZero rest then none else some item
  | '_' :: tail =>
    if rest.head? == some '0' || tail.any ([' ', '.', 'e', 'E'].contains ·) ||
        !isSpaced Scalar.Uuid.isHexDigit s then none
    else some item
  | _ => none

/-- An integer: hexadecimal, octal or binary after its mark, or decimal. -/
def integer? : List Char → Option Item
  | '0' :: 'x' :: rest => marked? 16 rest
  | '0' :: 'o' :: rest => marked? 8 rest
  | '0' :: 'b' :: rest => marked? 2 rest
  | s => decimalInteger? s

/-- The text after digits, perhaps with underscores, of which there is at least one. -/
def skipDigits? (s : List Char) : Option (List Char) :=
  let (digits, rest) := s.span fun c => c.isDigit || c == '_'
  if digits.any Char.isDigit then some rest else none

def skipFraction? : List Char → Option (List Char)
  | '.' :: rest => skipDigits? rest
  | s => some s

def skipExponent? : List Char → Option (List Char)
  | 'e' :: rest => skipDigits? (takeSign rest).2
  | 'E' :: rest => skipDigits? (takeSign rest).2
  | s => some s

/-- A floating-point number: a decimal integer with a fraction, an exponent or both, or the word for
infinity or for no number, with an optional sign. A decimal beyond the range of floating point
cannot be read. -/
def float? (s : List Char) : Option Item :=
  let (_, rest) := takeSign s
  if rest = "inf".toList || rest = "nan".toList then some .fraction
  else do
    let tail ← skipDigits? rest
    let last ← (skipFraction? tail).bind skipExponent?
    if tail.isEmpty || !last.isEmpty || hasLeadingZero (rest.take (rest.length - tail.length)) ||
        !isSpaced Char.isDigit s then none
    else
      let digits := rest.filter (· != '_')
      return if (Number.Reading.decimal? false digits).any (·.isFinite) then .fraction
        else .unreadable

def read? (s : List Char) : Option Item :=
  if s = "true".toList then some (.boolean true)
  else if s = "false".toList then some (.boolean false)
  else
    ((integer? s).or (float? s)).or (if Moment.isMoment s then some .moment else none)

end FilterQuery.Toml.Literal
