import FilterQuery.Number

set_option autoImplicit false
set_option relaxedAutoImplicit false

/-!
The shortest decimal text of a floating-point number: the fewest digits whose value rounds back to
it, and of those the nearest to it. Where two are equally near, and how the digits are laid out, is
a choice of each format.
-/

namespace FilterQuery.Number.Shortest

/-- How a format writes finite numbers. -/
structure Layout where
  /-- Whether the last digit is rounded up, rather than to the even digit, between two equally near
  decimals. -/
  tieUp : Bool
  /-- Whether a number whose first digit counts this power of ten is written without an exponent. -/
  positional : Int → Bool
  /-- What follows the digits of an integer. -/
  integerEnd : String
  /-- What stands before the digits of an exponent that is not negative. -/
  exponentSign : String

/-- Decimal digits, the first of which counts `exponent` powers of ten. -/
structure Decimal where
  digits : List Char
  exponent : Int

/-- The scale at which every finite number and every decimal grid that matters is an integer. -/
def scale : Nat :=
  tenTo 400

/-- Of the decimals next to a number on the grid of its first `count` digits, the one that rounds
back to the number and is the nearer to it. The number is twice `units word`, its rounding interval
ends half way to either neighbour, and the ends belong to it where the word is even. -/
def onGrid? (tieUp : Bool) (word : Nat) (leading : Nat) (count : Nat) : Option Nat :=
  let value := 2 * units word * scale
  let low := (units (word - 1) + units word) * scale
  let high := (units word + units (word + 1)) * scale
  let grid := tenTo (leading + 1 - count) * twoTo 1075
  let inside (n : Nat) : Bool :=
    if word % 2 = 0 then low ≤ n * grid && n * grid ≤ high else low < n * grid && n * grid < high
  let below := value / grid
  let downward := value - below * grid
  let upward := (below + 1) * grid - value
  match inside below, inside (below + 1) with
  | false, false => none
  | true, false => some below
  | false, true => some (below + 1)
  | true, true =>
    if downward < upward then some below
    else if upward < downward then some (below + 1)
    else if tieUp || below % 2 = 1 then some (below + 1) else some below

/-- The power of ten that the first digit of a number counts, at the common scale. -/
def leadingPlace (word : Nat) : Nat :=
  (Nat.toDigits 10 (2 * units word * scale / twoTo 1075)).length - 1

/-- The shortest decimal of a finite magnitude other than zero. Seventeen digits always suffice. -/
def decimal (tieUp : Bool) (word : Nat) : Decimal :=
  let leading := leadingPlace word
  let found := (List.range' 1 17).findSome? fun count =>
    (onGrid? tieUp word leading count).map fun n => (count, n)
  match found with
  | none => ⟨['0'], 0⟩
  | some (count, n) =>
    let digits := Nat.toDigits 10 n
    let trimmed := (digits.reverse.dropWhile (· == '0')).reverse
    ⟨trimmed, (leading : Int) + (digits.length : Int) - (count : Int) - 400⟩

def positionalText (layout : Layout) (d : Decimal) : List Char :=
  if d.exponent < 0 then
    '0' :: '.' :: List.replicate ((-d.exponent).toNat - 1) '0' ++ d.digits
  else
    let whole := d.exponent.toNat + 1
    if d.digits.length ≤ whole then
      d.digits ++ List.replicate (whole - d.digits.length) '0' ++ layout.integerEnd.toList
    else d.digits.take whole ++ '.' :: d.digits.drop whole

def exponentText (layout : Layout) (d : Decimal) : List Char :=
  let fraction := d.digits.drop 1
  let mantissa := if fraction.isEmpty then d.digits else d.digits.take 1 ++ '.' :: fraction
  let sign := if d.exponent < 0 then ['-'] else layout.exponentSign.toList
  mantissa ++ 'e' :: sign ++ Nat.toDigits 10 d.exponent.natAbs

def magnitudeText (layout : Layout) (word : Nat) : List Char :=
  if word = 0 then '0' :: layout.integerEnd.toList
  else
    let d := decimal layout.tieUp word
    if layout.positional d.exponent then positionalText layout d else exponentText layout d

def text (layout : Layout) (x : Binary64) : String :=
  let sign := if x.negative then ['-'] else []
  if x.isNaN then "NaN"
  else if x.isFinite then String.ofList (sign ++ magnitudeText layout x.word)
  else String.ofList (sign ++ "inf".toList)

end FilterQuery.Number.Shortest
