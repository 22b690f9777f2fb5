import FilterQuery.Number

set_option autoImplicit false
set_option relaxedAutoImplicit false

/-!
Numbers read from text: integers within 64 bits, and decimals rounded correctly to floating point.
-/

namespace FilterQuery.Number.Reading

def natOfDigits (digits : List Char) : Nat :=
  digits.foldl (fun n c => 10 * n + (c.toNat - '0'.toNat)) 0

def takeSign : List Char → Bool × List Char
  | '-' :: rest => (true, rest)
  | '+' :: rest => (false, rest)
  | rest => (false, rest)

def isDigits (s : List Char) : Bool :=
  !s.isEmpty && s.all Char.isDigit

def inInt64 (n : Int) : Bool :=
  -0x8000000000000000 ≤ n && n < 0x8000000000000000

/-- An integer of 64 bits with a sign: an optional sign and decimal digits. -/
def int64? (s : List Char) : Option Int :=
  let (negative, digits) := takeSign s
  if isDigits digits then
    let n : Int := natOfDigits digits
    let n := if negative then -n else n
    if inInt64 n then some n else none
  else none

/-- The number nearest to `mantissa` times a power of ten. Far outside the range of exponents the
result is known without the power. -/
def ofDecimal (negative : Bool) (mantissa : Nat) (exponent : Int) : Binary64 :=
  let magnitude := (Nat.toDigits 10 mantissa).length + exponent
  if mantissa = 0 then .zero negative
  else if 310 < magnitude then .infinity negative
  else if magnitude < -330 then .zero negative
  else if 0 ≤ exponent then .ofQuotient negative (mantissa * tenTo exponent.toNat) 1
  else .ofQuotient negative mantissa (tenTo (-exponent).toNat)

/-- An exponent after its mark, zero where there is none; `none` where the mark stands without
digits or anything else follows. -/
def exponent? : List Char → Option Int
  | [] => some 0
  | mark :: rest =>
    if mark = 'e' ∨ mark = 'E' then
      let (negative, digits) := takeSign rest
      if isDigits digits then
        let n : Int := natOfDigits digits
        some (if negative then -n else n)
      else none
    else none

/-- A decimal without its sign: digits with an optional point, at least one digit, and an optional
exponent. -/
def decimal? (negative : Bool) (s : List Char) : Option Binary64 :=
  let whole := s.takeWhile Char.isDigit
  let rest := s.dropWhile Char.isDigit
  let (fraction, rest) :=
    match rest with
    | '.' :: rest => (rest.takeWhile Char.isDigit, rest.dropWhile Char.isDigit)
    | rest => ([], rest)
  if whole.isEmpty && fraction.isEmpty then none
  else (exponent? rest).map fun e =>
    ofDecimal negative (natOfDigits (whole ++ fraction)) (e - fraction.length)

/-- A floating-point number: a decimal, or a word for infinity or for no number in any letter case,
with an optional sign. -/
def binary64? (s : List Char) : Option Binary64 :=
  let (negative, rest) := takeSign s
  let word := String.ofList (rest.map Char.toLower)
  if word = "inf" ∨ word = "infinity" then some (.infinity negative)
  else if word = "nan" then some { Binary64.nan with negative := negative }
  else decimal? negative rest

end FilterQuery.Number.Reading
