set_option autoImplicit false
set_option relaxedAutoImplicit false

/-!
Binary floating-point numbers of 64 bits in exact arithmetic. A number is a sign and a magnitude
word; the words count the magnitudes in increasing order from zero, so the order of words is the
order of magnitudes.
-/

namespace FilterQuery.Number

def twoTo (n : Nat) : Nat :=
  Nat.pow 2 n

def tenTo (n : Nat) : Nat :=
  Nat.pow 10 n

/-- The magnitude word of infinity. The words above it are not numbers. -/
def infinityWord : Nat :=
  0x7FF0000000000000

/-- A 64-bit floating-point number: its sign bit and the other 63 bits read as one word. -/
structure Binary64 where
  negative : Bool
  word : Nat
  word_lt : word < 0x8000000000000000
  deriving DecidableEq

/-- The magnitude that a finite word stands for, in units of the least positive magnitude, 2 ^
-1074. -/
def units (word : Nat) : Nat :=
  if word < twoTo 52 then word else (word % twoTo 52 + twoTo 52) * twoTo (word / twoTo 52 - 1)

/-- A quotient rounded to the nearest natural number, a tie to the even one. -/
def roundQuotient (num den : Nat) : Nat :=
  let low := num / den
  let rest := num % den
  if 2 * rest < den then low else if den < 2 * rest then low + 1 else low + low % 2

/-- The word of the magnitude nearest to a quotient, a tie to the even word. With `shift` the least
exponent at which the quotient has at most 53 binary digits, a carry out of the digits moves the
word to the next exponent by itself. -/
def roundWord (num den : Nat) : Nat :=
  let scaled := num * twoTo 1074
  let shift := Nat.log2 (scaled / den) - 52
  min (shift * twoTo 52 + roundQuotient scaled (den * twoTo shift)) infinityWord

private theorem roundWord_lt (num den : Nat) : roundWord num den < 0x8000000000000000 := by
  simp only [roundWord, infinityWord]
  omega

namespace Binary64

def ofQuotient (negative : Bool) (num den : Nat) : Binary64 :=
  ⟨negative, roundWord num den, roundWord_lt num den⟩

def ofInt (n : Int) : Binary64 :=
  ofQuotient (n < 0) n.natAbs 1

def zero (negative : Bool) : Binary64 :=
  ⟨negative, 0, by decide⟩

def infinity (negative : Bool) : Binary64 :=
  ⟨negative, infinityWord, by decide⟩

def nan : Binary64 :=
  ⟨false, 0x7FF8000000000000, by decide⟩

def isNaN (x : Binary64) : Bool :=
  infinityWord < x.word

/-- Whether a value is neither infinite nor outside the numbers. -/
def isFinite (x : Binary64) : Bool :=
  x.word < infinityWord

def bits (x : Binary64) : Nat :=
  (if x.negative then 0x8000000000000000 else 0) + x.word

def mul (x y : Binary64) : Binary64 :=
  ofQuotient (x.negative != y.negative) (units x.word * units y.word) (twoTo 2148)

/-- The quotient of a finite number by a finite number other than zero, rounded once. -/
def div (x y : Binary64) : Binary64 :=
  ofQuotient (x.negative != y.negative) (units x.word) (units y.word)

/-- Numeric equality: zeros of either sign are equal, and what is not a number equals nothing. -/
def equals (x y : Binary64) : Bool :=
  !x.isNaN && !y.isNaN && (x == y || (x.word == 0 && y.word == 0))

/-- The place of a number in the total order of all values, in which negative zero comes right
before zero. -/
def rank (x : Binary64) : Int :=
  if x.negative then -1 - x.word else x.word

end Binary64

end FilterQuery.Number
