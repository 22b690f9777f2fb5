import FilterQuery.Number.Reading
import FilterQuery.Text.Blank

set_option autoImplicit false
set_option relaxedAutoImplicit false

/-!
The texts that name a moment: a date and time with an offset in the fixed form of the internet
standard, or a date, with or without a time of day, in a form that leaves room for blanks.
-/

namespace FilterQuery.Scalar.Timestamp

open FilterQuery.Number.Reading (natOfDigits)
open FilterQuery.Text.Blank (isBlank)

abbrev Reader := StateT (List Char) Option

def readChar (accepts : Char → Bool) : Reader Char := fun
  | c :: rest => if accepts c then some (c, rest) else none
  | [] => none

/-- Reads at least `least` digits and, unless `most` is absent, at most that many. -/
def readDigits (least : Nat) (most : Option Nat) : Reader Nat := fun s =>
  let run := s.takeWhile Char.isDigit
  let digits := match most with
    | some n => run.take n
    | none => run
  if digits.length < least then none else some (natOfDigits digits, s.drop digits.length)

def skipBlanks : Reader Unit := fun s => some ((), s.dropWhile isBlank)

def readEnd : Reader Unit := fun s => if s.isEmpty then some ((), []) else none

def require (condition : Bool) : Reader Unit := fun s => if condition then some ((), s) else none

/-- Whether a year of the proleptic Gregorian calendar has a 29 February. -/
def isLeap (year : Int) : Bool :=
  year % 4 == 0 && (year % 100 != 0 || year % 400 == 0)

def daysIn (year : Int) (month : Nat) : Nat :=
  if month = 2 then (if isLeap year then 29 else 28)
  else if month = 4 || month = 6 || month = 9 || month = 11 then 30
  else 31

def isDate (year : Int) (month day : Nat) : Bool :=
  -262143 ≤ year && year ≤ 262142 && 1 ≤ month && month ≤ 12 && 1 ≤ day && day ≤ daysIn year month

/-- Whether a time of day exists; a leap second may follow any minute. -/
def isTime (hour minute second : Nat) : Bool :=
  hour ≤ 23 && minute ≤ 59 && second ≤ 60

/-- A date, a separator, a time of day and an offset, every number with its full width. -/
def readInstant : Reader Unit := do
  let year ← readDigits 4 (some 4)
  let _ ← readChar (· == '-')
  let month ← readDigits 2 (some 2)
  let _ ← readChar (· == '-')
  let day ← readDigits 2 (some 2)
  let _ ← readChar fun c => c == 'T' || c == 't' || c == ' '
  let hour ← readDigits 2 (some 2)
  let _ ← readChar (· == ':')
  let minute ← readDigits 2 (some 2)
  let _ ← readChar (· == ':')
  let second ← readDigits 2 (some 2)
  require (isDate year month day && isTime hour minute second)
  let fraction : Reader Unit := do
    let _ ← readChar (· == '.')
    let _ ← readDigits 1 none
  let universal : Reader Unit := do
    let _ ← readChar fun c => c == 'Z' || c == 'z'
  let offset : Reader Unit := do
    let _ ← readChar fun c => c == '+' || c == '-' || c == '−'
    let hours ← readDigits 2 (some 2)
    let _ ← readChar (· == ':')
    let minutes ← readDigits 2 (some 2)
    require (hours ≤ 23 && minutes ≤ 59)
  fraction <|> pure ()
  universal <|> offset
  readEnd

def readField : Reader Nat := do
  skipBlanks
  readDigits 1 (some 2)

/-- A year after blanks: up to four digits, or any number of digits after a sign. -/
def readYear : Reader Int := do
  skipBlanks
  let signed (sign : Char) : Reader Nat := do
    let _ ← readChar (· == sign)
    readDigits 1 none
  (do pure (-(← signed '-' : Nat) : Int)) <|> (do pure (← signed '+' : Nat)) <|>
    (do pure (← readDigits 1 (some 4) : Nat))

def readDate : Reader Unit := do
  let year ← readYear
  let _ ← readChar (· == '-')
  let month ← readField
  let _ ← readChar (· == '-')
  let day ← readField
  require (isDate year month day)

def readTime : Reader Unit := do
  let hour ← readField
  let _ ← readChar (· == ':')
  let minute ← readField
  let _ ← readChar (· == ':')
  let second ← readField
  require (isTime hour minute second)

def isTimestamp (s : List Char) : Bool :=
  let accepted (reader : Reader Unit) : Bool := (reader.run s).isSome
  accepted readInstant || accepted (do readDate; readTime; readEnd) ||
    accepted (do readDate; readEnd)

end FilterQuery.Scalar.Timestamp
