import FilterQuery.Scalar.Timestamp

set_option autoImplicit false
set_option relaxedAutoImplicit false

/-!
The moments of a TOML document: a date, a time of day, or both, then perhaps with an offset. Seconds
may be left out.
-/

namespace FilterQuery.Toml.Moment

open FilterQuery.Scalar.Timestamp

def readDate : Reader Unit := do
  let year ← readDigits 4 (some 4)
  let _ ← readChar (· == '-')
  let month ← readDigits 2 (some 2)
  let _ ← readChar (· == '-')
  let day ← readDigits 2 (some 2)
  require (isDate year month day)

/-- The seconds of a time, with as many decimal places as wanted. -/
def readSeconds : Reader Nat := do
  let _ ← readChar (· == ':')
  let second ← readDigits 2 (some 2)
  let fraction : Reader Unit := do
    let _ ← readChar (· == '.')
    let _ ← readDigits 1 none
  fraction <|> pure ()
  return second

def readTime : Reader Unit := do
  let hour ← readDigits 2 (some 2)
  let _ ← readChar (· == ':')
  let minute ← readDigits 2 (some 2)
  let second ← readSeconds <|> pure 0
  require (isTime hour minute second)

def readOffset : Reader Unit :=
  (do let _ ← readChar fun c => c == 'Z' || c == 'z') <|>
  (do
    let _ ← readChar fun c => c == '+' || c == '-'
    let hour ← readDigits 2 (some 2)
    let _ ← readChar (· == ':')
    let minute ← readDigits 2 (some 2)
    require (hour ≤ 23 && minute ≤ 59))

def readDateTime : Reader Unit := do
  readDate
  let _ ← readChar fun c => c == 'T' || c == 't' || c == ' '
  readTime
  readOffset <|> pure ()

def isMoment (s : List Char) : Bool :=
  let accepted (reader : Reader Unit) : Bool := ((do reader; readEnd : Reader Unit).run s).isSome
  accepted readDateTime || accepted readDate || accepted readTime

end FilterQuery.Toml.Moment
