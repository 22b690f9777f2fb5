import FilterQuery.Text.Printable

set_option autoImplicit false
set_option relaxedAutoImplicit false

/-!
Text between double quotes for people to read: what would be ambiguous or invisible is escaped.
-/

namespace FilterQuery.Text.Quoted

open FilterQuery.Text.Printable

/-- The digits of a number in lower case hexadecimal, without padding. -/
def hexDigits (n : Nat) : List Char :=
  Nat.toDigits 16 n

def escapeChar (c : Char) : List Char :=
  if c = '"' then ['\\', '"']
  else if c = '\\' then ['\\', '\\']
  else if c = '\x00' then ['\\', '0']
  else if c = '\t' then ['\\', 't']
  else if c = '\n' then ['\\', 'n']
  else if c = '\r' then ['\\', 'r']
  else if isPrintable c then [c]
  else ['\\', 'u', '\x7b'] ++ hexDigits c.toNat ++ ['\x7d']

def quote (s : String) : String :=
  String.ofList ('"' :: s.toList.flatMap escapeChar ++ ['"'])

end FilterQuery.Text.Quoted
