set_option autoImplicit false
set_option relaxedAutoImplicit false

/-!
The texts that name a universally unique identifier of 128 bits.
-/

namespace FilterQuery.Scalar.Uuid

def isHexDigit (c : Char) : Bool :=
  c.isDigit || ('a' ≤ c && c ≤ 'f') || ('A' ≤ c && c ≤ 'F')

def isPlain (s : List Char) : Bool :=
  s.length == 32 && s.all isHexDigit

/-- Groups of 8, 4, 4, 4 and 12 digits with a hyphen between them. -/
def isHyphenated (s : List Char) : Bool :=
  s.length == 36 && s.zipIdx.all fun (c, i) =>
    if i == 8 || i == 13 || i == 18 || i == 23 then c == '-' else isHexDigit c

def unbraced? : List Char → Option (List Char)
  | '\x7b' :: rest => if rest.getLast? = some '\x7d' then some rest.dropLast else none
  | _ => none

/-- What follows the name of the resource scheme, in any letter case. -/
def unschemed? (s : List Char) : Option (List Char) :=
  if (s.take 9).map Char.toLower = "urn:uuid:".toList then some (s.drop 9) else none

/-- Whether a text is an identifier: plain, or hyphenated and then possibly in braces or after the
resource scheme. -/
def isUuid (s : List Char) : Bool :=
  isPlain s || isHyphenated s || (unbraced? s).any isHyphenated || (unschemed? s).any isHyphenated

end FilterQuery.Scalar.Uuid
