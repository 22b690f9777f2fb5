set_option autoImplicit false
set_option relaxedAutoImplicit false

/-!
Blank characters, the Unicode property White_Space, and the removal of blanks from both ends of a
text.
-/

namespace FilterQuery.Text.Blank

/-- The characters of White_Space: the zero width space, the byte order mark and the separators
below U+0020 other than tab, line feed, line tabulation, form feed and carriage return are not among
them. -/
def isBlank (c : Char) : Bool :=
  let n := c.toNat
  (9 ≤ n && n ≤ 13) || n == 0x20 || n == 0x85 || n == 0xA0 || n == 0x1680 ||
    (0x2000 ≤ n && n ≤ 0x200A) ||
    n == 0x2028 || n == 0x2029 || n == 0x202F || n == 0x205F || n == 0x3000

def trimChars (s : List Char) : List Char :=
  ((s.dropWhile isBlank).reverse.dropWhile isBlank).reverse

def trim (s : String) : String :=
  String.ofList (trimChars s.toList)

end FilterQuery.Text.Blank
