import FilterQuery.Json.Reader
import FilterQuery.Toml
import FilterQuery.Toml.Literal

set_option autoImplicit false
set_option relaxedAutoImplicit false

/-!
TOML documents read from text, up to version 1.1: tables between braces may be spread over lines and
end in a comma. Whatever is wrong with a text, there is no document.
-/

namespace FilterQuery.Toml.Reader

open FilterQuery.Configuration (Item)
open FilterQuery.Json.Reader (hexValue?)

abbrev Reading (α : Type) := List Char → Option (α × List Char)

def isBlank (c : Char) : Bool :=
  c == ' ' || c == '\t'

def skipBlanks (s : List Char) : List Char :=
  s.dropWhile isBlank

/-- Control characters other than the tab; they stand nowhere within a line. -/
def isControl (c : Char) : Bool :=
  (c.toNat < 0x20 && c != '\t') || c.toNat == 0x7F

/-- The text after the end of a line, which the end of the text is too, if there is one here. -/
def lineEnd? : List Char → Option (List Char)
  | [] => some []
  | '\n' :: rest => some rest
  | '\r' :: '\n' :: rest => some rest
  | _ => none

def skipComment : List Char → List Char
  | '#' :: rest => rest.dropWhile fun c => !isControl c
  | s => s

def readLineEnd (s : List Char) : Option (List Char) :=
  lineEnd? (skipComment (skipBlanks s))

/-- The text after blanks, ends of lines and comments; every step but the last consumes
something. -/
def skipLines : Nat → List Char → List Char
  | 0, s => s
  | steps + 1, s =>
    match skipComment (skipBlanks s) with
    | '\n' :: rest => skipLines steps rest
    | '\r' :: '\n' :: rest => skipLines steps rest
    | rest => rest

def ofCode? (digits : List Char) : Option Char :=
  (digits.mapM hexValue?).bind fun values =>
    let n := values.foldl (fun n d => 16 * n + d) 0
    if n.isValidChar then some (Char.ofNat n) else none

def readEscape : Reading Char
  | 'b' :: rest => some ('\x08', rest)
  | 't' :: rest => some ('\t', rest)
  | 'n' :: rest => some ('\n', rest)
  | 'f' :: rest => some ('\x0c', rest)
  | 'r' :: rest => some ('\r', rest)
  | 'e' :: rest => some ('\x1b', rest)
  | '"' :: rest => some ('"', rest)
  | '\\' :: rest => some ('\\', rest)
  | 'x' :: a :: b :: rest => (ofCode? [a, b]).map (·, rest)
  | 'u' :: a :: b :: c :: d :: rest => (ofCode? [a, b, c, d]).map (·, rest)
  | 'U' :: a :: b :: c :: d :: e :: f :: g :: h :: rest =>
    (ofCode? [a, b, c, d, e, f, g, h]).map (·, rest)
  | _ => none

/-- The rest of a text between single marks on one line. Between double quotes a backslash
escapes. -/
def readLine (quote : Char) : Nat → Reading (List Char)
  | 0, _ => none
  | _ + 1, [] => none
  | steps + 1, c :: rest =>
    if c = quote then some ([], rest)
    else if c = '\\' ∧ quote = '"' then do
      let (c, rest) ← readEscape rest
      let (body, rest) ← readLine quote steps rest
      return (c :: body, rest)
    else if isControl c then none
    else do
      let (body, rest) ← readLine quote steps rest
      return (c :: body, rest)

def skipSpace : List Char → List Char
  | [] => []
  | '\r' :: '\n' :: rest => skipSpace rest
  | c :: rest => if isBlank c || c == '\n' then skipSpace rest else c :: rest

/-- The text after a backslash at the end of a line: everything from the next character that is not
blank. -/
def skipBreak? (s : List Char) : Option (List Char) :=
  match skipBlanks s with
  | '\n' :: rest => some (skipSpace rest)
  | '\r' :: '\n' :: rest => some (skipSpace rest)
  | _ => none

/-- The rest of a text between triple marks. Up to two marks before the closing ones belong to the
text, and so do the ends of lines, as they are. -/
def readLines (quote : Char) : Nat → Reading (List Char)
  | 0, _ => none
  | _ + 1, [] => none
  | steps + 1, c :: rest =>
    if c = quote then
      let run := (c :: rest).takeWhile (· == quote)
      if 5 < run.length then none
      else if 3 ≤ run.length then some (run.drop 3, rest.drop (run.length - 1))
      else do
        let (body, rest) ← readLines quote steps (rest.drop (run.length - 1))
        return (run ++ body, rest)
    else if c = '\\' ∧ quote = '"' then
      match skipBreak? rest with
      | some rest => readLines quote steps rest
      | none => do
        let (c, rest) ← readEscape rest
        let (body, rest) ← readLines quote steps rest
        return (c :: body, rest)
    else if isControl c && c != '\n' && !(c == '\r' && rest.head? == some '\n') then none
    else do
      let (body, rest) ← readLines quote steps rest
      return (c :: body, rest)

/-- The text after the end of a line right behind opening marks. -/
def skipFirstBreak : List Char → List Char
  | '\n' :: rest => rest
  | '\r' :: '\n' :: rest => rest
  | s => s

/-- A text after its opening mark, on one line or between triple marks. -/
def readText (quote : Char) (s : List Char) : Option (String × List Char) :=
  let body := match s with
    | a :: b :: rest =>
      if a = quote ∧ b = quote then readLines quote rest.length (skipFirstBreak rest)
        else readLine quote s.length s
    | _ => readLine quote s.length s
  body.map fun (body, rest) => (String.ofList body, rest)

def isBare (c : Char) : Bool :=
  c.isAlphanum || c == '_' || c == '-'

def readKey (s : List Char) : Option (String × List Char) :=
  match s with
  | '"' :: rest =>
    (readLine '"' rest.length rest).map fun (body, rest) => (String.ofList body, rest)
  | '\'' :: rest =>
    (readLine '\'' rest.length rest).map fun (body, rest) => (String.ofList body, rest)
  | s =>
    let bare := s.takeWhile isBare
    if bare.isEmpty then none else some (String.ofList bare, s.drop bare.length)

/-- The parts of a key with dots between them: those before the last one, and the last one. -/
def readKeys : Nat → Reading (List String × String)
  | 0, _ => none
  | steps + 1, s => do
    let (key, rest) ← readKey (skipBlanks s)
    match skipBlanks rest with
    | '.' :: rest =>
      let ((path, last), rest) ← readKeys steps rest
      return ((key :: path, last), rest)
    | rest => return (([], key), rest)

/-- How deep lists and tables may be nested, within a value or by one key. -/
def depthLimit : Nat :=
  80

def readPath : Reading (List String × String) := fun s => do
  let (keys, rest) ← readKeys s.length s
  if keys.1.length < depthLimit then some (keys, rest) else none

def isPlain (c : Char) : Bool :=
  !isBlank c && !(['\n', '\r', '#', '=', ',', '[', ']', '\x7b', '\x7d'].contains c)

/-- Whether a text begins with a character that goes on with such a value after blanks; a quote does
not. -/
def isContinued (s : List Char) : Bool :=
  s.head?.any fun c => isPlain c && c != '"' && c != '\''

/-- A value without quotes or brackets as it is written, with blanks between its words, and what
follows it. -/
def takePlain : List Char → List Char × List Char
  | [] => ([], [])
  | c :: rest =>
    if isPlain c || (isBlank c && isContinued (skipBlanks rest)) then
      let (plain, rest) := takePlain rest
      (c :: plain, rest)
    else ([], c :: rest)

def readLiteral (s : List Char) : Option (Item × List Char) :=
  let (plain, rest) := takePlain s
  (Literal.read? plain).map (·, rest)

def readItems (value : Reading Item) (lines : Nat) : Nat → Reading (List Item)
  | 0, _ => none
  | steps + 1, s =>
    match skipLines lines s with
    | ']' :: rest => some ([], rest)
    | s => do
      let (item, rest) ← value s
      match skipLines lines rest with
      | ',' :: rest =>
        let (items, rest) ← readItems value lines steps rest
        return (item :: items, rest)
      | ']' :: rest => return ([item], rest)
      | _ => none

/-- A key, the sign of equality and a value, where `skip` tells what may stand on either side of the
sign. -/
def readAssignment (skip : List Char → List Char) (value : Reading Item) : Reading Assignment :=
  fun s => do
    let ((path, key), rest) ← readPath s
    match skip rest with
    | '=' :: rest =>
      let (item, rest) ← value (skip rest)
      return (⟨path, key, item⟩, rest)
    | _ => none

def readAssignments (value : Reading Item) (lines : Nat) : Nat → Reading (List Assignment)
  | 0, _ => none
  | steps + 1, s =>
    match skipLines lines s with
    | '\x7d' :: rest => some ([], rest)
    | s => do
      let (assignment, rest) ← readAssignment (skipLines lines) value s
      match skipLines lines rest with
      | ',' :: rest =>
        let (assignments, rest) ← readAssignments value lines steps rest
        return (assignment :: assignments, rest)
      | '\x7d' :: rest => return ([assignment], rest)
      | _ => none

/-- A value in which lists and tables are nested at most so deep; nothing has more than so many
parts. -/
def readValue (steps : Nat) : Nat → Reading Item
  | 0, s =>
    match s with
    | '"' :: rest => (readText '"' rest).map fun (s, rest) => (.text s, rest)
    | '\'' :: rest => (readText '\'' rest).map fun (s, rest) => (.text s, rest)
    | s => readLiteral s
  | depth + 1, s =>
    match s with
    | '"' :: rest => (readText '"' rest).map fun (s, rest) => (.text s, rest)
    | '\'' :: rest => (readText '\'' rest).map fun (s, rest) => (.text s, rest)
    | '[' :: rest =>
      (readItems (readValue steps depth) steps steps rest).map fun (items, rest) =>
        (.list items, rest)
    | '\x7b' :: rest => do
      let (assignments, rest) ← readAssignments (readValue steps depth) steps steps rest
      let table ← tableOf? assignments
      return (table, rest)
    | s => readLiteral s

def readHeader (s : List Char) : Option (Header × List Char) :=
  match s with
  | '[' :: '[' :: rest => do
    let ((path, key), rest) ← readPath rest
    match rest with
    | ']' :: ']' :: rest => return (⟨path, key, true⟩, rest)
    | _ => none
  | '[' :: rest => do
    let ((path, key), rest) ← readPath rest
    match rest with
    | ']' :: rest => return (⟨path, key, false⟩, rest)
    | _ => none
  | _ => none

/-- The assignments that come next, each on a line of its own, and the sections after them. -/
def readLinesOf (size : Nat) : Nat → List Char → Option (List Assignment × List Section)
  | 0, _ => none
  | steps + 1, s =>
    match skipLines size s with
    | [] => some ([], [])
    | '[' :: rest => do
      let (header, rest) ← readHeader ('[' :: rest)
      let rest ← readLineEnd rest
      let (assignments, sections) ← readLinesOf size steps rest
      return ([], ⟨header, assignments⟩ :: sections)
    | s => do
      let (assignment, rest) ← readAssignment skipBlanks (readValue size depthLimit) s
      let rest ← readLineEnd rest
      let (assignments, sections) ← readLinesOf size steps rest
      return (assignment :: assignments, sections)

/-- The table that a text says. A byte order mark may stand in front. -/
def read? (text : String) : Option Item := do
  let s := match text.toList with
    | '\ufeff' :: rest => rest
    | s => s
  let (assignments, sections) ← readLinesOf (s.length + 1) (s.length + 1) s
  documentOf? assignments sections

end FilterQuery.Toml.Reader
