import FilterQuery.Settings

set_option autoImplicit false
set_option relaxedAutoImplicit false

/-!
Pages: the part of a result that a query asks for.
-/

namespace FilterQuery

/-- So many records after so many others. -/
structure Page where
  offset : Nat
  limit : Nat
  deriving DecidableEq

namespace Page

/-- The page for the numbers of a query. An offset below one means the start. A limit below one or
above the greatest allowed means the usual one. -/
def resolve (offset limit : Option Int) (settings : PageSettings) : Page where
  offset := (offset.getD 0).toNat
  limit :=
    match limit with
    | some n => if 0 < n ∧ n.toNat ≤ settings.maxLimit then n.toNat else settings.defaultLimit
    | none => settings.defaultLimit

def maxPlace : Nat :=
  0xFFFFFFFFFFFFFFFF

/-- A number as a place in a list; one that is too large becomes the greatest place. -/
def toPlace (n : Nat) : Nat :=
  min n maxPlace

/-- The place of the first record of a page in a result of a size. -/
def start (page : Page) (size : Nat) : Nat :=
  min (toPlace page.offset) size

/-- The place after the last record of a page in a result of a size. -/
def stop (page : Page) (size : Nat) : Nat :=
  min (toPlace (page.start size + toPlace page.limit)) size

def slice {α : Type} (page : Page) (items : List α) : List α :=
  items.extract (page.start items.length) (page.stop items.length)

end Page

end FilterQuery
