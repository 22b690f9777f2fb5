set_option autoImplicit false
set_option relaxedAutoImplicit false

/-!
Settings of the compilers: the size of pages, and whether letter case counts when texts are sorted.
-/

namespace FilterQuery

/-- How many records a page has where the query does not tell, and how many it may ask for. -/
structure PageSettings where
  defaultLimit : Nat
  maxLimit : Nat
  deriving DecidableEq

def PageSettings.default : PageSettings :=
  ⟨20, 100⟩

/-- All settings. -/
structure Settings where
  paging : PageSettings
  caseSensitive : Bool
  deriving DecidableEq

def Settings.default : Settings :=
  ⟨.default, true⟩

end FilterQuery
