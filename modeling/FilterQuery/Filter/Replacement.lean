import FilterQuery.Filter

set_option autoImplicit false
set_option relaxedAutoImplicit false

/-!
Changes to a filter: the replacement of chosen nodes from the top down, and the addition of a
mandatory filter.
-/

namespace FilterQuery.Filter.Replacement

variable {m : Type → Type} [Monad m]

mutual

/-- Replaces the topmost nodes that `chosen` accepts by their image. A replaced node is not looked
into again, and a group that is kept is rebuilt over its changed parts. -/
def replaceM (chosen : Formula → m Bool) (image : Formula → Formula) : Formula → m Formula
  | .atom test => do
    if ← chosen (.atom test) then pure (image (.atom test)) else pure (.atom test)
  | .group connective parts => do
    if ← chosen (.group connective parts) then pure (image (.group connective parts))
    else pure (.join connective (← replaceAllM chosen image parts))

def replaceAllM (chosen : Formula → m Bool) (image : Formula → Formula) :
    List Formula → m (List Formula)
  | [] => pure []
  | part :: parts => do
    let first ← replaceM chosen image part
    let others ← replaceAllM chosen image parts
    pure (first :: others)

end

/-- A filter whose topmost chosen nodes are replaced by their image. -/
def replace (chosen : Formula → Bool) (image : Formula → Formula) (filter : Formula) : Formula :=
  Id.run (replaceM (fun node => pure (chosen node)) image filter)

/-- A filter whose topmost chosen nodes are replaced, and the nodes about which the choice was
asked, in order. -/
def replaceVisiting (chosen : Formula → Bool) (image : Formula → Formula) (filter : Formula) :
    Formula × List Formula :=
  let ask (node : Formula) : StateM (List Formula) Bool := do
    modify (node :: ·)
    pure (chosen node)
  let (result, visited) := (replaceM ask image filter).run []
  (result, visited.reverse)

/-- A mandatory filter in conjunction with a filter that may be absent. -/
def restrict (filter : Option Formula) (mandatory : Formula) : Formula :=
  match filter with
  | some filter => .join .and [filter, mandatory]
  | none => mandatory

end FilterQuery.Filter.Replacement
