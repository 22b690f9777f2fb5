import FilterQuery.Proofs.Like.Language

set_option autoImplicit false
set_option relaxedAutoImplicit false

/-!
Which patterns of LIKE have no regular expression. The program of a pattern grows with the parts of
the pattern, and the engine refuses those whose program is too large.
-/

namespace FilterQuery.Like

private theorem programSize_cons (ignoreCase : Bool) (part : Piece) (parts : List Piece) :
    programSize ignoreCase (part :: parts) =
      part.size ignoreCase + programSize ignoreCase parts := by
  rfl

/-- The regular expression of a pattern is refused exactly if the program of its parts is too
large. -/
theorem refusal_expression (ignoreCase : Bool) (pattern : List Char) :
    (refusal (expression ignoreCase pattern)).isSome =
      decide (sizeLimit < programSize ignoreCase (pieces pattern)) := by
  unfold refusal
  rw [readExpression_expression]
  by_cases large : sizeLimit < programSize ignoreCase (pieces pattern) <;> simp [large]

def ofLength (n : Nat) : List Char :=
  List.replicate n '_'

private theorem programSize_ofLength (ignoreCase : Bool) (n : Nat) :
    programSize ignoreCase (pieces (ofLength n)) = 964 * n + 192 := by
  induction n with
  | zero => rfl
  | succ n ih =>
    have step : pieces (ofLength (n + 1)) = .one :: pieces (ofLength n) := rfl
    have dot : Piece.one.size ignoreCase = 964 := rfl
    rw [step, programSize_cons, ih, dot]
    omega

theorem refusal_ofLength (ignoreCase : Bool) (n : Nat) :
    (refusal (expression ignoreCase (ofLength n))).isSome = decide (10877 < n) := by
  rw [refusal_expression, programSize_ofLength]
  have limit : sizeLimit = 10485760 := rfl
  rw [limit]
  exact decide_eq_decide.2 (by omega)

end FilterQuery.Like
