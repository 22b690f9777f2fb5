import FilterQuery.Like
import Mathlib.Data.List.Infix

set_option autoImplicit false
set_option relaxedAutoImplicit false

/-!
What LIKE means to a database that takes the backslash as its escape character. A pattern handed
over with its last backslash terminated matches there what its parts match here.
-/

namespace FilterQuery.Sql

open FilterQuery.Like

/-- Whether a pattern matches the whole of a text; letter case counts. An escape character at the
end matches nothing. -/
def likes : List Char → List Char → Bool
  | [], s => s.isEmpty
  | '%' :: rest, s => s.tails.any (likes rest)
  | '_' :: _, [] => false
  | '_' :: rest, _ :: s => likes rest s
  | ['\\'], _ => false
  | '\\' :: _ :: _, [] => false
  | '\\' :: c :: rest, d :: s => c == d && likes rest s
  | _ :: _, [] => false
  | c :: rest, d :: s => c == d && likes rest s

/-- Whether the last backslash of a pattern escapes nothing. -/
def dangles : List Char → Bool
  | [] => false
  | ['\\'] => true
  | '\\' :: _ :: rest => dangles rest
  | _ :: rest => dangles rest

section Matching

variable {same : Char → Char → Bool}

private theorem matchRow_cons (pattern : List Piece) (c : Char) (s : List Char) :
    matchRow same pattern (c :: s) = accepts same pattern (c :: s) :: matchRow same pattern s := by
  induction pattern with
  | nil => rfl
  | cons piece rest ih =>
    have tail : (matchRow same rest (c :: s)).drop 1 = matchRow same rest s := by rw [ih]; rfl
    cases piece with
    | run =>
      have step : matchRow same (.run :: rest) (c :: s) = runRow (matchRow same rest (c :: s)) :=
        rfl
      unfold accepts
      rw [step, ih]
      rfl
    | one =>
      have step : matchRow same (.one :: rest) (c :: s) =
        _ :: stepRow _ s ((matchRow same rest (c :: s)).drop 1) := rfl
      unfold accepts
      rw [step, tail]
      rfl
    | char d =>
      have step : matchRow same (.char d :: rest) (c :: s) =
        _ :: stepRow _ s ((matchRow same rest (c :: s)).drop 1) := rfl
      unfold accepts
      rw [step, tail]
      rfl

private theorem matchRow_nil (pattern : List Piece) :
    matchRow same pattern [] = [accepts same pattern []] := by
  cases pattern with
  | nil => rfl
  | cons piece rest =>
    cases piece with
    | run =>
      have step : matchRow same (.run :: rest) [] = runRow (matchRow same rest []) := rfl
      have last : matchRow same rest [] = [accepts same rest []] := matchRow_nil rest
      unfold accepts
      rw [step, last]
      rfl
    | one => rfl
    | char c => rfl

theorem accepts_run (rest : List Piece) (s : List Char) :
    accepts same (.run :: rest) s = s.tails.any (accepts same rest) := by
  have step : ∀ s, matchRow same (.run :: rest) s = runRow (matchRow same rest s) := fun _ => rfl
  induction s with
  | nil =>
    conv_lhs => rw [accepts, step, matchRow_nil]
    simp [runRow]
  | cons c s ih =>
    rw [List.tails_cons, List.any_cons, ← ih]
    conv_lhs => rw [accepts, step, matchRow_cons]
    rfl

theorem accepts_one_cons (rest : List Piece) (c : Char) (s : List Char) :
    accepts same (.one :: rest) (c :: s) = accepts same rest s := by
  have step : accepts same (.one :: rest) (c :: s) =
      (true && ((matchRow same rest (c :: s)).drop 1).headD false) := rfl
  rw [step, matchRow_cons]
  rfl

theorem accepts_char_cons (rest : List Piece) (c d : Char) (s : List Char) :
    accepts same (.char c :: rest) (d :: s) = (same c d && accepts same rest s) := by
  have step : accepts same (.char c :: rest) (d :: s) =
      (same c d && ((matchRow same rest (d :: s)).drop 1).headD false) := rfl
  rw [step, matchRow_cons]
  rfl

end Matching

section Escaping

theorem ne_escape {c : Char} {rest : List Char} (notLast : c = '\\' → rest = [] → False)
    (notEscape : ∀ d others, c = '\\' → rest = d :: others → False) : c ≠ '\\' := by
  intro escape
  cases rest with
  | nil => exact notLast escape rfl
  | cons d rest => exact notEscape d rest escape rfl

private theorem dangles_cons {c : Char} (plain : c ≠ '\\') (rest : List Char) :
    dangles (c :: rest) = dangles rest := by
  rw [dangles]
  · intro escape
    exact absurd escape plain
  · intro d others escape
    exact absurd escape plain

theorem likes_char_cons {c : Char} (notRun : c ≠ '%') (notOne : c ≠ '_') (plain : c ≠ '\\')
    (rest : List Char) (d : Char) (s : List Char) :
    likes (c :: rest) (d :: s) = (c == d && likes rest s) := by
  rw [likes]
  · exact notRun
  · exact notOne
  · intro escape
    exact absurd escape plain
  · intro e others escape
    exact absurd escape plain

/-- A pattern whose last backslash escapes something matches what its parts match. -/
theorem likes_eq_accepts {pattern : List Char} (closed : dangles pattern = false) (s : List Char) :
    likes pattern s = accepts (· == ·) (pieces pattern) s := by
  fun_induction pieces pattern generalizing s with
  | case1 => cases s <;> rfl
  | case2 rest ih =>
    rw [likes, accepts_run]
    congr 1
    funext t
    exact ih (by rwa [dangles_cons (by decide)] at closed) t
  | case3 rest ih =>
    cases s with
    | nil => rfl
    | cons c s => rw [likes, accepts_one_cons, ih (by rwa [dangles_cons (by decide)] at closed)]
  | case4 => cases closed
  | case5 c rest ih =>
    cases s with
    | nil => rfl
    | cons d s => rw [likes, accepts_char_cons, ih (by rwa [dangles] at closed)]
  | case6 c rest notRun notOne notLast notEscape ih =>
    have plain := ne_escape notLast notEscape
    cases s with
    | nil => simp only [likes]; rfl
    | cons d s =>
      rw [likes_char_cons notRun notOne plain, accepts_char_cons,
        ih (by rwa [dangles_cons plain] at closed)]

def trailing (pattern : List Char) : Nat :=
  (pattern.reverse.takeWhile (· == '\\')).length

private theorem trailing_le (pattern : List Char) : trailing pattern ≤ pattern.length := by
  have bound := (List.takeWhile_sublist (· == '\\') (l := pattern.reverse)).length_le
  rwa [List.length_reverse] at bound

private theorem trailing_cons (c : Char) (rest : List Char) :
    trailing (c :: rest) =
      if c = '\\' ∧ trailing rest = rest.length then trailing rest + 1 else trailing rest := by
  unfold trailing
  rw [List.reverse_cons, List.takeWhile_append, List.length_reverse]
  by_cases all : (rest.reverse.takeWhile (· == '\\')).length = rest.length
  · by_cases escape : c = '\\'
    · simp [all, escape]
    · simp [all, escape]
  · simp [all]

private theorem dangles_eq (pattern : List Char) :
    dangles pattern = decide (trailing pattern % 2 = 1) := by
  fun_induction dangles pattern with
  | case1 => rfl
  | case2 => rfl
  | case3 c rest ih =>
    have bound := trailing_le rest
    rw [ih, trailing_cons '\\', trailing_cons c, List.length_cons]
    congr 1
    by_cases all : c = '\\' ∧ trailing rest = rest.length
    · rw [if_pos all, if_pos ⟨rfl, by omega⟩]
      exact propext (by omega)
    · rw [if_neg all, if_neg (by omega)]
  | case4 c rest notLast notEscape ih =>
    have plain := ne_escape notLast notEscape
    rw [ih, trailing_cons, if_neg (fun all => plain all.1)]

private theorem pieces_append_escape {pattern : List Char} (dangling : dangles pattern = true) :
    pieces (pattern ++ ['\\']) = pieces pattern ∧ dangles (pattern ++ ['\\']) = false := by
  fun_induction pieces pattern with
  | case1 => cases dangling
  | case2 rest ih =>
    rw [dangles_cons (by decide)] at dangling
    rw [List.cons_append, pieces, dangles_cons (by decide), (ih dangling).1]
    exact ⟨rfl, (ih dangling).2⟩
  | case3 rest ih =>
    rw [dangles_cons (by decide)] at dangling
    rw [List.cons_append, pieces, dangles_cons (by decide), (ih dangling).1]
    exact ⟨rfl, (ih dangling).2⟩
  | case4 => exact ⟨rfl, rfl⟩
  | case5 c rest ih =>
    rw [dangles] at dangling
    rw [List.cons_append, List.cons_append, pieces, dangles, (ih dangling).1]
    exact ⟨rfl, (ih dangling).2⟩
  | case6 c rest notRun notOne notLast notEscape ih =>
    have plain := ne_escape notLast notEscape
    rw [dangles_cons plain] at dangling
    rw [List.cons_append, dangles_cons plain]
    refine ⟨?_, (ih dangling).2⟩
    rw [pieces, (ih dangling).1]
    · exact notRun
    · exact notOne
    · exact fun escape => absurd escape plain
    · exact fun _ _ escape => absurd escape plain

/-- A terminated pattern has the parts of the pattern, and its last backslash escapes something. -/
theorem pieces_terminated (pattern : List Char) :
    pieces (terminated pattern) = pieces pattern ∧ dangles (terminated pattern) = false := by
  have parity : terminated pattern = if trailing pattern % 2 = 1 then pattern ++ ['\\']
    else pattern := rfl
  rw [parity]
  by_cases odd : trailing pattern % 2 = 1
  · have dangling : dangles pattern = true := by rw [dangles_eq, decide_eq_true odd]
    rw [if_pos odd]
    exact pieces_append_escape dangling
  · rw [if_neg odd, dangles_eq, decide_eq_false odd]
    exact ⟨rfl, rfl⟩

end Escaping

theorem likes_terminated (pattern s : List Char) :
    likes (terminated pattern) s = accepts (· == ·) (pieces pattern) s := by
  obtain ⟨same, closed⟩ := pieces_terminated pattern
  rw [likes_eq_accepts closed, same]

end FilterQuery.Sql
