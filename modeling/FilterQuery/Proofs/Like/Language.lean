import FilterQuery.Like.Engine
import FilterQuery.Memory.Predicate
import FilterQuery.Proofs.Sql.Pattern
import FilterQuery.Relational
import Mathlib.Computability.Language
import Mathlib.Tactic.TFAE

set_option autoImplicit false
set_option relaxedAutoImplicit false

/-!
Three readings of one pattern of LIKE. The rows of its parts accept a text, or the text belongs to
the language of the regular expression that is written for the pattern, or the text is matched by
the rules of LIKE in a database, which is given the pattern with its last backslash terminated. All
three accept the same texts.
-/

namespace FilterQuery.Like

open scoped Computability
open FilterQuery.Sql (accepts_run accepts_one_cons accepts_char_cons)

def singles : Language Char :=
  {s | ∃ c, s = [c]}

def Piece.language (same : Char → Char → Bool) : Piece → Language Char
  | .run => singles∗
  | .one => singles
  | .char c => {s | ∃ d, s = [d] ∧ same c d = true}

def language (same : Char → Char → Bool) (pattern : List Piece) : Language Char :=
  (pattern.map (Piece.language same)).prod

variable {same : Char → Char → Bool}

private theorem mem_language_cons {piece : Piece} {rest : List Piece} {s : List Char} :
    s ∈ language same (piece :: rest) ↔
      ∃ a ∈ piece.language same, ∃ b ∈ language same rest, a ++ b = s := by
  unfold language
  rw [List.map_cons, List.prod_cons, Language.mem_mul]

private theorem mem_language_run (s : List Char) : s ∈ Piece.run.language same := by
  refine Language.mem_kstar.2 ⟨s.map ([·]), by rw [← List.flatMap_def, List.flatMap_singleton'], ?_⟩
  intro single member
  obtain ⟨c, -, rfl⟩ := List.mem_map.1 member
  exact ⟨c, rfl⟩

private theorem accepts_iff_mem_language {pattern : List Piece} {s : List Char} :
    accepts same pattern s = true ↔ s ∈ language same pattern := by
  induction pattern generalizing s with
  | nil =>
    have whole : accepts same [] s = s.isEmpty := by cases s <;> rfl
    have empty : language same [] = 1 := rfl
    rw [whole, empty, Language.mem_one, List.isEmpty_iff]
  | cons piece rest ih =>
    rw [mem_language_cons]
    cases piece with
    | run =>
      rw [accepts_run, List.any_eq_true]
      constructor
      · rintro ⟨b, suffix, accepted⟩
        obtain ⟨a, joined⟩ := (List.mem_tails b s).1 suffix
        exact ⟨a, mem_language_run a, b, ih.1 accepted, joined⟩
      · rintro ⟨a, -, b, inside, rfl⟩
        exact ⟨b, (List.mem_tails b _).2 (List.suffix_append a b), ih.2 inside⟩
    | one =>
      constructor
      · intro accepted
        cases s with
        | nil => cases accepted
        | cons c s =>
          rw [accepts_one_cons] at accepted
          exact ⟨[c], ⟨c, rfl⟩, s, ih.1 accepted, rfl⟩
      · rintro ⟨_, ⟨c, rfl⟩, b, inside, rfl⟩
        rw [List.singleton_append, accepts_one_cons]
        exact ih.2 inside
    | char c =>
      constructor
      · intro accepted
        cases s with
        | nil => cases accepted
        | cons d s =>
          rw [accepts_char_cons, Bool.and_eq_true] at accepted
          exact ⟨[d], ⟨d, rfl, accepted.1⟩, s, ih.1 accepted.2, rfl⟩
      · rintro ⟨_, ⟨d, rfl, equal⟩, b, inside, rfl⟩
        rw [List.singleton_append, accepts_char_cons, equal]
        exact ih.2 inside

/-- A regular expression matches the texts of the language of its parts. -/
def Matches (text s : List Char) : Prop :=
  ∃ ignoreCase parts, readExpression text = some (ignoreCase, parts) ∧
    s ∈ language (Memory.sameChar ignoreCase) parts

private theorem readParts_literal (c : Char) (rest : List Char) :
    readParts (literal c ++ rest) = (readParts rest).map (.char c :: ·) := by
  unfold literal
  by_cases meaning : c ∈ reserved
  · rw [if_pos meaning]
    change readParts ('\\' :: c :: rest) = _
    rw [readParts, if_pos meaning]
  · rw [if_neg meaning]
    change readParts (c :: rest) = _
    rw [readParts]
    · rw [if_neg meaning]
    · rintro rfl
      exact absurd (by decide) meaning
    · rintro _ rfl
      exact absurd (by decide) meaning
    · rintro rfl
      exact absurd (by decide) meaning
    · rintro _ _ rfl
      exact absurd (by decide) meaning

private theorem head_literal_append (c : Char) (rest : List Char) :
    (literal c ++ rest).head? ≠ some '*' := by
  unfold literal
  by_cases meaning : c ∈ reserved
  · rw [if_pos meaning]
    simp
  · rw [if_neg meaning]
    intro star
    obtain rfl : c = '*' := by simpa using star
    exact meaning (by decide)

private theorem head_expressionParts (pattern : List Char) :
    (expressionParts pattern).head? ≠ some '*' := by
  fun_cases expressionParts pattern with
  | case1 => simp
  | case2 => simp
  | case3 => simp
  | case4 => exact head_literal_append _ _
  | case5 => exact head_literal_append _ _
  | case6 => exact head_literal_append _ _

private theorem readParts_expressionParts (pattern : List Char) :
    readParts (expressionParts pattern) = some (pieces pattern) := by
  fun_induction pieces pattern with
  | case1 => rfl
  | case2 rest ih =>
    rw [expressionParts, readParts, ih]
    rfl
  | case3 rest ih =>
    rw [expressionParts, readParts, ih]
    · rfl
    -- With a star after it the dot would read as a run.
    · intro others star
      exact head_expressionParts rest (by rw [star]; rfl)
  | case4 => rfl
  | case5 c rest ih =>
    rw [expressionParts, readParts_literal, ih]
    rfl
  | case6 c rest notRun notOne notLast notEscape ih =>
    rw [expressionParts, readParts_literal, ih]
    · rfl
    · exact notRun
    · exact notOne
    · exact notLast
    · exact notEscape

/-- The regular expression of a pattern reads as the parts of the pattern: nothing that a pattern
holds has a meaning of its own there. -/
theorem readExpression_expression (ignoreCase : Bool) (pattern : List Char) :
    readExpression (expression ignoreCase pattern) = some (ignoreCase, pieces pattern) := by
  cases ignoreCase with
  | false =>
    change (readParts (expressionParts pattern)).map (false, ·) = _
    rw [readParts_expressionParts]
    rfl
  | true =>
    change (readParts (expressionParts pattern)).map (true, ·) = _
    rw [readParts_expressionParts]
    rfl

/-- The rows of a pattern accept what its regular expression matches. -/
theorem accepts_iff_matches (ignoreCase : Bool) (pattern s : List Char) :
    accepts (Memory.sameChar ignoreCase) (pieces pattern) s = true ↔
      Matches (expression ignoreCase pattern) s := by
  rw [accepts_iff_mem_language]
  constructor
  · intro inside
    exact ⟨ignoreCase, pieces pattern, readExpression_expression ignoreCase pattern, inside⟩
  · rintro ⟨ignoring, parts, read, inside⟩
    rw [readExpression_expression] at read
    cases read
    exact inside

end FilterQuery.Like

namespace FilterQuery.Sql

open FilterQuery.Like

/-- The rules of LIKE with the backslash as its escape character: a percent sign matches any run of
characters, an underscore any one character, an escaped character itself, and so does any other. No
rule is for a pattern that ends with an escape character on its own. -/
inductive Likes : List Char → List Char → Prop
  | nil : Likes [] []
  | run {rest s : List Char} (skipped : List Char) : Likes rest s →
      Likes ('%' :: rest) (skipped ++ s)
  | one {rest s : List Char} (c : Char) : Likes rest s → Likes ('_' :: rest) (c :: s)
  | escaped {rest s : List Char} (c : Char) : Likes rest s → Likes ('\\' :: c :: rest) (c :: s)
  | char {c : Char} {rest s : List Char} :
    c ≠ '%' → c ≠ '_' → c ≠ '\\' → Likes rest s → Likes (c :: rest) (c :: s)

private theorem Likes.of_char {c : Char} {rest s : List Char} (notRun : c ≠ '%') (notOne : c ≠ '_')
    (plain : c ≠ '\\') (matched : Likes (c :: rest) s) : ∃ t, s = c :: t ∧ Likes rest t := by
  cases matched with
  | run => exact absurd rfl notRun
  | one => exact absurd rfl notOne
  | escaped => exact absurd rfl plain
  | char _ _ _ matched => exact ⟨_, rfl, matched⟩

/-- A database matches by the rules of LIKE. -/
theorem likes_iff {pattern s : List Char} : likes pattern s = true ↔ Likes pattern s := by
  fun_induction pieces pattern generalizing s with
  | case1 =>
    rw [likes, List.isEmpty_iff]
    constructor
    · rintro rfl
      exact .nil
    · rintro ⟨⟩
      rfl
  | case2 rest ih =>
    rw [likes, List.any_eq_true]
    constructor
    · rintro ⟨t, suffix, matched⟩
      obtain ⟨skipped, rfl⟩ := (List.mem_tails t s).1 suffix
      exact .run skipped (ih.1 matched)
    · intro matched
      cases matched with
      | run skipped matched =>
        exact ⟨_, (List.mem_tails _ _).2 (List.suffix_append skipped _), ih.2 matched⟩
      | char notRun => exact absurd rfl notRun
  | case3 rest ih =>
    cases s with
    | nil => exact iff_of_false (by simp [likes]) (by rintro ⟨⟩)
    | cons c s =>
      rw [likes, ih]
      constructor
      · exact .one c
      · intro matched
        cases matched with
        | one c matched => exact matched
        | char _ notOne => exact absurd rfl notOne
  | case4 =>
    refine iff_of_false (by simp [likes]) ?_
    intro matched
    cases matched with
    | char _ _ plain => exact absurd rfl plain
  | case5 c rest ih =>
    cases s with
    | nil => exact iff_of_false (by simp [likes]) (by rintro ⟨⟩)
    | cons d s =>
      rw [likes, Bool.and_eq_true, beq_iff_eq, ih]
      constructor
      · rintro ⟨rfl, matched⟩
        exact .escaped c matched
      · intro matched
        cases matched with
        | escaped c matched => exact ⟨rfl, matched⟩
        | char _ _ plain => exact absurd rfl plain
  | case6 c rest notRun notOne notLast notEscape ih =>
    have plain := ne_escape notLast notEscape
    cases s with
    | nil =>
      refine iff_of_false (by simp [likes]) ?_
      intro matched
      obtain ⟨t, whole, -⟩ := matched.of_char notRun notOne plain
      cases whole
    | cons d s =>
      rw [likes_char_cons notRun notOne plain, Bool.and_eq_true, beq_iff_eq, ih]
      constructor
      · rintro ⟨rfl, matched⟩
        exact .char notRun notOne plain matched
      · intro matched
        obtain ⟨t, whole, matched⟩ := matched.of_char notRun notOne plain
        cases whole
        exact ⟨rfl, matched⟩

/-- Where letter case counts, the rows of a pattern accept a text exactly if its regular expression
matches the text, and exactly if a database does by the pattern that is given to it. Such a pattern
never ends with an escape character on its own. -/
theorem patterns_agree (raw s : String) :
    [accepts (Memory.sameChar false) (pieces raw.toList) s.toList = true,
      Matches (expression false raw.toList) s.toList,
      Likes (Relational.pattern raw).toList s.toList].TFAE ∧
      dangles (Relational.pattern raw).toList = false := by
  have given : (Relational.pattern raw).toList = terminated raw.toList := String.toList_ofList
  rw [given]
  constructor
  · tfae_have 1 ↔ 2 := accepts_iff_matches false raw.toList s.toList
    tfae_have 1 ↔ 3 := by
      rw [← likes_iff, likes_terminated]
      rfl
    tfae_finish
  · exact (pieces_terminated raw.toList).2

end FilterQuery.Sql
