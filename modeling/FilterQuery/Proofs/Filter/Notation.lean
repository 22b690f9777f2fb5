import FilterQuery.Filter.Display
import FilterQuery.Proofs.Query.RoundTrip
import FilterQuery.Proofs.Text.Quoting

set_option autoImplicit false
set_option relaxedAutoImplicit false

/-!
Filters told apart by how they are shown. What is shown of a filter says what the filter is and
where it ends, so two filters whose attributes are paths and whose operators are named by letters
are shown alike only if they are the same.
-/

namespace FilterQuery.Filter.Display

open FilterQuery.Query (IsPath isAlpha_of_isToken isOperator_of_isKnown isPathChar isToken_token
    ofToken_of_isKnown
  ofToken_of_other)
open FilterQuery.Text.Quoted (quote quote_inj toList_quote)
open FilterQuery.Text.Split (run_inj)

/-- A comparison of a dotted path by an operator that letters of ASCII name. -/
structure IsLegible (test : Comparison) : Prop where
  path : IsPath test.path.toList
  operator : ∃ token : String, (∀ c ∈ token.toList, c.isAlpha = true) ∧
    test.operator = .ofToken token

/-- A filter with legible comparisons only, in groups of any size. -/
def Legible (filter : Formula) : Prop :=
  ∀ test ∈ filter.tests, IsLegible test

private theorem legible_atom {test : Comparison} : Legible (.atom test) ↔ IsLegible test := by
  rw [Legible, Formula.tests_atom, List.forall_mem_singleton]

private theorem legible_group {connective : Connective} {parts : List Formula} :
    Legible (.group connective parts) ↔ ∀ part ∈ parts, Legible part := by
  simp only [Legible, Formula.tests_group, List.mem_flatMap]
  constructor
  · intro each part member test inside
    exact each test ⟨part, member, inside⟩
  · rintro each test ⟨part, member, inside⟩
    exact each part member test inside

/-- A thing is told from all legible ones, and its end is found, by how it is shown before some
characters. -/
def Told {α : Type} (proper : α → Prop) (shown : α → List Char) (a : α) : Prop :=
  ∀ b, proper b → ∀ r r', shown a ++ r = shown b ++ r' → a = b ∧ r = r'

private theorem ofToken_cases (token : String) :
    (Operator.ofToken token).isKnown = true ∨
      Operator.ofToken token = .unknown token ∧ ∀ known : Operator, known.isKnown = true →
        token.toUpper ≠ known.token := by
  by_cases found : ∃ known : Operator, known.isKnown = true ∧ token.toUpper = known.token
  · obtain ⟨known, isKnown, same⟩ := found
    rw [ofToken_of_isKnown isKnown same]
    exact .inl isKnown
  · have other : ∀ known : Operator, known.isKnown = true → token.toUpper ≠ known.token :=
      fun known isKnown same => found ⟨known, isKnown, same⟩
    exact .inr ⟨ofToken_of_other other, other⟩

theorem IsLegible.ofToken_token {test : Comparison} (legible : IsLegible test) :
    Operator.ofToken test.operator.token = test.operator := by
  obtain ⟨token, -, named⟩ := legible.operator
  rw [named]
  rcases ofToken_cases token with known | ⟨same, other⟩
  · exact Query.ofToken_token (isOperator_of_isKnown known)
  · rw [same]
    exact ofToken_of_other other

theorem IsLegible.letters {test : Comparison} (legible : IsLegible test) :
    ∀ c ∈ test.operator.token.toList, c.isAlpha = true := by
  obtain ⟨token, letters, named⟩ := legible.operator
  rw [named]
  rcases ofToken_cases token with known | ⟨same, -⟩
  · exact isAlpha_of_isToken (isToken_token (isOperator_of_isKnown known))
  · rwa [same]

private theorem told_valueText (value : Option String) : Told (fun _ => True) valueText value := by
  intro other _ r r' same
  cases value with
  | none =>
    cases other with
    | none => exact ⟨rfl, List.append_cancel_left same⟩
    | some text =>
      rw [valueText, valueText, toList_quote] at same
      cases same
  | some text =>
    cases other with
    | none =>
      rw [valueText, valueText, toList_quote] at same
      cases same
    | some text' =>
      obtain ⟨rfl, rest⟩ := quote_inj same
      exact ⟨rfl, rest⟩

private theorem comparisonText_append (test : Comparison) (r : List Char) :
    comparisonText test ++ r =
      test.path.toList ++
        ' ' :: (test.operator.token.toList ++ ' ' :: (valueText test.value ++ r)) := by
  simp [comparisonText]

private theorem told_comparisonText {test : Comparison} (legible : IsLegible test) :
    Told IsLegible comparisonText test := by
  intro other legible' r r' same
  rw [comparisonText_append, comparisonText_append] at same
  obtain ⟨paths, -, same⟩ :=
    run_inj legible.path.isPathChar legible'.path.isPathChar (by decide) (by decide) same
  obtain ⟨tokens, -, same⟩ := run_inj legible.letters legible'.letters (by decide) (by decide) same
  obtain ⟨values, rest⟩ := told_valueText test.value other.value trivial r r' same
  have operators : test.operator = other.operator := by
    rw [← legible.ofToken_token, String.toList_inj.1 tokens, legible'.ofToken_token]
  refine ⟨?_, rest⟩
  cases test
  cases other
  simp only [Comparison.mk.injEq]
  exact ⟨String.toList_inj.1 paths, operators, values⟩

private theorem isPathChar_word (connective : Connective) :
    ∀ c ∈ connective.word.toList, isPathChar c = true := by
  have all : connective.word.toList.all isPathChar = true := by cases connective <;> decide
  exact List.all_eq_true.1 all

private theorem word_inj {connective other : Connective}
    (same : connective.word.toList = other.word.toList) :
    connective = other := by
  cases connective with
  | and =>
    cases other with
    | and => rfl
    | or => exact absurd same (by decide)
  | or =>
    cases other with
    | and => exact absurd same (by decide)
    | or => rfl

private theorem formulaText_group_append (connective : Connective) (parts : List Formula)
    (r : List Char) :
    formulaText (.group connective parts) ++ r =
      connective.word.toList ++ '(' :: (partsText parts ++ ')' :: r) := by
  simp [formulaText]

private theorem partsText_cons (part : Formula) (parts : List Formula) :
    partsText (part :: parts) = formulaText part ++ parts.flatMap fun part =>
      ',' :: ' ' :: formulaText part := by
  induction parts generalizing part with
  | nil => simp [partsText]
  | cons next parts ih => rw [partsText, ih, List.flatMap_cons, List.cons_append, List.cons_append]

private theorem exists_formulaText {filter : Formula} (legible : Legible filter) (r : List Char) :
    ∃ word c rest, formulaText filter ++ r = word ++ c :: rest ∧ (∀ x ∈ word, isPathChar x = true) ∧
      (c = ' ' ∨ c = '(') := by
  cases filter with
  | atom test =>
    have shown := comparisonText_append test r
    rw [← formulaText.eq_1] at shown
    exact ⟨_, ' ', _, shown, (legible_atom.1 legible).path.isPathChar, .inl rfl⟩
  | group connective parts =>
    exact ⟨_, '(', _, formulaText_group_append connective parts r,
      isPathChar_word connective, .inr rfl⟩

private theorem formulaText_append_ne {filter : Formula} (legible : Legible filter)
    (r other : List Char) :
    ')' :: other ≠ formulaText filter ++ r := by
  intro same
  obtain ⟨word, c, rest, shown, inWord, stops⟩ := exists_formulaText legible r
  rw [shown] at same
  have notPath : isPathChar c = false := by rcases stops with rfl | rfl <;> decide
  obtain ⟨-, rfl, -⟩ := run_inj (s := []) nofun inWord (by decide) notPath same
  rcases stops with stop | stop <;> cases stop

/-- Parts that are each told apart are so together, after a comma each and before the bracket that
closes their group. -/
theorem told_others {parts others : List Formula}
    (each : ∀ part ∈ parts, Told Legible formulaText part) (legible : ∀ part ∈ others, Legible part)
    {r r' : List Char}
    (same : (parts.flatMap fun part => ',' :: ' ' :: formulaText part) ++ ')' :: r =
      (others.flatMap fun part => ',' :: ' ' :: formulaText part) ++ ')' :: r') :
    parts = others ∧ r = r' := by
  induction parts generalizing others with
  | nil =>
    cases others with
    | nil => exact ⟨rfl, (List.cons.inj same).2⟩
    | cons other others => cases same
  | cons part parts ih =>
    cases others with
    | nil => cases same
    | cons other others =>
      rw [List.forall_mem_cons] at each legible
      simp only [List.flatMap_cons, List.cons_append, List.append_assoc, List.cons.injEq,
        true_and] at same
      obtain ⟨rfl, onward⟩ := each.1 other legible.1 _ _ same
      obtain ⟨rfl, rest⟩ := ih each.2 legible.2 onward
      exact ⟨rfl, rest⟩

private theorem told_parts {parts others : List Formula}
    (each : ∀ part ∈ parts, Told Legible formulaText part) (proper : ∀ part ∈ parts, Legible part)
    (legible : ∀ part ∈ others, Legible part) {r r' : List Char}
    (same : partsText parts ++ ')' :: r = partsText others ++ ')' :: r') :
    parts = others ∧ r = r' := by
  cases parts with
  | nil =>
    cases others with
    | nil => exact ⟨rfl, (List.cons.inj same).2⟩
    | cons other others =>
      rw [partsText_cons, List.append_assoc] at same
      exact absurd same (formulaText_append_ne (legible other (by simp)) _ _)
  | cons part parts =>
    cases others with
    | nil =>
      rw [partsText_cons, List.append_assoc] at same
      exact absurd same.symm (formulaText_append_ne (proper part (by simp)) _ _)
    | cons other others =>
      rw [List.forall_mem_cons] at each legible
      rw [partsText_cons, partsText_cons, List.append_assoc, List.append_assoc] at same
      obtain ⟨rfl, onward⟩ := each.1 other legible.1 _ _ same
      obtain ⟨rfl, rest⟩ := told_others each.2 legible.2 onward
      exact ⟨rfl, rest⟩

private theorem comparisonText_ne_group {test : Comparison} (legible : IsLegible test)
    (connective : Connective) (parts : List Formula) (r r' : List Char) :
    comparisonText test ++ r ≠ formulaText (.group connective parts) ++ r' := by
  intro same
  rw [comparisonText_append, formulaText_group_append] at same
  obtain ⟨-, stop, -⟩ :=
    run_inj legible.path.isPathChar (isPathChar_word connective) (by decide) (by decide) same
  cases stop

private theorem told_formulaText {filter : Formula} (legible : Legible filter) :
    Told Legible formulaText filter := by
  induction filter using Formula.induction with
  | atom test =>
    intro other legible' r r' same
    rw [legible_atom] at legible
    rw [formulaText] at same
    cases other with
    | atom test' =>
      rw [formulaText] at same
      obtain ⟨rfl, rest⟩ := told_comparisonText legible test' (legible_atom.1 legible') r r' same
      exact ⟨rfl, rest⟩
    | group connective parts =>
      exact absurd same (comparisonText_ne_group legible connective parts r r')
  | group connective parts ih =>
    intro other legible' r r' same
    rw [legible_group] at legible
    cases other with
    | atom test =>
      rw [formulaText.eq_1 test] at same
      exact absurd same.symm (comparisonText_ne_group (legible_atom.1 legible')
        connective parts r' r)
    | group connective' parts' =>
      rw [formulaText_group_append, formulaText_group_append] at same
      obtain ⟨words, -, inside⟩ :=
        run_inj (isPathChar_word connective) (isPathChar_word connective') (by decide)
          (by decide) same
      obtain rfl := word_inj words
      obtain ⟨rfl, rest⟩ :=
        told_parts (fun part member => ih part member (legible part member)) legible
          (legible_group.1 legible') inside
      exact ⟨rfl, rest⟩

/-- Two filters whose attributes are paths and whose operators are named by letters are shown alike
exactly if they are the same, whatever their values and groups. -/
theorem display_eq_iff {filter other : Formula} (legible : Legible filter)
    (legible' : Legible other) :
    display filter = display other ↔ filter = other := by
  constructor
  · intro same
    have shown : formulaText filter = formulaText other := String.ofList_injective same
    have before : formulaText filter ++ [] = formulaText other ++ [] := by rw [shown]
    exact (told_formulaText legible other legible' [] [] before).1
  · rintro rfl
    rfl

/-- A value that looks like the end of a comparison and the start of another one is shown apart from
these two. -/
theorem lookalike_told :
    display (.group .and [.compare "a" .eq "x", .compareNull "b" .ne]) =
      "AND(a EQ \"x\", b NEQ null)" ∧
      display (.group .and [.compare "a" .eq "x\", b NEQ null"]) =
        "AND(a EQ \"x\\\", b NEQ null\")" ∧
        display (.group .and [.compare "a" .eq "x", .compareNull "b" .ne]) ≠
          display (.group .and [.compare "a" .eq "x\", b NEQ null"]) := by
  have path : IsPath "a".toList := by decide
  have named : Operator.eq = .ofToken "eq" := by decide +kernel
  have letters : ∀ token : String, token.toList.all Char.isAlpha = true →
      ∀ c ∈ token.toList, c.isAlpha = true :=
    fun token all => List.all_eq_true.1 all
  have equal : ∀ value, Legible (.compare "a" .eq value) :=
    fun value => legible_atom.2 ⟨path, "eq", letters "eq" (by decide), named⟩
  have different : Legible (.compareNull "b" .ne) :=
    legible_atom.2 ⟨by decide, "NEQ", letters "NEQ" (by decide), by decide +kernel⟩
  refine ⟨by decide +kernel, by decide +kernel, ?_⟩
  rw [Ne, display_eq_iff]
  · intro same
    injection same with _ parts
    exact absurd (congrArg List.length parts) (by decide)
  · rw [legible_group, List.forall_mem_cons, List.forall_mem_singleton]
    exact ⟨equal "x", different⟩
  · rw [legible_group, List.forall_mem_singleton]
    exact equal _

end FilterQuery.Filter.Display
