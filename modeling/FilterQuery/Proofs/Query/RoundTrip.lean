import FilterQuery.Proofs.Filter.Truth
import FilterQuery.Proofs.Query.Grammar

set_option autoImplicit false
set_option relaxedAutoImplicit false

/-!
Queries written as text and read back. The queries that texts say are the canonical ones, and each
of them is said by the text that writes it.
-/

namespace FilterQuery.Query

open FilterQuery.Filter (Comparison Connective Formula Operator)
open FilterQuery.Number.Reading (natOfDigits)
open FilterQuery.Query.Reader
open FilterQuery.Text.Split

/-- An operator that a token names: a known one, or one of letters that name no known operator in
any case. -/
def IsOperator : Operator → Prop
  | .unknown token =>
    isToken token.toList = true ∧ ∀ known : Operator, known.isKnown = true →
      token.toUpper ≠ known.token
  | _ => True

/-- Null, or a text that is neither empty nor the word for null and has no separators. -/
def IsOperand : Option String → Prop
  | none => True
  | some value => value ≠ "" ∧ '&' ∉ value.toList ∧ ',' ∉ value.toList ∧ value ≠ nullWord

instance : DecidablePred IsOperand
  | none => inferInstanceAs (Decidable True)
  | some value =>
    inferInstanceAs (Decidable (value ≠ "" ∧ '&' ∉ value.toList ∧ ',' ∉ value.toList ∧
      value ≠ nullWord))

structure IsTest (test : Comparison) : Prop where
  path : IsPath test.path.toList
  operator : IsOperator test.operator
  value : IsOperand test.value

/-- A comparison, or the disjunction of some that differ in their values only. -/
inductive IsClause : Formula → Prop
  | one {test : Comparison} (proper : IsTest test) : IsClause (.atom test)
  | several {tests : List Comparison} (many : 2 ≤ tests.length)
      (proper : ∀ test ∈ tests, IsTest test)
    (alike : ∀ test ∈ tests, ∀ other ∈ tests, test.path = other.path ∧
      test.operator = other.operator) :
    IsClause (.group .or (tests.map .atom))

/-- A clause, or the conjunction of some. -/
inductive IsConjunction : Formula → Prop
  | one {filter : Formula} (clause : IsClause filter) : IsConjunction filter
  | several {parts : List Formula} (many : 2 ≤ parts.length) (each : ∀ part ∈ parts,
      IsClause part) :
    IsConjunction (.group .and parts)

def IsPageNumber (n : Int) : Prop :=
  0 ≤ n ∧ n < 0x8000000000000000

/-- A query that a text can say. -/
structure Canonical (query : Query) : Prop where
  filter : ∀ filter ∈ query.filter, IsConjunction filter
  includes : ∀ path ∈ query.includes, IsPath path.toList
  sorts : ∀ key ∈ query.sorts, IsKey key.toList
  pageOffset : ∀ n ∈ query.pageOffset, IsPageNumber n
  pageLimit : ∀ n ∈ query.pageLimit, IsPageNumber n

theorem isToken_token {operator : Operator} (proper : IsOperator operator) :
    isToken operator.token.toList = true := by
  cases operator with
  | unknown token => exact proper.1
  | _ => decide

theorem isOperator_of_isKnown {operator : Operator} (known : operator.isKnown = true) :
    IsOperator operator := by
  cases operator with
  | unknown token => cases known
  | _ => trivial

theorem ofToken_of_isKnown {token : String} {operator : Operator} (known : operator.isKnown = true)
    (same : token.toUpper = operator.token) : Operator.ofToken token = operator := by
  unfold Operator.ofToken
  rw [same]
  cases operator with
  | unknown other => cases known
  | _ => rfl

theorem ofToken_of_other {token : String} (other : ∀ known : Operator, known.isKnown = true →
    token.toUpper ≠ known.token) :
    Operator.ofToken token = .unknown token := by
  unfold Operator.ofToken
  split
  · next same => exact absurd same (other .eq rfl)
  · next same => exact absurd same (other .ne rfl)
  · next same => exact absurd same (other .lt rfl)
  · next same => exact absurd same (other .le rfl)
  · next same => exact absurd same (other .gt rfl)
  · next same => exact absurd same (other .ge rfl)
  · next same => exact absurd same (other .like rfl)
  · next same => exact absurd same (other .ilike rfl)
  · rfl

theorem ofToken_token {operator : Operator} (proper : IsOperator operator) :
    Operator.ofToken operator.token = operator := by
  cases operator with
  | unknown token => exact ofToken_of_other proper.2
  | _ => exact ofToken_of_isKnown rfl (by decide +kernel)

private theorem isOperator_ofToken {token : String} (letters : isToken token.toList = true) :
    IsOperator (.ofToken token) := by
  by_cases found : ∃ known : Operator, known.isKnown = true ∧ token.toUpper = known.token
  · obtain ⟨known, isKnown, same⟩ := found
    rw [ofToken_of_isKnown isKnown same]
    exact isOperator_of_isKnown isKnown
  · have other : ∀ known : Operator, known.isKnown = true → token.toUpper ≠ known.token :=
      fun known isKnown same => found ⟨known, isKnown, same⟩
    rw [ofToken_of_other other]
    exact ⟨letters, other⟩

private theorem Names.isOperator {token : Option (List Char)} {operator : Operator}
    (named : Names token operator) :
    IsOperator operator := by
  cases named with
  | default => trivial
  | token proper => exact isOperator_ofToken (by rwa [String.toList_ofList])

theorem IsOperator.names {operator : Operator} (proper : IsOperator operator) :
    Names (some operator.token.toList) operator := by
  have named := Names.token (isToken_token proper)
  rwa [String.ofList_toList, ofToken_token proper] at named

def operandText (value : Option String) : List Char :=
  (value.getD nullWord).toList

private theorem readOperand_operandText {value : Option String} (proper : IsOperand value) :
    readOperand (operandText value) = value := by
  cases value with
  | none => rfl
  | some text =>
    rw [operandText, Option.getD_some, readOperand, String.ofList_toList]
    exact if_neg proper.2.2.2

private theorem isOperand_readOperand {text : List Char} (filled : text ≠ []) (clause : '&' ∉ text)
    (value : ',' ∉ text) :
    IsOperand (readOperand text) := by
  unfold readOperand
  by_cases null : String.ofList text = nullWord
  · rw [if_pos null]
    trivial
  · rw [if_neg null, IsOperand, String.toList_ofList]
    have some : String.ofList text ≠ "" := by
      intro empty
      rw [← String.toList_inj, String.toList_ofList] at empty
      exact filled empty
    exact ⟨some, clause, value, null⟩

private theorem operandText_free {value : Option String} (proper : IsOperand value) :
    operandText value ≠ [] ∧ '&' ∉ operandText value ∧ ',' ∉ operandText value := by
  cases value with
  | none => decide
  | some text =>
    obtain ⟨filled, clause, value, -⟩ := proper
    exact ⟨fun empty => filled (String.toList_eq_nil_iff.1 empty), clause, value⟩

private theorem areValues_operandText {values : List (Option String)} (some : values ≠ [])
    (proper : ∀ value ∈ values, IsOperand value) : AreValues (values.map operandText) := by
  refine ⟨by simpa using some, ?_, ?_⟩
  · rw [List.forall_mem_map]
    exact fun value member => (operandText_free (proper value member)).1
  · rw [List.forall_mem_map]
    exact fun value member => (operandText_free (proper value member)).2.2

private theorem join_of_two_le {connective : Connective} {parts : List Formula}
    (many : 2 ≤ parts.length) :
    Formula.join connective parts = .group connective parts := by
  match parts, many with
  | first :: second :: others, _ => rfl

private theorem isClause_iff {filter : Formula} :
    IsClause filter ↔ ∃ path operator values, values ≠ [] ∧ IsPath path.toList ∧
      IsOperator operator ∧
      (∀ value ∈ values, IsOperand value) ∧
        filter = .join .or ((values.map (Comparison.mk path operator)).map .atom) := by
  constructor
  · rintro (proper | ⟨many, proper, alike⟩)
    · next test =>
      refine ⟨test.path, test.operator,
        [test.value], by simp, proper.path, proper.operator, ?_, rfl⟩
      exact List.forall_mem_singleton.2 proper.value
    · next tests =>
      obtain ⟨test, member⟩ :=
        List.exists_mem_of_length_pos (Nat.lt_of_lt_of_le Nat.zero_lt_two many)
      have same : (tests.map (·.value)).map (Comparison.mk test.path test.operator) = tests := by
        have each : ∀ other ∈ tests, (Comparison.mk test.path test.operator ∘ (·.value)) other =
            id other := by
          intro other inside
          obtain ⟨path, operator⟩ := alike test member other inside
          rw [Function.comp_apply, path, operator, id]
        rw [List.map_map, List.map_congr_left each, List.map_id]
      obtain ⟨path, operator, -⟩ := proper test member
      refine ⟨test.path, test.operator, tests.map (·.value), ?_, path, operator, ?_, ?_⟩
      · rintro empty
        rw [List.map_eq_nil_iff.1 empty] at many
        cases many
      · rw [List.forall_mem_map]
        exact fun other inside => (proper other inside).value
      · rw [same, join_of_two_le (by simpa using many)]
  · rintro ⟨path, operator, values, some, located, named, proper, rfl⟩
    match values with
    | [value] => exact .one ⟨located, named, proper value (by simp)⟩
    | first :: second :: others =>
      rw [join_of_two_le (by simp)]
      refine .several (by simp) ?_ (by simp)
      rw [List.forall_mem_map]
      exact fun value member => ⟨located, named, proper value member⟩

def IsProper : Clause → Prop
  | .filter formula => IsClause formula
  | .includes paths => paths ≠ [] ∧ ∀ path ∈ paths, IsPath path.toList
  | .sorts keys => keys ≠ [] ∧ ∀ key ∈ keys, IsKey key.toList
  | .pageOffset n => IsPageNumber n
  | .pageLimit n => IsPageNumber n

private theorem IsNumber.isPageNumber {digits : List Char} (number : IsNumber digits) :
    IsPageNumber (natOfDigits digits) := by
  have inBound := number.inBound
  constructor <;> omega

private theorem isProper_of_spells {key raw : List Char} {clause : Clause}
    (spelled : Spells key raw clause) (free : '&' ∉ raw) :
    IsProper clause := by
  have kept : ∀ {p : List Char → Prop} {texts : List (List Char)}, (∀ text ∈ texts, p text) →
      ∀ s ∈ texts.map String.ofList, p s.toList := by
    intro p texts each
    rw [List.forall_mem_map]
    intro text member
    rw [String.toList_ofList]
    exact each text member
  cases spelled with
  | @filter path token operator values located named proper =>
    have each : ∀ value ∈ values, IsOperand (readOperand value) := by
      intro value member
      refine isOperand_readOperand (proper.ne_nil value member) (fun inside => free ?_)
        (proper.free value member)
      exact mem_intercalate_of_mem member inside
    refine isClause_iff.2 ⟨String.ofList path, operator, values.map readOperand, ?_, ?_,
      named.isOperator, ?_, ?_⟩
    · simpa using proper.some
    · rwa [String.toList_ofList]
    · rwa [List.forall_mem_map]
    · rw [comparisons, List.map_map, List.map_map]
      rfl
  | includes some each => exact ⟨by simpa using some, kept each⟩
  | sorts some each => exact ⟨by simpa using some, kept each⟩
  | pageOffset number => exact number.isPageNumber
  | pageLimit number => exact number.isPageNumber

theorem SaysClause.isProper {text : List Char} {clause : Clause} (said : SaysClause text clause)
    (free : '&' ∉ text) :
    IsProper clause := by
  obtain ⟨key, raw, spelled, rfl⟩ := said
  have outside : '&' ∉ raw := fun here => free (by simp [here])
  exact isProper_of_spells spelled outside

/-- The key and the values that write comparisons which have their path and operator in common. -/
def writtenTests : List Comparison → List Char × List Char
  | [] => ([], [])
  | test :: tests =>
    ("filter".toList ++ (inBrackets test.path.toList ++
      operatorText (some test.operator.token.toList)),
        List.intercalate [','] ((test :: tests).map fun test => operandText test.value))

def written : Clause → List Char × List Char
  | .filter formula => writtenTests formula.tests
  | .includes paths => ("include".toList, List.intercalate [','] (paths.map String.toList))
  | .sorts keys => ("sort".toList, List.intercalate [','] (keys.map String.toList))
  | .pageOffset n => ("page[offset]".toList, Nat.toDigits 10 n.toNat)
  | .pageLimit n => ("page[limit]".toList, Nat.toDigits 10 n.toNat)

def writeClause (clause : Clause) : List Char :=
  (written clause).1 ++ '=' :: (written clause).2

theorem tests_join (connective : Connective) (tests : List Comparison) :
    (Formula.join connective (tests.map .atom)).tests = tests := by
  rw [Formula.tests_join, List.flatMap_map]
  simp

private theorem written_filter {path : String} {operator : Operator} {values : List (Option String)}
    (some : values ≠ []) :
    written (.filter (.join .or ((values.map (Comparison.mk path operator)).map .atom))) =
      ("filter".toList ++ (inBrackets path.toList ++ operatorText (.some operator.token.toList)),
        List.intercalate [','] (values.map operandText)) := by
  have shared : written (.filter
      (.join .or ((values.map (Comparison.mk path operator)).map .atom))) =
      writtenTests (values.map (Comparison.mk path operator)) :=
        congrArg writtenTests (tests_join .or _)
  rw [shared]
  cases values with
  | nil => exact absurd rfl some
  | cons value values =>
    have texts : ((value :: values).map (Comparison.mk path operator)).map
        (fun test => operandText test.value) =
        (value :: values).map operandText := by
      rw [List.map_map]
      rfl
    rw [← texts]
    rfl

private theorem natOfDigits_toDigits (n : Nat) : natOfDigits (Nat.toDigits 10 n) = n := by
  rw [natOfDigits, ← Nat.ofDigitChars_eq_foldl, Nat.ofDigitChars_ten_toDigits]

theorem IsNumber.digit {digits : List Char} (number : IsNumber digits) :
    ∀ c ∈ digits, c.isDigit = true := by
  have each := number.isDigits
  rw [Number.Reading.isDigits, Bool.and_eq_true, List.all_eq_true] at each
  exact each.2

private theorem isNumber_toDigits {n : Int} (proper : IsPageNumber n) :
    IsNumber (Nat.toDigits 10 n.toNat) := by
  obtain ⟨positive, inBound⟩ := proper
  refine ⟨?_, ?_⟩
  · rw [Number.Reading.isDigits, Bool.and_eq_true, List.all_eq_true]
    refine ⟨by simp, fun c member => ?_⟩
    exact Nat.isDigit_of_mem_toDigits (by decide) (by decide) member
  · rw [natOfDigits_toDigits]
    omega

/-- The grammar has what a proper clause is written as. -/
theorem spells_written {clause : Clause} (proper : IsProper clause) :
    Spells (written clause).1 (written clause).2 clause := by
  have kept : ∀ texts : List String, (texts.map String.toList).map String.ofList = texts := by
    intro texts
    rw [List.map_map]
    simp [Function.comp_def]
  cases clause with
  | filter formula =>
    obtain ⟨path, operator, values, some, located, named, each, rfl⟩ := isClause_iff.1 proper
    have said := Spells.filter located named.names (areValues_operandText some each)
    have read : comparisons path.toList operator (values.map operandText) =
        .join .or ((values.map (Comparison.mk path operator)).map .atom) := by
      rw [comparisons, String.ofList_toList, List.map_map, List.map_map]
      congr 1
      refine List.map_congr_left fun value member => ?_
      rw [Function.comp_apply, Function.comp_apply, readOperand_operandText (each value member)]
    rw [read] at said
    rw [written_filter some]
    exact said
  | includes paths =>
    have said : Spells "include".toList _
        (.includes ((paths.map String.toList).map String.ofList)) :=
      .includes (by simpa using proper.1) (by simpa using proper.2)
    rwa [kept] at said
  | sorts keys =>
    have said : Spells "sort".toList _ (.sorts ((keys.map String.toList).map String.ofList)) :=
      .sorts (by simpa using proper.1) (by simpa using proper.2)
    rwa [kept] at said
  | pageOffset n =>
    have said := Spells.pageOffset (isNumber_toDigits proper)
    rwa [natOfDigits_toDigits, Int.toNat_of_nonneg proper.1] at said
  | pageLimit n =>
    have said := Spells.pageLimit (isNumber_toDigits proper)
    rwa [natOfDigits_toDigits, Int.toNat_of_nonneg proper.1] at said

private theorem free_writeClause {clause : Clause} (proper : IsProper clause) :
    '&' ∉ writeClause clause := by
  have key : '&' ∉ (written clause).1 := (spells_written proper).not_mem_key (by decide)
  have raw : '&' ∉ (written clause).2 := by
    cases clause with
    | filter formula =>
      obtain ⟨path, operator, values, some, located, named, each, rfl⟩ := isClause_iff.1 proper
      rw [written_filter some]
      refine not_mem_intercalate (by decide) ?_
      rw [List.forall_mem_map]
      exact fun value member => (operandText_free (each value member)).2.1
    | includes paths =>
      refine not_mem_intercalate (by decide) ?_
      rw [List.forall_mem_map]
      exact fun path member => (proper.2 path member).not_mem (by decide)
    | sorts keys =>
      refine not_mem_intercalate (by decide) ?_
      rw [List.forall_mem_map]
      exact fun key member => (proper.2 key member).not_mem (by decide) (by decide)
    | pageOffset n => exact not_mem_of_forall (isNumber_toDigits proper).digit (by decide)
    | pageLimit n => exact not_mem_of_forall (isNumber_toDigits proper).digit (by decide)
  rw [writeClause, List.mem_append, List.mem_cons]
  rintro (inside | same | inside)
  · exact key inside
  · cases same
  · exact raw inside

/-- The conjuncts of a filter. -/
def conjuncts : Option Formula → List Formula
  | none => []
  | some (.group .and parts) => parts
  | some filter => [filter]

def clauseOf (make : List String → Clause) (texts : List String) : List Clause :=
  if texts = [] then [] else [make texts]

def clauses (query : Query) : List Clause :=
  (conjuncts query.filter).map .filter ++ clauseOf .includes query.includes ++
    clauseOf .sorts query.sorts ++
    query.pageOffset.toList.map .pageOffset ++ query.pageLimit.toList.map .pageLimit

def write (query : Query) : String :=
  String.ofList (List.intercalate ['&'] (query.clauses.map writeClause))

theorem conjuncts_of_isClause {filter : Formula} (clause : IsClause filter) :
    conjuncts (some filter) = [filter] := by
  cases clause <;> rfl

private theorem IsConjunction.isClause {filter : Formula} (proper : IsConjunction filter) :
    ∀ part ∈ conjuncts (some filter), IsClause part := by
  cases proper with
  | one clause =>
    rw [conjuncts_of_isClause clause]
    exact List.forall_mem_singleton.2 clause
  | several many each => exact each

theorem IsConjunction.conjunction? {filter : Formula} (proper : IsConjunction filter) :
    Formula.conjunction? (conjuncts (some filter)) = some filter := by
  cases proper with
  | one clause =>
    rw [conjuncts_of_isClause clause]
    rfl
  | @several parts many each =>
    match parts, many with
    | first :: second :: others, _ => rfl

private theorem isConjunction_of_conjunction? {parts : List Formula}
    (each : ∀ part ∈ parts, IsClause part) {filter : Formula}
    (made : Formula.conjunction? parts = some filter) : IsConjunction filter := by
  match parts with
  | [] => cases made
  | [part] =>
    cases made
    exact .one (each part (by simp))
  | first :: second :: others =>
    cases made
    exact .several (by simp) each

private theorem isProper_clauses {query : Query} (canonical : query.Canonical) :
    ∀ clause ∈ query.clauses, IsProper clause := by
  have filters : ∀ part ∈ conjuncts query.filter, IsClause part := by
    cases filter : query.filter with
    | none => nofun
    | some f => exact (canonical.filter f filter).isClause
  have listed : ∀ {make : List String → Clause} {texts : List String}, (texts ≠ [] →
      IsProper (make texts)) →
      ∀ clause ∈ clauseOf make texts, IsProper clause := by
    intro make texts proper
    unfold clauseOf
    by_cases empty : texts = []
    · rw [if_pos empty]
      nofun
    · rw [if_neg empty]
      exact List.forall_mem_singleton.2 (proper empty)
  simp only [clauses, List.forall_mem_append, List.forall_mem_map, Option.mem_toList]
  refine ⟨⟨⟨⟨filters, listed ?_⟩, listed ?_⟩, canonical.pageOffset⟩, canonical.pageLimit⟩
  · exact fun some => ⟨some, canonical.includes⟩
  · exact fun some => ⟨some, canonical.sorts⟩

@[simp] theorem mem_clauseOf {make : List String → Clause} {texts : List String} {clause : Clause} :
    clause ∈ clauseOf make texts ↔ texts ≠ [] ∧ clause = make texts := by
  by_cases empty : texts = []
  · simp [clauseOf, empty]
  · simp [clauseOf, empty]

private theorem flatMap_clauseOf (f : Clause → List String) (make : List String → Clause)
    (nil : f (make []) = []) (texts : List String) :
    (clauseOf make texts).flatMap f = f (make texts) := by
  by_cases empty : texts = []
  · simp [clauseOf, empty, nil]
  · simp [clauseOf, empty]

private theorem filterMap_clauseOf {β : Type} (f : Clause → Option β) (make : List String → Clause)
    (none : ∀ texts, f (make texts) = none) (texts : List String) :
    (clauseOf make texts).filterMap f = [] := by
  rw [List.filterMap_eq_nil_iff]
  intro clause member
  rw [(mem_clauseOf.1 member).2, none]

private theorem flatMap_map_nil {α : Type} (f : Clause → List String) (make : α → Clause)
    (nil : ∀ x, f (make x) = []) (xs : List α) : (xs.map make).flatMap f = [] := by
  rw [List.flatMap_eq_nil_iff, List.forall_mem_map]
  exact fun x _ => nil x

/-- The clauses that write a query make it up again. -/
theorem ofClauses_clauses {query : Query} (canonical : query.Canonical) :
    ofClauses query.clauses = query := by
  have formulas : query.clauses.filterMap Clause.formula? = conjuncts query.filter := by
    simp only [clauses, List.filterMap_append, List.filterMap_map,
      filterMap_clauseOf Clause.formula? Clause.includes fun _ => rfl,
      filterMap_clauseOf Clause.formula? Clause.sorts fun _ => rfl]
    simp [Function.comp_def, Clause.formula?]
  have paths : query.clauses.flatMap Clause.paths = query.includes := by
    simp only [clauses, List.flatMap_append,
      flatMap_map_nil Clause.paths Clause.filter fun _ =>
        rfl, flatMap_clauseOf Clause.paths Clause.includes rfl,
          flatMap_clauseOf Clause.paths Clause.sorts rfl,
      flatMap_map_nil Clause.paths Clause.pageOffset fun _ =>
        rfl, flatMap_map_nil Clause.paths Clause.pageLimit fun _ => rfl]
    simp [Clause.paths]
  have keys : query.clauses.flatMap Clause.keys = query.sorts := by
    simp only [clauses, List.flatMap_append, flatMap_map_nil Clause.keys Clause.filter fun _ => rfl,
      flatMap_clauseOf Clause.keys Clause.includes rfl,
        flatMap_clauseOf Clause.keys Clause.sorts rfl,
      flatMap_map_nil Clause.keys Clause.pageOffset fun _ =>
        rfl, flatMap_map_nil Clause.keys Clause.pageLimit fun _ => rfl]
    simp [Clause.keys]
  have offsets : query.clauses.filterMap Clause.offset? = query.pageOffset.toList := by
    simp only [clauses, List.filterMap_append, List.filterMap_map,
      filterMap_clauseOf Clause.offset? Clause.includes fun _ =>
        rfl, filterMap_clauseOf Clause.offset? Clause.sorts fun _ => rfl]
    simp [Function.comp_def, Clause.offset?]
  have limits : query.clauses.filterMap Clause.limit? = query.pageLimit.toList := by
    simp only [clauses, List.filterMap_append, List.filterMap_map,
      filterMap_clauseOf Clause.limit? Clause.includes fun _ =>
        rfl, filterMap_clauseOf Clause.limit? Clause.sorts fun _ => rfl]
    simp [Function.comp_def, Clause.limit?]
  have filter : Formula.conjunction? (conjuncts query.filter) = query.filter := by
    cases found : query.filter with
    | none => rfl
    | some f => exact (canonical.filter f found).conjunction?
  have last : ∀ n : Option Int, n.toList.getLast? = n := by
    rintro (_ | n) <;> rfl
  rw [ofClauses, formulas, paths, keys, offsets, limits, filter, last, last]

theorem isClause_of_isProper {clauses : List Clause}
    (proper : ∀ clause ∈ clauses, IsProper clause) :
    ∀ part ∈ clauses.filterMap Clause.formula?, IsClause part := by
  intro part member
  obtain ⟨clause, inside, said⟩ := List.mem_filterMap.1 member
  cases clause <;> cases said
  exact proper _ inside

private theorem canonical_ofClauses {clauses : List Clause}
    (proper : ∀ clause ∈ clauses, IsProper clause) :
    (ofClauses clauses).Canonical where
  filter := fun _ made => isConjunction_of_conjunction? (isClause_of_isProper proper) made
  includes := by
    intro path member
    obtain ⟨clause, inside, here⟩ := List.mem_flatMap.1 member
    cases clause with
    | includes paths => exact (proper _ inside).2 path here
    | _ => cases here
  sorts := by
    intro key member
    obtain ⟨clause, inside, here⟩ := List.mem_flatMap.1 member
    cases clause with
    | sorts keys => exact (proper _ inside).2 key here
    | _ => cases here
  pageOffset := by
    intro n last
    obtain ⟨clause, inside, said⟩ := List.mem_filterMap.1 (List.mem_of_getLast? last)
    cases clause <;> cases said
    exact proper _ inside
  pageLimit := by
    intro n last
    obtain ⟨clause, inside, said⟩ := List.mem_filterMap.1 (List.mem_of_getLast? last)
    cases clause <;> cases said
    exact proper _ inside

theorem says_write {query : Query} (canonical : query.Canonical) :
    Says query.write.toList query := by
  have proper := isProper_clauses canonical
  refine ⟨query.clauses.map writeClause, query.clauses, ?_, ?_, ?_,
    (ofClauses_clauses canonical).symm⟩
  · rw [List.forall_mem_map]
    exact fun clause member => free_writeClause (proper clause member)
  · rw [List.forall₂_map_left_iff, List.forall₂_same]
    exact fun clause member => ⟨_, _, spells_written (proper clause member), rfl⟩
  · rw [write, String.toList_ofList]

theorem canonical_of_says {text : List Char} {query : Query} (said : Says text query) :
    query.Canonical := by
  obtain ⟨texts, clauses, free, each, -, rfl⟩ := said
  refine canonical_ofClauses fun clause member => ?_
  obtain ⟨piece, inside, said⟩ := exists_left_of_forall₂ each clause member
  exact said.isProper (free piece inside)

/-- Texts are read as the queries that they say. Every canonical query is said by the text that
writes it, and is what that text is read as; no text is read as a query that is not canonical. -/
theorem read_write :
    (∀ text query, Reader.read text = .ok query ↔ Says text.toList query) ∧
      (∀ query : Query, query.Canonical → Says query.write.toList query ∧
        Reader.read query.write = .ok query) ∧
        ∀ text query, Reader.read text = .ok query → query.Canonical := by
  refine ⟨fun _ _ => read_eq_ok_iff, fun query canonical => ?_, fun text query made => ?_⟩
  · have said := says_write canonical
    exact ⟨said, read_eq_ok_iff.2 said⟩
  · exact canonical_of_says (read_eq_ok_iff.1 made)

/-- A query of each kind of clause, with an operator that is not known and a null value among
them. -/
def staff : Query :=
  ⟨some (.group .and [.compare "name" .eq "2",
    .group .or [.compare "position" .ne "manager", .compare "position" .ne "supervisor"],
    .compareNull "age" (.unknown "between")]), ["author.name"], ["position", "-name"],
      some 5, some 1⟩

theorem staff_canonical : staff.Canonical := by
  have name : IsClause (.compare "name" .eq "2") := .one ⟨by decide, trivial, by decide⟩
  have position : IsClause (.group .or
      (List.map .atom [⟨"position", .ne, some "manager"⟩,
        ⟨"position", .ne, some "supervisor"⟩])) := by
    refine .several (by decide) ?_ (by decide)
    simp only [List.forall_mem_cons]
    exact ⟨⟨by decide, trivial, by decide⟩, ⟨by decide, trivial, by decide⟩, nofun⟩
  have age : IsClause (.compareNull "age" (.unknown "between")) := by
    have other : ∀ known : Operator, known.isKnown = true → "between".toUpper ≠ known.token := by
      intro known isKnown
      cases known with
      | unknown token => cases isKnown
      | _ => decide +kernel
    exact .one ⟨by decide, ⟨by decide, other⟩, trivial⟩
  constructor
  · rintro _ ⟨⟩
    refine .several (by decide) ?_
    simp only [List.forall_mem_cons]
    exact ⟨name, position, age, nofun⟩
  · decide
  · simp only [staff, List.forall_mem_cons]
    exact ⟨.inl (by decide), .inr ⟨"name".toList, by decide, by decide⟩, nofun⟩
  · rintro _ ⟨⟩
    exact ⟨by decide, by decide⟩
  · rintro _ ⟨⟩
    exact ⟨by decide, by decide⟩

/-- The query of staff is written as it would be by hand, and read back. -/
theorem staff_read_back :
    staff.write =
      "filter[name][EQ]=2&filter[position][NEQ]=manager,supervisor&filter[age][between]=null&" ++
        "include=author.name&sort=position,-name&page[offset]=5&page[limit]=1" ∧
      Reader.read staff.write = .ok staff := by
  constructor
  · decide +kernel
  · obtain ⟨-, back, -⟩ := read_write
    exact (back staff staff_canonical).2

end FilterQuery.Query
