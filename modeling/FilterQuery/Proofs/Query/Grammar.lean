import FilterQuery.Proofs.Text.Pieces
import FilterQuery.Query.Reader
import Mathlib.Data.List.TakeWhile

set_option autoImplicit false
set_option relaxedAutoImplicit false

/-!
The grammar of query texts, stated apart from how they are read. A text is read exactly if the
grammar has it, and it is read as what the grammar takes it for, wherever it stands.
-/

namespace FilterQuery.Query

open FilterQuery.Filter (Formula Operator)
open FilterQuery.Number.Reading (natOfDigits isDigits)
open FilterQuery.Query.Reader
open FilterQuery.Text.Split

def IsPath (s : List Char) : Prop :=
  ∃ names : List (List Char), names ≠ [] ∧ (∀ name ∈ names, isName name = true) ∧
    s = List.intercalate ['.'] names

def IsKey (s : List Char) : Prop :=
  IsPath s ∨ ∃ path, IsPath path ∧ s = '-' :: path

private theorem isNameChar_of_mem {name : List Char} (named : isName name = true) :
    ∀ c ∈ name, (c.isAlphanum || c == '_') = true := by
  cases name with
  | nil => nofun
  | cons first rest =>
    simp only [isName, Bool.and_eq_true, List.all_eq_true] at named
    refine List.forall_mem_cons.2 ⟨?_, named.2⟩
    rcases Bool.or_eq_true_iff.1 named.1 with letter | score
    · simp [Char.isAlphanum, letter]
    · simp [score]

theorem isPath_iff {s : List Char} : isPath s = true ↔ IsPath s := by
  rw [isPath, List.all_eq_true]
  constructor
  · intro named
    obtain ⟨some, -, joined⟩ := split_eq_iff.1 (rfl : split '.' s = split '.' s)
    exact ⟨split '.' s, some, named, joined⟩
  · rintro ⟨names, some, named, joined⟩
    have free : ∀ name ∈ names, '.' ∉ name :=
      fun name member => not_mem_of_forall (isNameChar_of_mem (named name member)) (by decide)
    rw [split_eq_iff.2 ⟨some, free, joined⟩]
    exact named

instance : DecidablePred IsPath :=
  fun _ => decidable_of_iff _ isPath_iff

def isPathChar (c : Char) : Bool :=
  c.isAlphanum || c == '_' || c == '.'

theorem IsPath.isPathChar {path : List Char} (proper : IsPath path) :
    ∀ c ∈ path, isPathChar c = true := by
  obtain ⟨names, -, named, rfl⟩ := proper
  intro c member
  rcases eq_or_mem_of_mem_intercalate member with rfl | ⟨name, inside, here⟩
  · rfl
  · rw [Query.isPathChar, isNameChar_of_mem (named name inside) c here, Bool.true_or]

theorem IsPath.not_mem {path : List Char} (proper : IsPath path) {c : Char}
    (other : Query.isPathChar c = false) :
    c ∉ path :=
  not_mem_of_forall proper.isPathChar other

theorem IsPath.ne_nil {path : List Char} (proper : IsPath path) : path ≠ [] := by
  rintro rfl
  have named := isPath_iff.2 proper
  simp [isPath, split, isName] at named

theorem IsKey.not_mem {key : List Char} (proper : IsKey key) {c : Char}
    (other : Query.isPathChar c = false) (plain : c ≠ '-') : c ∉ key := by
  rcases proper with path | ⟨path, proper, rfl⟩
  · exact path.not_mem other
  · rw [List.mem_cons, not_or]
    exact ⟨plain, proper.not_mem other⟩

theorem IsKey.ne_nil {key : List Char} (proper : IsKey key) : key ≠ [] := by
  rcases proper with path | ⟨path, -, rfl⟩
  · exact path.ne_nil
  · simp

private theorem readPath_eq_ok_iff {start : Nat} {path : List Char} {result : String} :
    readPath start path = .ok result ↔ IsPath path ∧ String.ofList path = result := by
  rw [readPath, ← isPath_iff]
  by_cases proper : isPath path = true
  · simp [proper]
  · simp [proper, refuse]

theorem readSortKey_hyphen (start : Nat) (path : List Char) :
    readSortKey start ('-' :: path) = (readPath (start + 1) path).map fun _ =>
      String.ofList ('-' :: path) := by
  have reads : readSortKey start ('-' :: path) =
      (discard (readPath (start + 1) path)).bind fun _ => .ok (String.ofList ('-' :: path)) := rfl
  rw [reads]
  cases readPath (start + 1) path <;> rfl

theorem readSortKey_plain {key : List Char} (plain : ∀ path, key ≠ '-' :: path) (start : Nat) :
    readSortKey start key = (readPath start key).map fun _ => String.ofList key := by
  unfold readSortKey
  split
  · exact absurd rfl (plain _)
  · cases readPath start key <;> rfl

private theorem readSortKey_eq_ok_iff {start : Nat} {key : List Char} {result : String} :
    readSortKey start key = .ok result ↔ IsKey key ∧ String.ofList key = result := by
  have step : ∀ place path, (readPath place path).map (fun _ => String.ofList key) = .ok result ↔
      IsPath path ∧ String.ofList key = result := by
    intro place path
    rw [readPath, ← isPath_iff]
    by_cases proper : isPath path = true
    · simp [proper, Except.map]
    · simp [proper, refuse, Except.map]
  by_cases hyphen : ∃ path, key = '-' :: path
  · obtain ⟨path, rfl⟩ := hyphen
    have after : IsKey ('-' :: path) ↔ IsPath path := by
      constructor
      · rintro (proper | ⟨_, proper, ⟨⟩⟩)
        · exact absurd List.mem_cons_self (proper.not_mem (by decide))
        · exact proper
      · exact fun proper => .inr ⟨path, proper, rfl⟩
    rw [readSortKey_hyphen, step, after]
  · have plain : ∀ path, key ≠ '-' :: path := fun path same => hyphen ⟨path, same⟩
    have whole : IsKey key ↔ IsPath key := by
      constructor
      · rintro (proper | ⟨path, -, same⟩)
        · exact proper
        · exact absurd same (plain path)
      · exact .inl
    rw [readSortKey_plain plain, step, whole]

/-- One or more values, which are not empty and have no commas in them. -/
structure AreValues (values : List (List Char)) : Prop where
  some : values ≠ []
  ne_nil : ∀ value ∈ values, value ≠ []
  free : ∀ value ∈ values, ',' ∉ value

theorem readValues_eq_ok_iff {start : Nat} {raw : List Char} {placed : List (Nat × List Char)} :
    readValues start raw = .ok placed ↔
      ∃ values, AreValues values ∧ raw = List.intercalate [','] values ∧
        placed = place start values := by
  have filled : (∀ x ∈ place start (split ',' raw), x.2.isEmpty = false) ↔
      ∀ value ∈ split ',' raw, value ≠ [] := by
    conv_rhs => rw [← map_snd_place start (split ',' raw), List.forall_mem_map]
    simp only [List.isEmpty_eq_false_iff]
  have reads : readValues start raw = (place start (split ',' raw)).mapM fun x =>
      if x.2.isEmpty then .error (.query x.1 .emptyValue) else .ok x := rfl
  rw [reads, mapM_refusing_eq_ok_iff, filled]
  constructor
  · rintro ⟨ne_nil, rfl⟩
    obtain ⟨some, free, joined⟩ := split_eq_iff.1 (rfl : split ',' raw = split ',' raw)
    exact ⟨split ',' raw, ⟨some, ne_nil, free⟩, joined, rfl⟩
  · rintro ⟨values, proper, joined, rfl⟩
    rw [split_eq_iff.2 ⟨proper.some, proper.free, joined⟩]
    exact ⟨proper.ne_nil, rfl⟩

/-- The digits of a number within the bound of integers with a sign. -/
structure IsNumber (digits : List Char) : Prop where
  isDigits : isDigits digits = true
  inBound : natOfDigits digits < 0x8000000000000000

private theorem readInteger_eq_ok_iff {start : Nat} {raw : List Char} {n : Int} :
    readInteger start raw = .ok n ↔ IsNumber raw ∧ (natOfDigits raw : Int) = n := by
  unfold readInteger
  by_cases digits : isDigits raw = true
  · by_cases small : natOfDigits raw < 0x8000000000000000
    · simp [digits, small, (⟨digits, small⟩ : IsNumber raw)]
    · have large : ¬IsNumber raw := fun number => small number.inBound
      simp [digits, small, large, refuse]
  · have other : ¬IsNumber raw := fun number => digits number.isDigits
    simp [digits, other, refuse]

def isInside (c : Char) : Bool :=
  c != '[' && c != ']'

def inBrackets (inside : List Char) : List Char :=
  '[' :: inside ++ [']']

private theorem bracketed?_eq_some_iff {s inside rest : List Char} :
    bracketed? s = some (inside, rest) ↔ (∀ c ∈ inside, isInside c = true) ∧
      s = inBrackets inside ++ rest := by
  constructor
  · intro found
    unfold bracketed? at found
    split at found
    · next s =>
      have parts : s.takeWhile isInside ++ s.dropWhile isInside = s :=
        List.takeWhile_append_dropWhile
      have after : s.drop (s.takeWhile isInside).length = s.dropWhile isInside := by
        calc s.drop (s.takeWhile isInside).length
            = (s.takeWhile isInside ++ s.dropWhile isInside).drop
              (s.takeWhile isInside).length := by rw [parts]
          _ = s.dropWhile isInside := List.drop_left
      dsimp only at found
      split at found
      · next rest' closed =>
        obtain ⟨rfl, rfl⟩ := Prod.mk.inj (Option.some.inj found)
        have closed' : s.dropWhile isInside = ']' :: rest' := after.symm.trans closed
        rw [closed'] at parts
        refine ⟨fun c member => List.mem_takeWhile_imp member, ?_⟩
        simp only [inBrackets, List.cons_append, List.append_assoc, List.nil_append]
        exact congrArg _ parts.symm
      · cases found
    · cases found
  · rintro ⟨within, rfl⟩
    have inner : (inside ++ ']' :: rest).takeWhile (fun c => c != '[' && c != ']') = inside := by
      have before : (inside ++ ']' :: rest).takeWhile isInside = inside ++
          (']' :: rest).takeWhile isInside :=
        List.takeWhile_append_of_pos within
      rw [List.takeWhile_cons_of_neg (by decide), List.append_nil] at before
      exact before
    have text : inBrackets inside ++ rest = '[' :: (inside ++ ']' :: rest) := by simp [inBrackets]
    rw [text, bracketed?]
    simp only [inner, List.drop_left]

/-- The operator of a clause, which is named between brackets after the path, or not at all for
equality. -/
def operatorText : Option (List Char) → List Char
  | none => []
  | some token => inBrackets token

theorem filterKey?_eq_some_iff {key path : List Char} {token : Option (List Char)} :
    filterKey? key = some (path, token) ↔
      (∀ c ∈ path, isInside c = true) ∧ (∀ letters ∈ token, ∀ c ∈ letters, isInside c = true) ∧
        key = "filter".toList ++ (inBrackets path ++ operatorText token) := by
  have parts : key.take 6 ++ key.drop 6 = key := List.take_append_drop 6 key
  unfold filterKey?
  constructor
  · intro found
    split at found
    · next started =>
      rw [started] at parts
      split at found
      · next inner =>
        cases found
        obtain ⟨within, text⟩ := bracketed?_eq_some_iff.1 inner
        rw [text] at parts
        exact ⟨within, by simp, by rw [← parts, operatorText]⟩
      · next inner =>
        obtain ⟨within, text⟩ := bracketed?_eq_some_iff.1 inner
        split at found
        · next inner' =>
          cases found
          obtain ⟨within', text'⟩ := bracketed?_eq_some_iff.1 inner'
          rw [text, text', List.append_nil] at parts
          refine ⟨within, ?_, by rw [← parts, operatorText]⟩
          rintro _ ⟨⟩
          exact within'
        · cases found
      · cases found
    · cases found
  · rintro ⟨within, within', rfl⟩
    have first : ("filter".toList ++ (inBrackets path ++ operatorText token)).take 6 =
        "filter".toList :=
      List.take_left' rfl
    have others : ("filter".toList ++ (inBrackets path ++ operatorText token)).drop 6 =
        inBrackets path ++ operatorText token := List.drop_left' rfl
    rw [if_pos first, others, bracketed?_eq_some_iff.2 ⟨within, rfl⟩]
    cases token with
    | none => rfl
    | some letters =>
      have named : bracketed? (operatorText (some letters)) = some (letters, []) :=
        bracketed?_eq_some_iff.2 ⟨within' letters rfl, by rw [List.append_nil, operatorText]⟩
      have filled : operatorText (some letters) = '[' :: (letters ++ [']']) := rfl
      rw [filled] at named ⊢
      simp only [named]

/-- The operator that a token names. -/
inductive Names : Option (List Char) → Operator → Prop
  | default : Names none .eq
  | token {letters : List Char} (proper : isToken letters = true) :
    Names (some letters) (.ofToken (String.ofList letters))

private theorem readOperator_eq_ok_iff {start : Nat} {token : Option (List Char)}
    {operator : Operator} :
    readOperator start token = .ok operator ↔ Names token operator := by
  constructor
  · intro made
    cases token with
    | none => exact Except.ok.inj made ▸ .default
    | some letters =>
      rw [readOperator] at made
      by_cases proper : isToken letters = true
      · rw [if_pos proper] at made
        exact Except.ok.inj made ▸ .token proper
      · rw [if_neg proper] at made
        cases made
  · rintro (_ | proper)
    · rfl
    · rw [readOperator, if_pos proper]

private theorem inside_of_not_mem {s : List Char} (opening : '[' ∉ s) (closing : ']' ∉ s) :
    ∀ c ∈ s, isInside c = true := by
  intro c member
  have notOpening : c ≠ '[' := fun same => opening (same ▸ member)
  have notClosing : c ≠ ']' := fun same => closing (same ▸ member)
  simp [isInside, notOpening, notClosing]

theorem IsPath.inside {path : List Char} (proper : IsPath path) : ∀ c ∈ path, isInside c = true :=
  inside_of_not_mem (proper.not_mem (by decide)) (proper.not_mem (by decide))

theorem isAlpha_of_isToken {letters : List Char} (proper : isToken letters = true) :
    ∀ c ∈ letters, c.isAlpha = true := by
  rw [isToken, Bool.and_eq_true, List.all_eq_true] at proper
  exact proper.2

theorem Names.inside {token : Option (List Char)} {operator : Operator}
    (named : Names token operator) :
    ∀ letters ∈ token, ∀ c ∈ letters, isInside c = true := by
  rintro letters ⟨⟩
  cases named with
  | token proper =>
    have each := isAlpha_of_isToken proper
    exact inside_of_not_mem (not_mem_of_forall each (by decide))
      (not_mem_of_forall each (by decide))

def comparisons (path : List Char) (operator : Operator) (values : List (List Char)) : Formula :=
  .join .or (values.map fun value => .atom ⟨String.ofList path, operator, readOperand value⟩)

private theorem readFilter_eq_ok_iff {start : Nat} {key : List Char} {valuesAt : Nat}
    {raw : List Char} {formula : Formula} :
    readFilter start key valuesAt raw = .ok formula ↔
      ∃ path token operator values, IsPath path ∧ Names token operator ∧ AreValues values ∧
        key = "filter".toList ++ (inBrackets path ++ operatorText token) ∧
          raw = List.intercalate [','] values ∧
          formula = comparisons path operator values := by
  constructor
  · intro made
    unfold readFilter at made
    split at made
    · cases made
    · next path token found =>
      obtain ⟨-, -, spelled⟩ := filterKey?_eq_some_iff.1 found
      obtain ⟨path', located, made⟩ := bind_eq_ok_iff.1 made
      obtain ⟨operator, named, made⟩ := bind_eq_ok_iff.1 made
      obtain ⟨placed, read, made⟩ := bind_eq_ok_iff.1 made
      obtain ⟨proper, rfl⟩ := readPath_eq_ok_iff.1 located
      obtain ⟨values, listed, joined, rfl⟩ := readValues_eq_ok_iff.1 read
      refine ⟨path, token, operator, values, proper, readOperator_eq_ok_iff.1 named, listed,
        spelled, joined, ?_⟩
      rw [← Except.ok.inj made, comparisons, ← map_place]
  · rintro ⟨path, token, operator, values, proper, named, listed, rfl, rfl, rfl⟩
    unfold readFilter
    rw [filterKey?_eq_some_iff.2 ⟨proper.inside, named.inside, rfl⟩]
    refine bind_eq_ok_iff.2 ⟨_, readPath_eq_ok_iff.2 ⟨proper, rfl⟩, ?_⟩
    refine bind_eq_ok_iff.2 ⟨operator, readOperator_eq_ok_iff.2 named, ?_⟩
    refine bind_eq_ok_iff.2 ⟨_, readValues_eq_ok_iff.2 ⟨values, listed, rfl, rfl⟩, ?_⟩
    rw [comparisons, ← map_place]
    rfl

/-- The key and the values of a clause, and what the clause says. -/
inductive Spells : List Char → List Char → Clause → Prop
  | filter {path : List Char} {token : Option (List Char)} {operator : Operator}
      {values : List (List Char)}
    (located : IsPath path) (named : Names token operator) (proper : AreValues values) :
    Spells ("filter".toList ++ (inBrackets path ++ operatorText token))
      (List.intercalate [','] values)
      (.filter (comparisons path operator values))
  | includes {paths : List (List Char)} (some : paths ≠ []) (each : ∀ path ∈ paths, IsPath path) :
    Spells "include".toList (List.intercalate [','] paths) (.includes (paths.map String.ofList))
  | sorts {keys : List (List Char)} (some : keys ≠ []) (each : ∀ key ∈ keys, IsKey key) :
    Spells "sort".toList (List.intercalate [','] keys) (.sorts (keys.map String.ofList))
  | pageOffset {digits : List Char} (number : IsNumber digits) :
    Spells "page[offset]".toList digits (.pageOffset (natOfDigits digits))
  | pageLimit {digits : List Char} (number : IsNumber digits) :
    Spells "page[limit]".toList digits (.pageLimit (natOfDigits digits))

def SaysClause (text : List Char) (clause : Clause) : Prop :=
  ∃ key raw, Spells key raw clause ∧ text = key ++ '=' :: raw

/-- A query: clauses with `&` between them, or nothing. -/
def Says (text : List Char) (query : Query) : Prop :=
  ∃ texts clauses, (∀ piece ∈ texts, '&' ∉ piece) ∧ List.Forall₂ SaysClause texts clauses ∧
    text = List.intercalate ['&'] texts ∧ query = ofClauses clauses

def isKeyChar (c : Char) : Bool :=
  isPathChar c || c == '[' || c == ']'

private theorem isKeyChar_inBrackets {inside : List Char}
    (within : ∀ c ∈ inside, isKeyChar c = true) :
    ∀ c ∈ inBrackets inside, isKeyChar c = true := by
  simp only [inBrackets, List.cons_append, List.forall_mem_cons, List.forall_mem_append]
  exact ⟨rfl, within, rfl, nofun⟩

private theorem Spells.isKeyChar {key raw : List Char} {clause : Clause}
    (spelled : Spells key raw clause) :
    ∀ c ∈ key, isKeyChar c = true := by
  have word : ∀ s : String, s.toList.all Query.isKeyChar = true →
      ∀ c ∈ s.toList, Query.isKeyChar c = true :=
    fun _ => List.all_eq_true.1
  cases spelled with
  | @filter path token operator values located named proper =>
    have inPath : ∀ c ∈ path, Query.isKeyChar c = true := by
      intro c member
      simp [Query.isKeyChar, located.isPathChar c member]
    have inToken : ∀ c ∈ operatorText token, Query.isKeyChar c = true := by
      cases named with
      | default => nofun
      | token proper =>
        refine isKeyChar_inBrackets fun c member => ?_
        simp [Query.isKeyChar, isPathChar, Char.isAlphanum, isAlpha_of_isToken proper c member]
    rw [List.forall_mem_append, List.forall_mem_append]
    exact ⟨word _ (by decide), isKeyChar_inBrackets inPath, inToken⟩
  | includes => exact word _ (by decide)
  | sorts => exact word _ (by decide)
  | pageOffset => exact word _ (by decide)
  | pageLimit => exact word _ (by decide)

theorem Spells.not_mem_key {key raw : List Char} {clause : Clause} (spelled : Spells key raw clause)
    {c : Char} (other : Query.isKeyChar c = false) : c ∉ key :=
  not_mem_of_forall spelled.isKeyChar other

private theorem readList_eq_ok_iff {f : Nat × List Char → Except Error String}
    {P : List Char → Prop} {make : List String → Clause}
    (each : ∀ start value result, f (start, value) = .ok result ↔
      P value ∧ String.ofList value = result) (plain : ∀ value, P value → value ≠ [] ∧
        ',' ∉ value) {start : Nat} {raw : List Char} {clause : Clause} :
    ((readValues start raw).bind fun placed => (placed.mapM f).bind fun found =>
      .ok (make found)) = .ok clause ↔
      ∃ values, values ≠ [] ∧ (∀ value ∈ values, P value) ∧ raw = List.intercalate [','] values ∧
        clause = make (values.map String.ofList) := by
  have kept : ∀ values found, List.Forall₂ (fun value result => P value ∧
      String.ofList value = result) values found ↔
      (∀ value ∈ values, P value) ∧ found = values.map String.ofList := by
    intro values found
    constructor
    · intro pairs
      induction pairs with
      | nil => simp
      | cons first rest ih =>
        obtain ⟨others, rfl⟩ := ih
        exact ⟨List.forall_mem_cons.2 ⟨first.1, others⟩, by rw [List.map_cons, first.2]⟩
    · rintro ⟨each, rfl⟩
      rw [List.forall₂_map_right_iff, List.forall₂_same]
      exact fun value member => ⟨each value member, rfl⟩
  constructor
  · intro made
    obtain ⟨placed, read, made⟩ := bind_eq_ok_iff.1 made
    obtain ⟨found, taken, made⟩ := bind_eq_ok_iff.1 made
    obtain ⟨values, proper, joined, rfl⟩ := readValues_eq_ok_iff.1 read
    obtain ⟨each, rfl⟩ := (kept values found).1 ((mapM_place_eq_ok_iff each).1 taken)
    exact ⟨values, proper.some, each, joined, (Except.ok.inj made).symm⟩
  · rintro ⟨values, some, proper, joined, rfl⟩
    have listed : AreValues values := by
      refine ⟨some, fun value member => ?_, fun value member => ?_⟩
      · exact (plain value (proper value member)).1
      · exact (plain value (proper value member)).2
    refine bind_eq_ok_iff.2 ⟨_, readValues_eq_ok_iff.2 ⟨values, listed, joined, rfl⟩, ?_⟩
    exact bind_eq_ok_iff.2 ⟨_, (mapM_place_eq_ok_iff each).2 ((kept values _).2 ⟨proper, rfl⟩), rfl⟩

private theorem IsPath.isValue {path : List Char} (proper : IsPath path) : path ≠ [] ∧ ',' ∉ path :=
  ⟨proper.ne_nil, proper.not_mem (by decide)⟩

private theorem IsKey.isValue {key : List Char} (proper : IsKey key) : key ≠ [] ∧ ',' ∉ key :=
  ⟨proper.ne_nil, proper.not_mem (by decide) (by decide)⟩

private theorem saysClause_of_readClause {start : Nat} {text : List Char} {clause : Clause}
    (made : readClause start text = .ok clause) : SaysClause text clause := by
  unfold readClause at made
  split at made
  · cases made
  · split at made
    · cases made
    · next key raw found =>
      obtain ⟨-, rfl⟩ := cut?_eq_some_iff.1 found
      refine ⟨key, raw, ?_, rfl⟩
      have spelled : ∀ {word : String}, String.ofList key = word → key = word.toList := by
        rintro word rfl
        rw [String.toList_ofList]
      split at made
      · next word =>
        obtain ⟨paths, some, each, rfl, rfl⟩ :=
          (readList_eq_ok_iff (fun _ _ _ => readPath_eq_ok_iff) fun _ => IsPath.isValue).1 made
        rw [spelled word]
        exact .includes some each
      · next word =>
        obtain ⟨keys, some, each, rfl, rfl⟩ :=
          (readList_eq_ok_iff (fun _ _ _ => readSortKey_eq_ok_iff) fun _ => IsKey.isValue).1 made
        rw [spelled word]
        exact .sorts some each
      · next word =>
        obtain ⟨n, read, rfl⟩ := map_eq_ok_iff.1 made
        obtain ⟨number, rfl⟩ := readInteger_eq_ok_iff.1 read
        rw [spelled word]
        exact .pageOffset number
      · next word =>
        obtain ⟨n, read, rfl⟩ := map_eq_ok_iff.1 made
        obtain ⟨number, rfl⟩ := readInteger_eq_ok_iff.1 read
        rw [spelled word]
        exact .pageLimit number
      · obtain ⟨formula, read, rfl⟩ := map_eq_ok_iff.1 made
        obtain ⟨path, token, operator, values, located, named, proper, rfl, rfl, rfl⟩ :=
          readFilter_eq_ok_iff.1 read
        exact .filter located named proper

private theorem readClause_of_spells {start : Nat} {key raw : List Char} {clause : Clause}
    (spelled : Spells key raw clause) :
    readClause start (key ++ '=' :: raw) = .ok clause := by
  have filled : ¬(key ++ '=' :: raw).isEmpty = true := by simp
  unfold readClause
  rw [if_neg filled, cut?_eq_some_iff.2 ⟨spelled.not_mem_key (by decide), rfl⟩]
  cases spelled with
  | @filter path token operator values located named proper =>
    have other : ∀ word : String, word.toList.head? ≠ some 'f' →
        String.ofList ("filter".toList ++ (inBrackets path ++ operatorText token)) ≠ word := by
      rintro word different rfl
      exact different (by rw [String.toList_ofList]; rfl)
    simp only
    split
    · next word => exact absurd word (other _ (by decide))
    · next word => exact absurd word (other _ (by decide))
    · next word => exact absurd word (other _ (by decide))
    · next word => exact absurd word (other _ (by decide))
    · exact map_eq_ok_iff.2
        ⟨_, readFilter_eq_ok_iff.2 ⟨path, token, operator, values, located, named, proper, rfl,
          rfl, rfl⟩, rfl⟩
  | includes some each =>
    exact (readList_eq_ok_iff (fun _ _ _ => readPath_eq_ok_iff) fun _ => IsPath.isValue).2 ⟨_, some,
      each, rfl, rfl⟩
  | sorts some each =>
    exact (readList_eq_ok_iff (fun _ _ _ => readSortKey_eq_ok_iff) fun _ => IsKey.isValue).2 ⟨_,
      some, each, rfl, rfl⟩
  | pageOffset number => exact map_eq_ok_iff.2 ⟨_, readInteger_eq_ok_iff.2 ⟨number, rfl⟩, rfl⟩
  | pageLimit number => exact map_eq_ok_iff.2 ⟨_, readInteger_eq_ok_iff.2 ⟨number, rfl⟩, rfl⟩

theorem readClause_eq_ok_iff {start : Nat} {text : List Char} {clause : Clause} :
    readClause start text = .ok clause ↔ SaysClause text clause := by
  refine ⟨saysClause_of_readClause, ?_⟩
  rintro ⟨key, raw, spelled, rfl⟩
  exact readClause_of_spells spelled

private theorem not_saysClause_nil {clause : Clause} : ¬SaysClause [] clause := by
  rintro ⟨key, raw, -, same⟩
  simp at same

/-- The empty text says the empty query only. -/
theorem says_nil_iff {query : Query} : Says [] query ↔ query = .empty := by
  constructor
  · rintro ⟨texts, clauses, free, each, joined, rfl⟩
    by_cases some : texts = []
    · subst some
      cases each
      rfl
    · have pieces : split '&' [] = texts := split_eq_iff.2 ⟨some, free, joined⟩
      rw [split] at pieces
      subst pieces
      rcases each with _ | ⟨first, -⟩
      exact absurd first not_saysClause_nil
  · rintro rfl
    exact ⟨[], [], by simp, .nil, rfl, rfl⟩

theorem read_eq_ok_iff {text : String} {query : Query} :
    Reader.read text = .ok query ↔ Says text.toList query := by
  unfold Reader.read
  by_cases empty : text = ""
  · subst empty
    have nothing : "".isEmpty = true := rfl
    rw [if_pos nothing, String.toList_empty, says_nil_iff, Except.ok.injEq, eq_comm]
  · have something : ¬text.isEmpty = true := by rwa [String.isEmpty_iff]
    rw [if_neg something, map_eq_ok_iff]
    constructor
    · rintro ⟨clauses, made, rfl⟩
      obtain ⟨-, free, joined⟩ :=
        split_eq_iff.1 (rfl : split '&' text.toList = split '&' text.toList)
      exact ⟨_, clauses, free, (mapM_place_eq_ok_iff fun _ _ _ => readClause_eq_ok_iff).1 made,
        joined, rfl⟩
    · rintro ⟨texts, clauses, free, each, joined, rfl⟩
      have some : texts ≠ [] := by
        rintro rfl
        exact empty (String.toList_eq_nil_iff.1 joined)
      refine ⟨clauses, ?_, rfl⟩
      rw [readClauses, split_eq_iff.2 ⟨some, free, joined⟩]
      exact (mapM_place_eq_ok_iff fun _ _ _ => readClause_eq_ok_iff).2 each

end FilterQuery.Query
