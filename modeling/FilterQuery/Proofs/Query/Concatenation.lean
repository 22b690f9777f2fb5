import FilterQuery.Proofs.Query.RoundTrip

set_option autoImplicit false
set_option relaxedAutoImplicit false

/-!
Query texts with `&` between them. They are read one after the other: the first error counts, where
places in the second text are found after the first text and the separator, and what both say is put
together.
-/

namespace FilterQuery.Query

open FilterQuery.Filter (Formula Operator)
open FilterQuery.Number.Reading (natOfDigits isDigits)
open FilterQuery.Query.Reader
open FilterQuery.Text.Split

/-- What is read of the same text at two places, of which the second is `k` bytes further on. Both
results are the same error, at places `k` bytes apart, or both are related values. -/
inductive Moved (k : Nat) {α : Type} (R : α → α → Prop) : Except Error α → Except Error α → Prop
  | error (offset : Nat) (fault : SyntaxFault) :
    Moved k R (.error (.query offset fault)) (.error (.query (offset + k) fault))
  | ok {a b : α} (related : R a b) : Moved k R (.ok a) (.ok b)

section Moved

variable {k : Nat} {α β : Type} {R : α → α → Prop} {S : β → β → Prop}

theorem Moved.bind {x y : Except Error α} {f g : α → Except Error β} (first : Moved k R x y)
    (next : ∀ a b, R a b → Moved k S (f a) (g b)) : Moved k S (x.bind f) (y.bind g) := by
  cases first with
  | error offset fault => exact .error offset fault
  | ok related => exact next _ _ related

theorem Moved.map {x y : Except Error α} {f g : α → β} (moved : Moved k R x y)
    (each : ∀ a b, R a b → S (f a) (g b)) :
    Moved k S (x.map f) (y.map g) := by
  cases moved with
  | error offset fault => exact .error offset fault
  | ok related => exact .ok (each _ _ related)

theorem Moved.mapM {f g : α → Except Error β} {xs ys : List α} (pairs : List.Forall₂ R xs ys)
    (each : ∀ x y, R x y → Moved k S (f x) (g y)) :
    Moved k (List.Forall₂ S) (xs.mapM f) (ys.mapM g) := by
  induction pairs with
  | nil => exact .ok .nil
  | cons head tail ih =>
    rw [List.mapM_cons, List.mapM_cons]
    refine Moved.bind (each _ _ head) fun a b first => Moved.bind ih fun as bs others => ?_
    exact .ok (.cons first others)

private theorem Moved.mapM_eq {f g : α → Except Error β} {xs ys : List α}
    (pairs : List.Forall₂ R xs ys) (each : ∀ x y, R x y → Moved k Eq (f x) (g y)) :
    Moved k Eq (xs.mapM f) (ys.mapM g) := by
  have moved := Moved.mapM pairs each
  rwa [List.forall₂_eq_eq_eq] at moved

private theorem Moved.of_error {x : Except Error α} {e : Error} (moved : Moved k R (.error e) x) :
    ∃ offset fault, e = .query offset fault ∧ x = .error (.query (offset + k) fault) := by
  cases moved with
  | error offset fault => exact ⟨offset, fault, rfl, rfl⟩

private theorem Moved.of_ok {x : Except Error α} {a : α} (moved : Moved k Eq (.ok a) x) :
    x = .ok a := by
  cases moved with
  | ok same => rw [same]

end Moved

variable {k : Nat}

def Beside (k : Nat) (x y : Nat × List Char) : Prop :=
  y = (x.1 + k, x.2)

private theorem place_moved (k start : Nat) (pieces : List (List Char)) :
    List.Forall₂ (Beside k) (place start pieces) (place (start + k) pieces) := by
  induction pieces generalizing start with
  | nil => exact .nil
  | cons piece pieces ih =>
    have later := ih (start + byteSize piece + 1)
    rw [place, place, Nat.add_right_comm start k, Nat.add_right_comm (start + byteSize piece) k]
    exact .cons rfl later

private theorem readValues_moved (k start : Nat) (raw : List Char) :
    Moved k (List.Forall₂ (Beside k)) (readValues start raw) (readValues (start + k) raw) := by
  refine Moved.mapM (place_moved k start (split ',' raw)) ?_
  rintro ⟨place, value⟩ _ rfl
  dsimp only
  by_cases empty : value.isEmpty = true
  · rw [if_pos empty, if_pos empty]
    exact .error place .emptyValue
  · rw [if_neg empty, if_neg empty]
    exact .ok rfl

private theorem readPath_moved (k start : Nat) (path : List Char) :
    Moved k Eq (readPath start path) (readPath (start + k) path) := by
  unfold readPath
  by_cases proper : isPath path = true
  · rw [if_pos proper, if_pos proper]
    exact .ok rfl
  · rw [if_neg proper, if_neg proper]
    exact .error start _

private theorem readSortKey_moved (k start : Nat) (key : List Char) :
    Moved k Eq (readSortKey start key) (readSortKey (start + k) key) := by
  by_cases hyphen : ∃ path, key = '-' :: path
  · obtain ⟨path, rfl⟩ := hyphen
    rw [readSortKey_hyphen, readSortKey_hyphen, Nat.add_right_comm]
    exact (readPath_moved k (start + 1) path).map fun _ _ _ => rfl
  · have plain : ∀ path, key ≠ '-' :: path := fun path same => hyphen ⟨path, same⟩
    rw [readSortKey_plain plain, readSortKey_plain plain]
    exact (readPath_moved k start key).map fun _ _ _ => rfl

private theorem readInteger_moved (k start : Nat) (raw : List Char) :
    Moved k Eq (readInteger start raw) (readInteger (start + k) raw) := by
  unfold readInteger
  by_cases digits : isDigits raw = true
  · by_cases small : natOfDigits raw < 0x8000000000000000
    · simp only [digits, small, Bool.not_true, Bool.false_eq_true, if_false, if_true]
      exact .ok rfl
    · simp only [digits, small, Bool.not_true, Bool.false_eq_true, if_false]
      exact .error start _
  · simp only [digits, Bool.not_false, if_true]
    exact .error start _

private theorem readOperator_moved (k start : Nat) (token : Option (List Char)) :
    Moved k Eq (readOperator start token) (readOperator (start + k) token) := by
  cases token with
  | none => exact .ok rfl
  | some letters =>
    unfold readOperator
    by_cases proper : isToken letters = true
    · simp only [proper, if_true]
      exact .ok rfl
    · simp only [proper, Bool.false_eq_true, if_false]
      exact .error start _

private theorem readFilter_moved (k start valuesAt : Nat) (key raw : List Char) :
    Moved k Eq (readFilter start key valuesAt raw)
      (readFilter (start + k) key (valuesAt + k) raw) := by
  unfold readFilter
  cases filterKey? key with
  | none => exact .error start _
  | some parts =>
    obtain ⟨path, token⟩ := parts
    have located := readPath_moved k (start + 7) path
    have named := readOperator_moved k (start + 7 + byteSize path + 2) token
    rw [Nat.add_right_comm _ 2 k, Nat.add_right_comm _ (byteSize path) k] at named
    rw [Nat.add_right_comm start 7 k] at located named
    refine Moved.bind located fun path' _ same => ?_
    subst same
    refine Moved.bind named fun operator _ same => ?_
    subst same
    refine Moved.bind (readValues_moved k valuesAt raw) fun values others pairs => .ok ?_
    congr 1
    induction pairs with
    | nil => rfl
    | cons head tail ih => cases head; simp only [List.map_cons, ih]

private theorem readList_moved {f : Nat → List Char → Except Error String}
    (each : ∀ start value, Moved k Eq (f start value) (f (start + k) value))
    (make : List String → Clause) (start : Nat) (raw : List Char) :
    Moved k Eq ((readValues start raw).bind fun placed =>
      (placed.mapM fun x => f x.1 x.2).bind fun found => .ok (make found))
      ((readValues (start + k) raw).bind fun placed =>
        (placed.mapM fun x => f x.1 x.2).bind fun found => .ok (make found)) := by
  refine Moved.bind (readValues_moved k start raw) fun placed others pairs => ?_
  refine Moved.bind (Moved.mapM_eq pairs ?_) fun found _ same => .ok (congrArg make same)
  rintro ⟨place, value⟩ _ rfl
  exact each place value

private theorem readClause_moved (k start : Nat) (clause : List Char) :
    Moved k Eq (readClause start clause) (readClause (start + k) clause) := by
  unfold readClause
  by_cases empty : clause.isEmpty = true
  · rw [if_pos empty, if_pos empty]
    exact .error start _
  · rw [if_neg empty, if_neg empty]
    cases cut? '=' clause with
    | none => exact .error start _
    | some parts =>
      obtain ⟨key, raw⟩ := parts
      have further : start + k + byteSize key + 1 = start + byteSize key + 1 + k := by omega
      simp only [further]
      have number := readInteger_moved k (start + byteSize key + 1) raw
      split
      · exact readList_moved (readPath_moved k) .includes _ raw
      · exact readList_moved (readSortKey_moved k) .sorts _ raw
      · exact number.map fun _ _ same => congrArg _ same
      · exact number.map fun _ _ same => congrArg _ same
      · exact (readFilter_moved k start _ key raw).map fun _ _ same => congrArg _ same

/-- The clauses of a text are the same wherever it stands, and so are its errors but for their
places. -/
theorem readClauses_moved (k start : Nat) (s : List Char) :
    Moved k Eq (readClauses start s) (readClauses (start + k) s) := by
  refine Moved.mapM_eq (place_moved k start (split '&' s)) ?_
  rintro ⟨place, clause⟩ _ rfl
  exact readClause_moved k place clause

private theorem readClauses_append (start : Nat) (s t : List Char) :
    readClauses start (s ++ '&' :: t) =
      (readClauses start s).bind fun clauses =>
        (readClauses (start + byteSize s + 1) t).map fun others => clauses ++ others := by
  unfold readClauses
  rw [split_append, place_append, width_split (by decide), List.mapM_append, ← Nat.add_assoc]
  rfl

/-- Two queries one after the other: the filter clauses of both hold together, and a page number of
the second counts before one of the first. -/
def append (first second : Query) : Query where
  filter := Formula.conjunction? (conjuncts first.filter ++ conjuncts second.filter)
  includes := first.includes ++ second.includes
  sorts := first.sorts ++ second.sorts
  pageOffset := second.pageOffset.or first.pageOffset
  pageLimit := second.pageLimit.or first.pageLimit

private theorem isProper_of_readClauses {start : Nat} {s : List Char} {clauses : List Clause}
    (made : readClauses start s = .ok clauses) : ∀ clause ∈ clauses, IsProper clause := by
  intro clause member
  obtain ⟨text, inside, said⟩ :=
    exists_left_of_forall₂ ((mapM_place_eq_ok_iff fun _ _ _ =>
      readClause_eq_ok_iff).1 made) clause member
  exact said.isProper (not_mem_of_mem_split text inside)

private theorem conjuncts_ofClauses {clauses : List Clause}
    (proper : ∀ clause ∈ clauses, IsProper clause) :
    conjuncts (ofClauses clauses).filter = clauses.filterMap Clause.formula? := by
  have each := isClause_of_isProper proper
  change conjuncts (Formula.conjunction? (clauses.filterMap Clause.formula?)) = _
  match clauses.filterMap Clause.formula?, each with
  | [], _ => rfl
  | [part], each => exact conjuncts_of_isClause (each part (by simp))
  | first :: second :: others, _ => rfl

private theorem ofClauses_append {clauses others : List Clause}
    (first : ∀ clause ∈ clauses, IsProper clause) (second : ∀ clause ∈ others, IsProper clause) :
    ofClauses (clauses ++ others) = (ofClauses clauses).append (ofClauses others) := by
  unfold append
  rw [conjuncts_ofClauses first, conjuncts_ofClauses second]
  simp only [ofClauses, List.filterMap_append, List.flatMap_append, List.getLast?_append]

private theorem read_of_ne_empty {text : String} (filled : text ≠ "") :
    Reader.read text = ofClauses <$> readClauses 0 text.toList := by
  have something : ¬text.isEmpty = true := by rwa [String.isEmpty_iff]
  rw [Reader.read, if_neg something]

private theorem readClauses_of_error {text : String} {e : Error} (filled : text ≠ "")
    (failed : Reader.read text = .error e) :
    readClauses 0 text.toList = .error e := by
  rw [read_of_ne_empty filled] at failed
  exact map_eq_error_iff.1 failed

private theorem readClauses_of_ok {text : String} {query : Query} (filled : text ≠ "")
    (made : Reader.read text = .ok query) :
    ∃ clauses, readClauses 0 text.toList = .ok clauses ∧ ofClauses clauses = query := by
  rw [read_of_ne_empty filled] at made
  exact map_eq_ok_iff.1 made

private theorem read_joined (a b : String) :
    Reader.read (a ++ "&" ++ b) =
      (readClauses 0 a.toList).bind fun clauses =>
        (readClauses (0 + (a.utf8ByteSize + 1)) b.toList).map fun others =>
          ofClauses (clauses ++ others) := by
  have text : (a ++ "&" ++ b).toList = a.toList ++ '&' :: b.toList := by simp
  have some : a ++ "&" ++ b ≠ "" := by
    rw [← String.toList_inj.ne, text]
    simp
  rw [read_of_ne_empty some, text, readClauses_append, byteSize_toList, Nat.add_assoc]
  cases readClauses 0 a.toList with
  | error e => rfl
  | ok clauses => cases readClauses (0 + (a.utf8ByteSize + 1)) b.toList <;> rfl

/-- Texts that are not empty are read together as they are read alone. An error of the first stays
as it is. An error of the second after a first text without one has the same reason, at a place
further on by the bytes of the first text and the separator. Where neither has an error, what they
say is put together: the filter clauses of both, none of which is a conjunction itself, the
relations to include and the sort keys in order, and the page numbers of the second or else of the
first. -/
theorem read_append (a b : String) (ha : a ≠ "") (hb : b ≠ "") :
    (∀ e, Reader.read a = .error e →
        (∃ offset fault, e = .query offset fault) ∧ Reader.read (a ++ "&" ++ b) = .error e) ∧
      (∀ first e, Reader.read a = .ok first → Reader.read b = .error e →
        ∃ offset fault, e = .query offset fault ∧
          Reader.read (a ++ "&" ++ b) = .error (.query (offset + a.utf8ByteSize + 1) fault)) ∧
      ∀ first second, Reader.read a = .ok first → Reader.read b = .ok second →
        Reader.read (a ++ "&" ++ b) = .ok (first.append second) ∧
          ∀ part ∈ conjuncts first.filter ++ conjuncts second.filter, IsClause part := by
  have further := readClauses_moved (a.utf8ByteSize + 1) 0 b.toList
  refine ⟨fun e failed => ?_, fun first e made failed => ?_, fun first second made also => ?_⟩
  · have failed := readClauses_of_error ha failed
    have again := readClauses_moved 0 0 a.toList
    rw [failed] at again
    obtain ⟨offset, fault, shape, -⟩ := again.of_error
    refine ⟨⟨offset, fault, shape⟩, ?_⟩
    rw [read_joined, failed]
    rfl
  · obtain ⟨clauses, made, -⟩ := readClauses_of_ok ha made
    rw [readClauses_of_error hb failed] at further
    obtain ⟨offset, fault, shape, moved⟩ := further.of_error
    refine ⟨offset, fault, shape, ?_⟩
    rw [read_joined, made, moved]
    rfl
  · obtain ⟨clauses, said, rfl⟩ := readClauses_of_ok ha made
    obtain ⟨others, saidToo, rfl⟩ := readClauses_of_ok hb also
    have proper := isProper_of_readClauses said
    have properToo := isProper_of_readClauses saidToo
    rw [saidToo] at further
    constructor
    · rw [read_joined, said, further.of_ok, ← ofClauses_append proper properToo]
      rfl
    · rw [conjuncts_ofClauses proper, conjuncts_ofClauses properToo, List.forall_mem_append]
      exact ⟨isClause_of_isProper proper, isClause_of_isProper properToo⟩

/-- A query of one filter clause, a sort key and a page number. -/
def namesakes : Query :=
  ⟨some (.compare "name" .eq "Zoë"), [], ["age"], none, some 7⟩

private theorem namesakes_canonical : namesakes.Canonical := by
  constructor
  · rintro _ ⟨⟩
    exact .one (.one ⟨by decide, trivial, by decide⟩)
  · nofun
  · exact List.forall_mem_singleton.2 (.inl (by decide))
  · nofun
  · rintro _ ⟨⟩
    exact ⟨by decide, by decide⟩

/-- The query of staff and another one are read together, and a fault in what follows is found where
it stands. -/
theorem staff_and_namesakes :
    Reader.read (staff.write ++ "&" ++ namesakes.write) =
        .ok ⟨some (.group .and [.compare "name" .eq "2",
          .group .or [.compare "position" .ne "manager", .compare "position" .ne "supervisor"],
          .compareNull "age" (.unknown "between"), .compare "name" .eq "Zoë"]),
          ["author.name"], ["position", "-name", "age"], some 5, some 7⟩ ∧
      Reader.read (namesakes.write ++ "&" ++ "sort=é,,age") = .error (.query 53 .emptyValue) := by
  have staffRead := read_eq_ok_iff.2 (says_write staff_canonical)
  have namesakesRead := read_eq_ok_iff.2 (says_write namesakes_canonical)
  constructor
  · obtain ⟨-, -, together⟩ :=
      read_append staff.write namesakes.write (by decide +kernel) (by decide +kernel)
    exact (together staff namesakes staffRead namesakesRead).1
  · have fault : Reader.read "sort=é,,age" = .error (.query 8 .emptyValue) := by rfl
    obtain ⟨-, later, -⟩ :=
      read_append namesakes.write "sort=é,,age" (by decide +kernel) (by decide)
    obtain ⟨offset, _, ⟨⟩, found⟩ := later namesakes _ namesakesRead fault
    have bytes : namesakes.write.utf8ByteSize = 44 := by decide +kernel
    rw [bytes] at found
    exact found

end FilterQuery.Query
