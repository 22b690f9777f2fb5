import FilterQuery.Proofs.Document.Reading

set_option autoImplicit false
set_option relaxedAutoImplicit false

/-!
What filter documents mean. Whether a document is well formed, and whether it holds, is said of the
document itself. Just the well-formed ones are read as filters, and the filter has the value of the
document whatever holds of its comparisons.
-/

namespace FilterQuery.Document

open FilterQuery.Filter (Comparison Connective Formula Operator)

def isScalar : Json.Value → Bool
  | .list _ => false
  | .object _ => false
  | _ => true

def scalarText? : Json.Value → Option String
  | .null => none
  | .text s => some s
  | scalar => some (Json.Writer.compact scalar)

/-- What an operator asks of a field. -/
inductive Question
  | compares (operator : Operator)
  | someEqual
  | allDiffer
  | hasValue

def question? : String → Option Question
  | "$eq" => some (.compares .eq)
  | "$ne" => some (.compares .ne)
  | "$lt" => some (.compares .lt)
  | "$lte" => some (.compares .le)
  | "$gt" => some (.compares .gt)
  | "$gte" => some (.compares .ge)
  | "$like" => some (.compares .like)
  | "$ilike" => some (.compares .ilike)
  | "$in" => some .someEqual
  | "$nin" => some .allDiffer
  | "$exists" => some .hasValue
  | _ => none

def Question.Takes : Question → Json.Value → Prop
  | .compares _, argument => isScalar argument = true
  | .someEqual, .list items => ∀ item ∈ items, isScalar item = true
  | .allDiffer, .list items => ∀ item ∈ items, isScalar item = true
  | .hasValue, .boolean _ => True
  | _, _ => False

def IsOperation (operation : String × Json.Value) : Prop :=
  ∃ question, question? operation.1 = some question ∧ question.Takes operation.2

def IsCondition : Json.Value → Prop
  | .object operations => operations ≠ [] ∧ ∀ operation ∈ operations, IsOperation operation
  | value => isScalar value = true

mutual

/-- An object each member of which is well formed. -/
inductive IsDocument : Json.Value → Prop
  | object {members : List (String × Json.Value)} (each : ∀ member ∈ members, IsMember member) :
      IsDocument (.object members)

/-- A list of documents under a name for groups, or a condition on a field. -/
inductive IsMember : String × Json.Value → Prop
  | group {name : String} {connective : Connective} {documents : List Json.Value}
      (named : connective? name = some connective)
    (each : ∀ document ∈ documents, IsDocument document) : IsMember (name, .list documents)
  | field {name : String} {value : Json.Value} (plain : name.toList.head? ≠ some '$')
      (condition : IsCondition value) :
    IsMember (name, value)

end

private theorem isReserved_iff (name : String) :
    isReserved name = true ↔ name.toList.head? = some '$' := by
  rw [isReserved, beq_iff_eq]

private theorem isReserved_of_connective? {name : String} {connective : Connective}
    (named : connective? name = some connective) :
    isReserved name = true := by
  unfold connective? at named
  split at named
  · decide +kernel
  · decide +kernel
  · cases named

private theorem IsMember.of_connective? {name : String} {connective : Connective}
    {value : Json.Value} (named : connective? name = some connective)
    (proper : IsMember (name, value)) :
    ∃ documents, value = .list documents ∧ ∀ document ∈ documents, IsDocument document := by
  cases proper with
  | group _ each => exact ⟨_, rfl, each⟩
  | field plain _ => exact absurd ((isReserved_iff name).1 (isReserved_of_connective? named)) plain

private theorem isMember_field_iff {name : String} (unnamed : connective? name = none)
    (value : Json.Value) :
    IsMember (name, value) ↔ name.toList.head? ≠ some '$' ∧ IsCondition value := by
  constructor
  · intro proper
    cases proper with
    | group named _ => rw [unnamed] at named; cases named
    | field plain condition => exact ⟨plain, condition⟩
  · exact fun ⟨plain, condition⟩ => .field plain condition

/-- The answer to a question about a field. -/
def Question.holds (truth : Comparison → Bool) (path : String) : Question → Json.Value → Bool
  | .compares operator, argument => truth ⟨path, operator, scalarText? argument⟩
  | .someEqual, .list items => items.any fun item => truth ⟨path, .eq, scalarText? item⟩
  | .allDiffer, .list items => items.all fun item => truth ⟨path, .ne, scalarText? item⟩
  | .hasValue, .boolean true => truth ⟨path, .ne, none⟩
  | .hasValue, .boolean false => truth ⟨path, .eq, none⟩
  | _, _ => true

def operationHolds (truth : Comparison → Bool) (path : String) (operation : String × Json.Value) :
    Bool :=
  (question? operation.1).all (·.holds truth path operation.2)

/-- Whether a field meets a condition: it equals a scalar, or all operators of an object hold. -/
def conditionHolds (truth : Comparison → Bool) (path : String) : Json.Value → Bool
  | .object operations => operations.all (operationHolds truth path)
  | value => truth ⟨path, .eq, scalarText? value⟩

mutual

/-- Whether all members of a document hold. -/
def holds (truth : Comparison → Bool) : Json.Value → Bool
  | .object members => allMembersHold truth members
  | _ => true

def allMembersHold (truth : Comparison → Bool) : List (String × Json.Value) → Bool
  | [] => true
  | (name, value) :: members => memberHolds truth name value && allMembersHold truth members

/-- Whether all documents of a list hold, or some, or whether a field meets its condition. -/
def memberHolds (truth : Comparison → Bool) (name : String) : Json.Value → Bool
  | .list documents =>
    match connective? name with
    | some .and => allHold truth documents
    | some .or => someHold truth documents
    | none => conditionHolds truth name (.list documents)
  | value => conditionHolds truth name value

def allHold (truth : Comparison → Bool) : List Json.Value → Bool
  | [] => true
  | document :: documents => holds truth document && allHold truth documents

def someHold (truth : Comparison → Bool) : List Json.Value → Bool
  | [] => false
  | document :: documents => holds truth document || someHold truth documents

end

section Holds

variable {truth : Comparison → Bool}

private theorem allHold_eq (documents : List Json.Value) :
    allHold truth documents = documents.all (holds truth) := by
  induction documents with
  | nil => rw [allHold]; rfl
  | cons document documents ih => rw [allHold, ih, List.all_cons]

private theorem someHold_eq (documents : List Json.Value) :
    someHold truth documents = documents.any (holds truth) := by
  induction documents with
  | nil => rw [someHold]; rfl
  | cons document documents ih => rw [someHold, ih, List.any_cons]

private theorem holds_object (members : List (String × Json.Value)) :
    holds truth (.object members) = members.all fun member =>
      memberHolds truth member.1 member.2 := by
  rw [holds]
  induction members with
  | nil => rw [allMembersHold]; rfl
  | cons member members ih => rw [allMembersHold, ih, List.all_cons]

private theorem memberHolds_group {name : String} {connective : Connective}
    (named : connective? name = some connective) (documents : List Json.Value) :
    memberHolds truth name (.list documents) = connective.overall documents (holds truth) := by
  rw [memberHolds, named]
  cases connective with
  | and => exact allHold_eq documents
  | or => exact someHold_eq documents

private theorem memberHolds_field {name : String} (unnamed : connective? name = none)
    (value : Json.Value) :
    memberHolds truth name value = conditionHolds truth name value := by
  cases value with
  | list documents => rw [memberHolds, unnamed]
  | _ => rw [memberHolds]; nofun

end Holds

/-- Something is read just where it is proper, as a composed filter that has the value that is
meant. -/
structure Faithful (made : Except Error Formula) (proper : Prop)
    (meaning : (Comparison → Bool) → Bool) : Prop where
  succeeds : (∃ filter, made = .ok filter) ↔ proper
  composed : ∀ filter, made = .ok filter → Composed filter
  value : ∀ filter, made = .ok filter → ∀ truth, filter.value truth = meaning truth

section Faithful

variable {proper : Prop} {meaning : (Comparison → Bool) → Bool}

theorem Faithful.atom {test : Comparison} (right : proper) (known : test.operator.isKnown = true)
    (same : ∀ truth, truth test = meaning truth) : Faithful (.ok (.atom test)) proper meaning := by
  refine ⟨⟨fun _ => right, fun _ => ⟨_, rfl⟩⟩, ?_, ?_⟩
  · rintro _ ⟨⟩
    exact .atom known
  · rintro _ ⟨⟩ truth
    exact (Formula.value_atom test).trans (same truth)

theorem Faithful.error {e : Error} (wrong : ¬proper) : Faithful (.error e) proper meaning :=
  ⟨⟨nofun, fun right => absurd right wrong⟩, nofun, nofun⟩

/-- All or some of what is read for each item hold if all or some of the items do. -/
theorem Faithful.join {α : Type} {f : α → Except Error Formula} {properItem : α → Prop}
    {itemMeaning : α → (Comparison → Bool) → Bool} (connective : Connective) {items : List α}
    (each : ∀ item ∈ items, Faithful (f item) (properItem item) (itemMeaning item))
    (same : proper ↔ ∀ item ∈ items, properItem item)
    (overall : ∀ truth, meaning truth = connective.overall items (itemMeaning · truth)) :
    Faithful (Formula.join connective <$> items.mapM f) proper meaning := by
  constructor
  · rw [same]
    constructor
    · rintro ⟨filter, made⟩ item member
      obtain ⟨parts, made, -⟩ := map_eq_ok_iff.1 made
      exact (each item member).succeeds.1 (exists_of_mapM_ok made item member)
    · intro right
      obtain ⟨parts, made⟩ :=
        exists_mapM_ok fun item member => (each item member).succeeds.2 (right item member)
      exact ⟨_, map_eq_ok_iff.2 ⟨parts, made, rfl⟩⟩
  · intro filter made
    obtain ⟨parts, found, rfl⟩ := map_eq_ok_iff.1 made
    refine .join connective fun part member => ?_
    obtain ⟨item, inside, read⟩ := exists_left_of_forall₂ (mapM_eq_ok_iff.1 found) part member
    exact (each item inside).composed part read
  · intro filter made truth
    obtain ⟨parts, found, rfl⟩ := map_eq_ok_iff.1 made
    have pairs :=
      forall₂_of_mapM (R := fun item part => itemMeaning item truth = part.value truth) found
        fun item member part read => ((each item member).value part read truth).symm
    rw [Formula.value_join, overall, connective.overall_congr pairs]

end Faithful

private theorem faithful_compareWith {operator : Operator} (known : operator.isKnown = true)
    (path : String) (value : Json.Value) :
    Faithful (compareWith path operator value) (isScalar value = true)
      fun truth => truth ⟨path, operator, scalarText? value⟩ := by
  cases value with
  | list items => exact .error Bool.false_ne_true
  | object members => exact .error Bool.false_ne_true
  | _ => exact .atom rfl known fun _ => rfl

private theorem faithful_comparisons {operator : Operator} (known : operator.isKnown = true)
    (path : String) (connective : Connective) (items : List Json.Value) :
    Faithful (Formula.join connective <$> items.mapM (compareWith path operator))
      (∀ item ∈ items, isScalar item = true)
      fun truth => connective.overall items fun item => truth ⟨path, operator, scalarText? item⟩ :=
  .join connective (fun item _ => faithful_compareWith known path item) Iff.rfl fun _ => rfl

private theorem ofOperator_of_unknown {name : String} (unknown : question? name = none)
    (path : String) (argument : Json.Value) :
    ofOperator path name argument = .error (.unsupportedOperator name) := by
  unfold question? at unknown
  split at unknown <;> try cases unknown
  unfold ofOperator comparison?
  simp [*]

private theorem faithful_ofOperator (path name : String) (argument : Json.Value) :
    Faithful (ofOperator path name argument) (IsOperation (name, argument))
      (operationHolds · path (name, argument)) := by
  unfold IsOperation operationHolds
  cases known : question? name with
  | none =>
    rw [ofOperator_of_unknown known]
    exact .error (by simp)
  | some question =>
    simp only [Option.some.injEq, exists_eq_left', Option.all_some]
    unfold question? at known
    split at known <;> cases known
    case h_9 =>
      cases argument with
      | list items => exact faithful_comparisons rfl path .or items
      | _ => exact .error id
    case h_10 =>
      cases argument with
      | list items => exact faithful_comparisons rfl path .and items
      | _ => exact .error id
    case h_11 =>
      cases argument with
      | boolean present => cases present <;> exact .atom trivial rfl fun _ => rfl
      | _ => exact .error id
    all_goals exact faithful_compareWith rfl path argument

private theorem faithful_ofField (path : String) (value : Json.Value) :
    Faithful (ofField path value) (IsCondition value) (conditionHolds · path value) := by
  cases value with
  | object operations =>
    by_cases some : operations = []
    · subst some
      exact .error fun right => right.1 rfl
    · rw [ofField_object some]
      refine .join .and (fun operation _ => faithful_ofOperator path operation.1 operation.2)
        ?_ fun _ => rfl
      exact ⟨And.right, fun each => ⟨some, each⟩⟩
  | _ => exact faithful_compareWith rfl path _

/-- A member is read as it holds if the documents that it lists are. -/
theorem faithful_ofMember (name : String) (value : Json.Value)
    (inside : ∀ documents, value = .list documents → ∀ document ∈ documents,
      Faithful (ofDocument document) (IsDocument document) (holds · document)) :
    Faithful (ofMember (name, value)) (IsMember (name, value)) (memberHolds · name value) := by
  cases named : connective? name with
  | some connective =>
    have listed : IsMember (name, value) → _ := IsMember.of_connective? named
    cases value with
    | list documents =>
      rw [ofMember_group named]
      refine .join connective (inside documents rfl) ?_ fun _ => memberHolds_group named documents
      refine ⟨fun proper => ?_, .group named⟩
      obtain ⟨_, ⟨⟩, each⟩ := listed proper
      exact each
    | _ =>
      rw [ofMember, named]
      exact .error fun proper => by obtain ⟨_, ⟨⟩, _⟩ := listed proper
  | none =>
    simp only [ofMember_field named, isMember_field_iff named, memberHolds_field named]
    by_cases reserved : isReserved name = true
    · rw [if_pos reserved]
      exact .error fun proper => proper.1 ((isReserved_iff name).1 reserved)
    · have plain : name.toList.head? ≠ some '$' := mt (isReserved_iff name).2 reserved
      rw [if_neg reserved, and_iff_right plain]
      exact faithful_ofField name value

private theorem faithful_ofDocument (document : Json.Value) :
    Faithful (ofDocument document) (IsDocument document) (holds · document) := by
  induction document using document_induction with
  | object members ih =>
    have each : ∀ member ∈ members,
        Faithful (ofMember member) (IsMember member) (memberHolds · member.1 member.2) := by
      intro member inside
      exact faithful_ofMember member.1 member.2 fun documents list =>
        ih member.1 documents (list ▸ inside)
    rw [ofDocument_object]
    refine .join .and each ?_ fun _ => holds_object members
    exact ⟨by rintro ⟨proper⟩; exact proper, .object⟩
  | other value other =>
    rw [ofDocument, toFilter_of_not_object other]
    refine .error ?_
    rintro ⟨each⟩
    exact other _ rfl

theorem composed_of_toFilter {document : Json.Value} {filter : Formula}
    (made : toFilter document = .ok (some filter)) :
    Composed filter :=
  (faithful_ofDocument document).composed filter (map_eq_ok_iff.2 ⟨some filter, made, rfl⟩)

/-- Just the well-formed documents are read, and the filter of a document has the value of the
document, whatever holds of the comparisons. A document that says no filter holds always. -/
theorem toFilter_faithful (document : Json.Value) :
    ((∃ filter, toFilter document = .ok filter) ↔ IsDocument document) ∧
      ∀ filter, toFilter document = .ok filter →
        ∀ truth, filter.all (·.value truth) = holds truth document := by
  obtain ⟨succeeds, -, value⟩ := faithful_ofDocument document
  constructor
  · rw [← succeeds]
    unfold ofDocument
    constructor
    · rintro ⟨filter, made⟩
      exact ⟨_, map_eq_ok_iff.2 ⟨filter, made, rfl⟩⟩
    · rintro ⟨_, found⟩
      obtain ⟨filter, made, -⟩ := map_eq_ok_iff.1 found
      exact ⟨filter, made⟩
  · intro filter made truth
    rw [← value _ (map_eq_ok_iff.2 ⟨filter, made, rfl⟩) truth]
    cases filter with
    | none => exact (Formula.value_and []).symm
    | some filter => rfl

/-- The pages with an author: those with one of two titles, those with few views, and those of which
no more is asked. -/
def quietPages : Json.Value :=
  .object [
    ("$or", .list [.object [("title", .object [("$in", .list [.text "Home", .null])])],
      .object [("views", .object [("$gte", .integer 2), ("$lt", .integer 9)])],
        .object [("$and", .list [])]]),
    ("author", .object [("$exists", .boolean true)])]

/-- The pages are read as they hold, and an object without operators is refused. -/
theorem quietPages_faithful :
    toFilter quietPages = .ok (some (.group .and [
        .group .or [.group .or [.compare "title" .eq "Home", .compareNull "title" .eq],
          .group .and [.compare "views" .ge "2", .compare "views" .lt "9"], .group .and []],
        .compareNull "author" .ne])) ∧
      IsDocument quietPages ∧
      (∀ truth, holds truth quietPages = truth ⟨"author", .ne, none⟩) ∧
      ¬IsDocument (.object [("title", .object [])]) := by
  have made : toFilter quietPages = .ok (some (.group .and [
      .group .or [.group .or [.compare "title" .eq "Home", .compareNull "title" .eq],
        .group .and [.compare "views" .ge "2", .compare "views" .lt "9"], .group .and []],
      .compareNull "author" .ne])) := by rfl
  obtain ⟨proper, value⟩ := toFilter_faithful quietPages
  refine ⟨made, proper.1 ⟨_, made⟩, fun truth => ?_, fun wrong => ?_⟩
  · rw [← value _ made truth]
    simp [Formula.compareNull, Formula.compare]
  · obtain ⟨filter, read⟩ := (toFilter_faithful _).1.2 wrong
    cases read

end FilterQuery.Document
