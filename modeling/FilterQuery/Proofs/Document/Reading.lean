import FilterQuery.Document
import FilterQuery.Proofs.Filter.Truth
import FilterQuery.Proofs.Steps

set_option autoImplicit false
set_option relaxedAutoImplicit false

/-!
How a filter document is read, member by member: the filter of a document joins the filters of its
members, whether there are none, one or several.
-/

namespace FilterQuery

theorem Json.Value.induction {motive : Json.Value → Prop} (null : motive .null)
    (boolean : ∀ b, motive (.boolean b)) (integer : ∀ n, motive (.integer n))
    (real : ∀ x, motive (.real x)) (text : ∀ s, motive (.text s))
    (list : ∀ items, (∀ item ∈ items, motive item) → motive (.list items))
    (object : ∀ members, (∀ name value, (name, value) ∈ members → motive value) →
      motive (.object members)) (value : Json.Value) : motive value := by
  refine @Json.Value.rec motive (fun items => ∀ item ∈ items, motive item)
    (fun members => ∀ name value, (name, value) ∈ members →
      motive value) (fun member => motive member.2)
    null boolean integer real text list object nofun ?_ nofun ?_ (fun _ _ inside => inside) value
  · intro first others hfirst hothers
    exact List.forall_mem_cons.2 ⟨hfirst, hothers⟩
  · intro first others hfirst hothers name value member
    rcases List.mem_cons.1 member with rfl | member
    · exact hfirst
    · exact hothers name value member

end FilterQuery

namespace FilterQuery.Document

open FilterQuery.Filter (Comparison Connective Formula Operator)

/-- What holds of a document once it holds of all documents in the lists among its members, and of
all that is no object, holds of everything. -/
theorem document_induction {motive : Json.Value → Prop}
    (object : ∀ members, (∀ name documents, (name, .list documents) ∈ members →
      ∀ document ∈ documents, motive document) →
      motive (.object members))
    (other : ∀ value, (∀ members, value ≠ .object members) → motive value) (value : Json.Value) :
    motive value := by
  -- A list is no document, so what is known of its items has to be carried beside the motive.
  have both : motive value ∧ ∀ items, value = .list items → ∀ item ∈ items, motive item := by
    induction value using Json.Value.induction with
    | list items ih =>
      refine ⟨other _ nofun, ?_⟩
      rintro _ ⟨⟩ item member
      exact (ih item member).1
    | object members ih =>
      refine ⟨object members fun name documents member => ?_, nofun⟩
      exact (ih name _ member).2 documents rfl
    | _ => exact ⟨other _ nofun, nofun⟩
  exact both.1

/-- How the documents of a list are combined that stands under a name kept for groups. -/
def connective? : String → Option Connective
  | "$and" => some .and
  | "$or" => some .or
  | _ => none

def ofDocument (document : Json.Value) : Except Error Formula :=
  (fun filter => filter.getD (.join .and [])) <$> toFilter document

def ofMember (member : String × Json.Value) : Except Error Formula :=
  match connective? member.1, member.2 with
  | some connective, .list documents => Formula.join connective <$> documents.mapM ofDocument
  | some _, _ => refuse (.groupNotAnArray member.1)
  | none, value =>
    if isReserved member.1 then .error (.unsupportedOperator member.1) else ofField member.1 value

private theorem toFilters_eq (documents : List Json.Value) :
    toFilters documents = documents.mapM ofDocument := by
  induction documents with
  | nil => rw [toFilters]; rfl
  | cons document documents ih =>
    rw [toFilters, List.mapM_cons, ofDocument, ih]
    cases toFilter document <;> rfl

private theorem connective?_eq_none {name : String} (noAnd : name ≠ "$and") (noOr : name ≠ "$or") :
    connective? name = none := by
  unfold connective?
  split
  · contradiction
  · contradiction
  · rfl

theorem ofMember_group {name : String} {connective : Connective}
    (named : connective? name = some connective) (documents : List Json.Value) :
    ofMember (name, .list documents) = Formula.join connective <$> documents.mapM ofDocument := by
  rw [ofMember, named]

theorem ofMember_field {name : String} (unnamed : connective? name = none) (value : Json.Value) :
    ofMember (name, value) = if isReserved name then .error (.unsupportedOperator name)
      else ofField name value := by
  rw [ofMember, unnamed]

private theorem ofMembers_cons (name : String) (value : Json.Value)
    (members : List (String × Json.Value)) :
    ofMembers ((name, value) :: members) =
      do return (← ofMember (name, value)) :: (← ofMembers members) := by
  by_cases all : name = "$and"
  · subst all
    cases value with
    | list documents =>
      rw [ofMembers, if_pos rfl, toFilters_eq, ofMember_group rfl]
      cases documents.mapM ofDocument <;> rfl
    | _ => rfl
  by_cases any : name = "$or"
  · subst any
    cases value with
    | list documents =>
      rw [ofMembers, if_neg (by decide), if_pos rfl, toFilters_eq, ofMember_group rfl]
      cases documents.mapM ofDocument <;> rfl
    | _ => rfl
  rw [ofMember_field (connective?_eq_none all any)]
  cases reserved : isReserved name <;> cases value with
  | list documents =>
    rw [ofMembers, if_neg all, if_neg any, reserved]
    rfl
  | _ =>
    rw [ofMembers, if_neg all, if_neg any, reserved]
    · rfl
    · nofun

private theorem ofMembers_eq (members : List (String × Json.Value)) :
    ofMembers members = members.mapM ofMember := by
  induction members with
  | nil => rw [ofMembers]; rfl
  | cons member members ih =>
    obtain ⟨name, value⟩ := member
    rw [ofMembers_cons, List.mapM_cons, ih]

private theorem toFilter_object (members : List (String × Json.Value)) :
    toFilter (.object members) = Formula.conjunction? <$> members.mapM ofMember := by
  rw [toFilter, ofMembers_eq]
  rfl

theorem ofDocument_object (members : List (String × Json.Value)) :
    ofDocument (.object members) = Formula.join .and <$> members.mapM ofMember := by
  have same : ∀ parts, (Formula.conjunction? parts).getD (.join .and []) =
      Formula.join .and parts := by
    intro parts
    cases parts <;> rfl
  rw [ofDocument, toFilter_object]
  simp only [Functor.map_map, same]

theorem toFilter_of_not_object {value : Json.Value} (other : ∀ members, value ≠ .object members) :
    toFilter value = refuse .notAnObject := by
  rw [toFilter]
  exact other

theorem ofField_object {path : String} {operations : List (String × Json.Value)}
    (some : operations ≠ []) :
    ofField path (.object operations) =
      Formula.join .and <$> operations.mapM fun operation =>
        ofOperator path operation.1 operation.2 := by
  rw [ofField]
  · rfl
  · exact some

/-- Filters made of comparisons with known operators by joining. -/
inductive Composed : Formula → Prop
  | atom {test : Comparison} (known : test.operator.isKnown = true) : Composed (.atom test)
  | join (connective : Connective) {parts : List Formula} (each : ∀ part ∈ parts, Composed part) :
    Composed (.join connective parts)

end FilterQuery.Document
