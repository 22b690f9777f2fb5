import FilterQuery.Proofs.Memory.Expansion

set_option autoImplicit false
set_option relaxedAutoImplicit false

/-!
Documents held as text. A structured attribute holds its document as an object or as a text that
says the object. What a path finds under keys of the document does not depend on which of the two it
is, be it in the record itself or in a related one: only the text at the attribute is read, and what
was read is followed like what was there.
-/

namespace FilterQuery.Memory.Path

/-- A document as it is or, where it is an object, as a text that says it. -/
inductive Recorded : Json.Value → Json.Value → Prop
  | same (v : Json.Value) : Recorded v v
  | text {members : List (String × Json.Value)} {s : String} (read : Json.Reader.read s =
      some (.object members)) :
      Recorded (.object members) (.text s)

/-- Objects with the same members, except that those of one name may differ as `R` allows. -/
inductive Within (name : String) (R : Json.Value → Json.Value → Prop) :
    Json.Value → Json.Value → Prop
  | same (v : Json.Value) : Within name R v v
  | object {members others : List (String × Json.Value)}
      (pairs : List.Forall₂ (fun m n => n.1 = m.1 ∧
        (n.2 = m.2 ∨ m.1 = name ∧ R m.2 n.2)) members others) :
      Within name R (.object members) (.object others)

/-- A related record, or each record of a collection, beside one that may differ as `R` allows. -/
inductive Each (R : Json.Value → Json.Value → Prop) : Json.Value → Json.Value → Prop
  | same (v : Json.Value) : Each R v v
  | record {members others : List (String × Json.Value)}
      (alike : R (.object members) (.object others)) :
      Each R (.object members) (.object others)
  | list {items others : List Json.Value} (pairs : List.Forall₂ R items others) :
      Each R (.list items) (.list others)

/-- A record beside one in which some of the objects at an attribute are held as text. The attribute
is reached over relations, the first of them from the record. -/
def Reencoded (ending : String) : List String → Json.Value → Json.Value → Prop
  | [] => Within ending Recorded
  | name :: names => Within name (Each (Reencoded ending names))

def KeepsNull (R : Json.Value → Json.Value → Prop) : Prop :=
  ∀ v w, R v w → v.isNull = w.isNull

variable {R : Json.Value → Json.Value → Prop} {name ending : String} {v w : Json.Value}

private theorem keepsNull_recorded : KeepsNull Recorded := by
  rintro v w (_ | _) <;> rfl

private theorem keepsNull_each : KeepsNull (Each R) := by
  rintro v w (_ | _ | _) <;> rfl

private theorem keepsNull_reencoded (names : List String) : KeepsNull (Reencoded ending names) := by
  rintro v w alike
  cases names <;> cases alike <;> rfl

private theorem reencoded_self (names : List String) (v : Json.Value) :
    Reencoded ending names v v := by
  cases names <;> exact .same v

private theorem present_rel (keeps : KeepsNull R) (alike : R v w) :
    Option.Rel R (present v) (present w) := by
  unfold present
  rw [keeps v w alike]
  cases w.isNull
  · exact .some alike
  · exact .none

private theorem member?_rel (self : ∀ v, R v v) {members others : List (String × Json.Value)}
    (pairs : List.Forall₂ (fun m n => n.1 = m.1 ∧
      (n.2 = m.2 ∨ m.1 = name ∧ R m.2 n.2)) members others) :
    Option.Rel R ((Json.Value.object members).member? name)
      ((Json.Value.object others).member? name) := by
  unfold Json.Value.member?
  induction pairs with
  | nil => exact .none
  | @cons m n members others first rest ih =>
    obtain ⟨named, alike⟩ := first
    by_cases here : m.1 = name
    · have found : R m.2 n.2 := by
        rcases alike with same | ⟨-, alike⟩
        · rw [same]
          exact self m.2
        · exact alike
      simpa [here, named] using Option.Rel.some found
    · simpa [here, named] using ih

private theorem partOf_rel (keeps : KeepsNull R) (self : ∀ v, R v v) (alike : Within name R v w) :
    Option.Rel R (partOf v name) (partOf w name) := by
  have bound : ∀ {x y : Option Json.Value}, Option.Rel R x y →
      Option.Rel R (x.bind present) (y.bind present)
    | _, _, .none => .none
    | _, _, .some alike => present_rel keeps alike
  refine bound ?_
  cases alike with
  | same =>
    cases v.member? name with
    | none => exact .none
    | some found => exact .some (self found)
  | object pairs => exact member?_rel self pairs

private theorem related_rel (keeps : KeepsNull R) (self : ∀ v, R v v)
    (alike : Within name (Each R) v w) :
    List.Forall₂ (Option.Rel R) (related v name) (related w name) := by
  have unchanged : ∀ found : Option Json.Value, Option.Rel R found found
    | none => .none
    | some v => .some (self v)
  have parts := partOf_rel keepsNull_each .same alike
  unfold related
  generalize partOf v name = x, partOf w name = y at parts
  cases parts with
  | none => exact .cons .none .nil
  | some found =>
    cases found with
    | same => exact List.forall₂_same.2 fun found _ => unchanged found
    | record alike => exact .cons (.some alike) .nil
    | list pairs =>
      cases pairs with
      | nil => exact .cons .none .nil
      | cons first rest =>
        refine List.forall₂_map_left_iff.2 (List.forall₂_map_right_iff.2 ?_)
        exact (List.Forall₂.cons first rest).imp fun _ _ => present_rel keeps

/-- A key leads to the same, whether it finds an object or a text that says it. -/
theorem expand_recorded {path key : String} {steps : List Step} (alike : Recorded v w) :
    expand path (.key key true :: steps) (some v) =
      expand path (.key key true :: steps) (some w) := by
  cases alike with
  | same => rfl
  | @text members s read =>
    have opens : opened path true (.text s) = .ok (.object members) := by
      rw [opened, if_pos rfl, decoded, read]
    rw [expand, expand, opens]
    rfl

private theorem expand_reencoded {path key : String} {steps : List Step} {names : List String}
    (alike : Reencoded ending names v w) :
    expand path (names.map .relation ++ .field ending :: .key key true :: steps) (some v) =
      expand path (names.map .relation ++ .field ending :: .key key true :: steps) (some w) := by
  induction names generalizing v w with
  | nil =>
    rw [List.map_nil, List.nil_append, expand, expand]
    have parts := partOf_rel keepsNull_recorded .same alike
    generalize partOf v ending = x, partOf w ending = y at parts
    cases parts with
    | none => rfl
    | some alike => exact expand_recorded alike
  | cons name names ih =>
    rw [List.map_cons, List.cons_append, expand_cons, expand_cons, reach_relation, reach_relation]
    refine spread_congr ((related_rel (keepsNull_reencoded names) (reencoded_self names) alike).imp
      ?_)
    rintro _ _ (alike | _)
    · exact ih alike
    · rfl

/-- Keys lead to the same values, whichever of the documents on the way are held as text, and so
every test and every sort key of their path finds both records alike. -/
theorem values_reencoded {schema : Schema} {registry : Registry} {root : Entity} {path : String}
    {a : Accessor} (resolved : resolve schema registry root path = .ok (some a)) {key : String}
    (keyed : .key key true ∈ a.steps) (held : .field ending ∈ a.steps)
    (alike : Reencoded ending a.relations v w) :
    a.values v = a.values w ∧
      (∀ test coerce, (Node.test a test).holds coerce v = (Node.test a test).holds coerce w) ∧
      ∀ k : Order.SortKey, k.accessor = a → k.keyOf v = k.keyOf w := by
  obtain ⟨-, names, last, keys, steps⟩ := walk_steps resolved
  rw [List.nil_append] at steps
  obtain ⟨first, others, rfl⟩ : ∃ first others, keys = first :: others := by
    refine List.exists_cons_of_ne_nil ?_
    rintro rfl
    simp [steps, Route.keySteps] at keyed
  obtain rfl : ending = last := by
    simpa [steps, Route.keySteps] using held
  rw [Accessor.relations_eq steps] at alike
  have values : a.values v = a.values w := by
    rw [a.values_eq_expand, a.values_eq_expand, steps]
    exact expand_reencoded alike
  refine ⟨values, fun test coerce => ?_, ?_⟩
  · rw [Node.holds, Node.holds, holdsAt, holdsAt, values]
  · rintro k rfl
    rw [Order.SortKey.keyOf, Order.SortKey.keyOf, values]

namespace Notes

/-- What a note is about if it is about a place of that name. -/
def place (name : String) : Json.Value :=
  .object [("place", .object [("name", .text name)])]

/-- A place that is held as a text within the document. -/
def nested : Json.Value :=
  .object [("place", .text "\x7b\"name\":\"Bonn\"\x7d")]

/-- A letter with notes, between them no note, that hold their documents in the given form. -/
def letterAbout (rome bonn oslo : Json.Value) : Json.Value :=
  .object [("id", .integer 7), ("notes", .list [.object [("about", rome)], .null,
    .object [("about", bonn), ("id", .integer 1)], .object [("about", oslo)]])]

private theorem reencoded : Reencoded "about" ["notes"]
    (letterAbout (place "Rome") nested (place "Oslo"))
    (letterAbout (.text (Json.Writer.compact (place "Rome"))) (.text (Json.Writer.compact nested))
      (place "Oslo")) := by
  have rome : Recorded (place "Rome") (.text (Json.Writer.compact (place "Rome"))) := .text (by rfl)
  have bonn : Recorded nested (.text (Json.Writer.compact nested)) := .text (by rfl)
  refine .object (.cons ⟨rfl, .inl rfl⟩ (.cons ⟨rfl, .inr ⟨rfl, .list ?_⟩⟩ .nil))
  exact .cons (.object (.cons ⟨rfl, .inr ⟨rfl, rome⟩⟩ .nil)) (.cons (.same _)
    (.cons (.object (.cons ⟨rfl, .inr ⟨rfl, bonn⟩⟩ (.cons ⟨rfl, .inl rfl⟩ .nil)))
      (.cons (.same _) .nil)))

end Notes

/-- Two of three documents held as text lead to the names that they lead to as objects; the text
within one of them is not read. -/
theorem notes_reencoded :
    let objects := Notes.letterAbout (Notes.place "Rome") Notes.nested (Notes.place "Oslo")
    let texts := Notes.letterAbout (.text (Json.Writer.compact (Notes.place "Rome")))
      (.text (Json.Writer.compact Notes.nested)) (Notes.place "Oslo")
    Step.key "place" true ∈ Notes.accessor.steps ∧ Step.field "about" ∈ Notes.accessor.steps ∧
      Reencoded "about" Notes.accessor.relations objects texts ∧
      Notes.accessor.values objects = Notes.accessor.values texts ∧
      Notes.accessor.values texts = .ok [some (.text "Rome"), none, none, some (.text "Oslo")] := by
  have keyed : Step.key "place" true ∈ Notes.accessor.steps := by decide
  have held : Step.field "about" ∈ Notes.accessor.steps := by decide
  obtain ⟨values, -, -⟩ := values_reencoded Notes.resolve_eq keyed held Notes.reencoded
  exact ⟨keyed, held, Notes.reencoded, values, values.symm.trans (by rfl)⟩

end FilterQuery.Memory.Path
