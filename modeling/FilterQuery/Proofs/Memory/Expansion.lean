import FilterQuery.Proofs.Path.Resolution

set_option autoImplicit false
set_option relaxedAutoImplicit false

/-!
The values of a path as the rows of a left join. All values reached so far take each step together;
the same values, in the same order, come out where each of them goes all the way before the next one
starts.
-/

namespace FilterQuery.Memory

open FilterQuery.Memory.Path (partOf present)

def related (v : Json.Value) (name : String) : List (Option Json.Value) :=
  match partOf v name with
  | some (.list []) => [none]
  | some (.list items) => items.map present
  | found => [found]

private theorem related_ne_nil (v : Json.Value) (name : String) : related v name ≠ [] := by
  unfold related
  split
  · simp
  · rename_i filled _
    simpa using filled
  · simp

end FilterQuery.Memory

namespace FilterQuery.Memory.Path

def opened (path : String) (decode : Bool) (v : Json.Value) : Except Error Json.Value :=
  if decode then decoded path v else .ok v

/-- What a record expands to along some steps. A relation leads to the elements of a list one after
another, to one null where the list is empty, and to anything else as it is; nothing leads on from
null. -/
def expand (path : String) : List Step → Option Json.Value → Except Error (List (Option Json.Value))
  | [], v => .ok [v]
  | _ :: _, none => .ok [none]
  | .relation name :: steps, some v =>
    match partOf v name with
    | some (.list []) => .ok [none]
    | some (.list items) => spread (fun item => expand path steps (present item)) items
    | found => expand path steps found
  | .field name :: steps, some v => expand path steps (partOf v name)
  | .key name decode :: steps, some v =>
    (opened path decode v).bind fun document => expand path steps (partOf document name)

def Step.reach (path : String) (step : Step) :
    Option Json.Value → Except Error (List (Option Json.Value))
  | none => .ok [none]
  | some v => step.follow path v

theorem reach_relation (path name : String) (v : Json.Value) :
    (Step.relation name).reach path (some v) = .ok (related v name) := by
  simp only [Step.reach, Step.follow, related]
  cases partOf v name with
  | none => rfl
  | some found =>
    cases found with
    | list items => cases items <;> rfl
    | _ => rfl

private theorem reach_key (path name : String) (decode : Bool) (v : Json.Value) :
    (Step.key name decode).reach path (some v) = (opened path decode v).map fun document =>
      [partOf document name] := by
  cases decode with
  | false => rfl
  | true =>
    simp only [Step.reach, Step.follow, opened, if_true]
    cases decoded path v <;> rfl

private theorem advance_eq_spread (path : String) (reached : List (Option Json.Value))
    (step : Step) :
    advance path reached step = spread (step.reach path) reached := by
  have same : advance path reached step = (reached.mapM (step.reach path)).bind fun next =>
      .ok next.flatten := by
    unfold advance
    congr 2
  rw [same, spread]
  cases reached.mapM (step.reach path) <;> rfl

@[simp] theorem expand_none (path : String) (steps : List Step) :
    expand path steps none = .ok [none] := by
  cases steps <;> rfl

theorem expand_cons (path : String) (step : Step) (steps : List Step) (v : Option Json.Value) :
    expand path (step :: steps) v = (step.reach path v).bind (spread (expand path steps)) := by
  cases v with
  | none => simp [Step.reach, expand, Except.bind]
  | some v =>
    cases step with
    | relation name =>
      rw [reach_relation, expand, related, Except.bind]
      split
      · rw [spread_singleton, expand_none]
      · exact (spread_map _ present _).symm
      · exact (spread_singleton _ _).symm
    | field name => exact (spread_singleton _ _).symm
    | key name decode =>
      rw [reach_key, expand]
      cases opened path decode v with
      | error e => rfl
      | ok document => exact (spread_singleton _ _).symm

private theorem opened_error {path : String} {decode : Bool} {v : Json.Value} {e : Error}
    (failed : opened path decode v = .error e) : e = .undecodable path := by
  unfold opened decoded at failed
  split at failed
  · split at failed
    · split at failed
      · cases failed
      · exact (Except.error.inj failed).symm
    · cases failed
  · cases failed

private theorem Step.reach_error {path : String} {step : Step} {v : Option Json.Value} {e : Error}
    (failed : step.reach path v = .error e) : e = .undecodable path := by
  cases v with
  | none => cases failed
  | some v =>
    cases step with
    | relation name =>
      rw [reach_relation] at failed
      cases failed
    | field name => cases failed
    | key name decode =>
      rw [reach_key] at failed
      exact opened_error (map_eq_error_iff.1 failed)

private theorem expand_error {path : String} {steps : List Step} {v : Option Json.Value} {e : Error}
    (failed : expand path steps v = .error e) : e = .undecodable path := by
  induction steps generalizing v e with
  | nil => cases failed
  | cons step steps ih =>
    rw [expand_cons] at failed
    cases first : step.reach path v with
    | error e' =>
      rw [first] at failed
      cases failed
      exact Step.reach_error first
    | ok next =>
      rw [first] at failed
      obtain ⟨w, -, failed⟩ := error_of_spread failed
      exact ih failed

/-- All values that were reached take the steps together to what they expand to one after
another. -/
theorem foldlM_advance (path : String) (steps : List Step) (reached : List (Option Json.Value)) :
    steps.foldlM (advance path) reached = spread (expand path steps) reached := by
  -- The values reached so far change with each step, so the equation is about all of them, not
  -- about one record.
  induction steps generalizing reached with
  | nil =>
    have all : spread (expand path []) reached = .ok (reached.flatMap fun v => [v]) :=
      spread_eq_ok fun _ _ => rfl
    rw [all, List.flatMap_singleton']
    rfl
  | cons step steps ih =>
    have onward : spread (expand path (step :: steps)) reached =
        spread (fun v => (step.reach path v).bind (spread (expand path steps))) reached := by
      congr 1
      funext v
      exact expand_cons path step steps v
    rw [List.foldlM_cons, onward, ← spread_bind (fun _ _ => Step.reach_error)
      (fun _ _ => expand_error), advance_eq_spread]
    change (spread (step.reach path) reached).bind (steps.foldlM (advance path)) = _
    congr 1
    funext next
    exact ih next

theorem Accessor.values_eq_expand (a : Accessor) (record : Json.Value) :
    a.values record = expand a.path a.steps (some record) := by
  rw [values, foldlM_advance, spread_singleton]

private theorem Step.reach_ne_nil {path : String} {step : Step} {v : Option Json.Value}
    {next : List (Option Json.Value)} (reached : step.reach path v = .ok next) : next ≠ [] := by
  cases v with
  | none => cases reached; simp
  | some v =>
    cases step with
    | relation name =>
      rw [reach_relation] at reached
      cases reached
      exact related_ne_nil v name
    | field name => cases reached; simp
    | key name decode =>
      rw [reach_key] at reached
      obtain ⟨document, -, rfl⟩ := map_eq_ok_iff.1 reached
      simp

private theorem expand_ne_nil {path : String} {steps : List Step} {v : Option Json.Value}
    {values : List (Option Json.Value)} (expanded : expand path steps v = .ok values) :
    values ≠ [] := by
  induction steps generalizing v values with
  | nil => cases expanded; simp
  | cons step steps ih =>
    rw [expand_cons, bind_eq_ok_iff] at expanded
    obtain ⟨next, reached, onward⟩ := expanded
    exact spread_ne_nil (Step.reach_ne_nil reached) (fun _ _ => ih) onward

/-- The relation that a step follows. -/
def Step.relation? : Step → Option String
  | .relation name => some name
  | _ => none

/-- The relations on the way to the values of a path. -/
def Accessor.relations (a : Accessor) : List String :=
  a.steps.filterMap Step.relation?

/-- Nothing that is held under the names of relations, one inside the other, is a list. -/
def ToOne : List String → Json.Value → Prop
  | [], _ => True
  | name :: names, v =>
    (∀ items, partOf v name ≠ some (.list items)) ∧
      ∀ next, partOf v name = some next → ToOne names next

private theorem expand_relation {path name : String} {steps : List Step} {v : Json.Value}
    (single : ∀ items, partOf v name ≠ some (.list items)) :
    expand path (.relation name :: steps) (some v) = expand path steps (partOf v name) := by
  rw [expand]
  split
  · exact absurd ‹_› (single [])
  · exact absurd ‹_› (single _)
  · rfl

private theorem expand_single {path : String} {steps : List Step}
    (inside : ∀ name, .relation name ∉ steps) {v : Option Json.Value}
    {values : List (Option Json.Value)} (expanded : expand path steps v = .ok values) :
    ∃ w, values = [w] := by
  induction steps generalizing v values with
  | nil => exact ⟨v, (Except.ok.inj expanded).symm⟩
  | cons step steps ih =>
    have further : ∀ name, .relation name ∉ steps :=
      fun name member => inside name (List.mem_cons_of_mem step member)
    cases v with
    | none => exact ⟨none, (Except.ok.inj expanded).symm⟩
    | some v =>
      cases step with
      | relation name => exact absurd (List.mem_cons_self) (inside name)
      | field name => exact ih further expanded
      | key name decode =>
        obtain ⟨document, -, onward⟩ := bind_eq_ok_iff.1 expanded
        exact ih further onward

private theorem expand_single_of_toOne {path : String} {names : List String} {steps : List Step}
    (inside : ∀ name, .relation name ∉ steps) {v : Json.Value} (toOne : ToOne names v)
    {values : List (Option Json.Value)}
    (expanded : expand path (names.map .relation ++ steps) (some v) = .ok values) :
    ∃ w, values = [w] := by
  induction names generalizing v with
  | nil => exact expand_single inside expanded
  | cons name names ih =>
    obtain ⟨single, further⟩ := toOne
    rw [List.map_cons, List.cons_append, expand_relation single] at expanded
    cases found : partOf v name with
    | none =>
      rw [found, expand_none] at expanded
      exact ⟨none, (Except.ok.inj expanded).symm⟩
    | some next =>
      rw [found] at expanded
      exact ih (further next found) expanded

/-- The steps of a path that resolves: relations, an attribute, and keys, of which the first may
find the document held as text. -/
theorem walk_steps {schema : Schema} {registry : Registry} {path : String} {e : Entity}
    {steps : List Step} {many : Bool} {rest : List String} {a : Accessor}
    (found : walk schema registry path e steps many rest = .ok (some a)) :
    a.path = path ∧ ∃ (names : List String) (ending : String) (keys : List String),
      a.steps = steps ++ (names.map .relation ++ .field ending :: Route.keySteps keys) := by
  induction rest generalizing e steps many with
  | nil =>
    obtain ⟨id, -, rfl⟩ := Option.map_eq_some_iff.1 (Except.ok.inj found)
    exact ⟨rfl, [], id.name, [], rfl⟩
  | cons segment rest ih =>
    rw [walk] at found
    cases named : e.attribute? segment with
    | some ending =>
      simp only [named] at found
      split at found
      · cases found
        exact ⟨rfl, [], ending.name, [], rfl⟩
      · split at found
        · cases found
        · obtain ⟨further, keyed, made⟩ := bind_eq_ok_iff.1 found
          rw [keySteps_true_eq] at keyed
          split at keyed
          · cases keyed
          · cases keyed
            cases made
            exact ⟨rfl, [], ending.name, rest, rfl⟩
    | none =>
      simp only [named] at found
      cases known : registry.relation? e.name segment with
      | none => simp [known] at found
      | some target =>
        simp only [known] at found
        split at found
        · cases found
        · obtain ⟨same, names, ending, keys, made⟩ := ih found
          exact ⟨same, target.name :: names, ending, keys, by simp [made]⟩

private theorem not_relation_of_ending {ending name : String} {keys : List String} :
    Step.relation name ∉ .field ending :: Route.keySteps keys := by
  cases keys <;> simp [Route.keySteps]

theorem Accessor.relations_eq {a : Accessor} {names : List String} {ending : String}
    {keys : List String}
    (steps : a.steps = names.map .relation ++ .field ending :: Route.keySteps keys) :
    a.relations = names := by
  have along : (names.map Step.relation).filterMap Step.relation? = names := by
    rw [List.filterMap_map]
    exact List.filterMap_some
  have ended : (.field ending :: Route.keySteps keys).filterMap Step.relation? = [] := by
    rw [List.filterMap_eq_nil_iff]
    rintro (name | name | ⟨name, decode⟩) member
    · exact absurd member not_relation_of_ending
    · rfl
    · rfl
  rw [relations, steps, List.filterMap_append, along, ended, List.append_nil]

/-- The values of a path that resolves are what a record expands to along its steps: some relations,
an attribute, and keys. There is at least one of them, and only one if no relation on the way holds
a list. -/
theorem values_expand {schema : Schema} {registry : Registry} {root : Entity} {path : String}
    {a : Accessor} (resolved : resolve schema registry root path = .ok (some a)) :
    (∃ ending keys, a.steps = a.relations.map .relation ++ .field ending :: Route.keySteps keys) ∧
      ∀ record, a.values record = expand path a.steps (some record) ∧
        ∀ values, a.values record = .ok values → values ≠ [] ∧
          (ToOne a.relations record → ∃ v, values = [v]) := by
  obtain ⟨same, names, ending, keys, steps⟩ := walk_steps resolved
  rw [List.nil_append] at steps
  rw [Accessor.relations_eq steps]
  refine ⟨⟨ending, keys, steps⟩, fun record => ?_⟩
  have expansion : a.values record = expand path a.steps (some record) := by
    rw [a.values_eq_expand, same]
  refine ⟨expansion, fun values read => ?_⟩
  rw [expansion] at read
  refine ⟨expand_ne_nil read, fun toOne => ?_⟩
  rw [steps] at read
  exact expand_single_of_toOne (fun _ => not_relation_of_ending) toOne read

namespace Notes

def note : Entity :=
  ⟨"Note", "notes", "id", [⟨"id", none, .integer, false⟩, ⟨"about", none, .json, true⟩], []⟩

def letter : Entity :=
  ⟨"Letter", "letters", "id", [⟨"id", none, .integer, false⟩],
    [⟨"notes", "Note", true, false, "id", "letter_id"⟩]⟩

def schema : Schema :=
  ⟨[letter, note], by rfl⟩

def registry : Registry where
  root := "Letter"
  entities :=
    (NameIndex.empty.insert "Letter" (Registry.entryOf letter [⟨"notes", "Note", true⟩])).insert
      "Note"
      (Registry.entryOf note [])
  externals := []

def accessor : Accessor :=
  ⟨"notes.about.place.name", [.relation "notes", .field "about", .key "place" true,
    .key "name" false], .text, true⟩

/-- A letter with a note whose document is held as text, no note, and notes about no place and about
a place. -/
def record : Json.Value :=
  .object [("notes", .list [.object
    [("about", .text "\x7b\"place\":\x7b\"name\":\"Rome\"\x7d\x7d")], .null,
      .object [("about", .object [("place", .integer 5)])],
    .object [("about", .object [("place", .object [("name", .text "Oslo")])])]])]

/-- A letter with one note, in no list. -/
def single : Json.Value :=
  .object [("notes", .object [("about", .null)])]

theorem resolve_eq : resolve schema registry letter "notes.about.place.name" = .ok
    (some accessor) := by
  rfl

end Notes

/-- Each note has its value in turn, null where it is missing; where there is one note there is one
value. -/
theorem notes_expand :
    Notes.accessor.values Notes.record = .ok [some (.text "Rome"), none, none,
      some (.text "Oslo")] ∧
      ToOne Notes.accessor.relations Notes.single ∧
        ∃ v, Notes.accessor.values Notes.single = .ok [v] := by
  obtain ⟨-, each⟩ := values_expand Notes.resolve_eq
  obtain ⟨expansion, -⟩ := each Notes.record
  obtain ⟨expanded, counted⟩ := each Notes.single
  have toOne : ToOne Notes.accessor.relations Notes.single := ⟨nofun, fun _ _ => trivial⟩
  have read : Notes.accessor.values Notes.single = .ok [none] := expanded.trans (by rfl)
  obtain ⟨v, only⟩ := (counted _ read).2 toOne
  exact ⟨expansion.trans (by rfl), toOne, v, by rw [read, only]⟩

end FilterQuery.Memory.Path
