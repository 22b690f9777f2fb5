import FilterQuery.Proofs.Compilation.Agreement
import FilterQuery.Proofs.Memory.Expansion
import FilterQuery.Proofs.Memory.Monotone
import FilterQuery.Proofs.Path.Spelling
import FilterQuery.Proofs.Relational.Joins

set_option autoImplicit false
set_option relaxedAutoImplicit false

/-!
Filters whose paths differ in letter case. Rows are joined and compared the same, whichever
spellings a filter uses and mixes, and records are selected the same; only errors name the spelling
that they found.
-/

namespace FilterQuery

open FilterQuery.Filter (Comparison Connective Formula Operator)
open FilterQuery.Memory (Node Predicate askInTurn askInTurn_cons askInTurn_nil decisive)
open FilterQuery.Memory.Path (Accessor Step)
open FilterQuery.Relational.Path (addJoins)
open FilterQuery.Scalar (Kind)
open FilterQuery.Sql (Condition Join)
open FilterQuery.Text.Split (segments)

/-- A filter beside one that spells some of its paths differently. -/
inductive Filter.Respelled (context : Context) : Formula → Formula → Prop
  | atom {p q : String} (alike : context.SpelledAlike p q) (operator : Operator)
      (value : Option String) :
      Respelled context (.atom ⟨p, operator, value⟩) (.atom ⟨q, operator, value⟩)
  | group (connective : Connective) {parts others : List Formula}
      (each : List.Forall₂ (Respelled context) parts others) :
      Respelled context (.group connective parts) (.group connective others)

open FilterQuery.Filter (Respelled)

namespace Relational

variable {context : Context} {p q : String} {connective : Connective}

private theorem compileTest_respelled (alike : context.SpelledAlike p q) (operator : Operator)
    (value : Option String) :
    Paired context.SameFault Eq (compileTest context ⟨p, operator, value⟩)
      (compileTest context ⟨q, operator, value⟩) := by
  rw [compileTest_eq, compileTest_eq]
  change Paired _ _ (if isComparable (comparand ⟨p, operator, value⟩) operator then _ else _)
    (if isComparable (comparand ⟨p, operator, value⟩) operator then _ else _)
  cases isComparable (comparand ⟨p, operator, value⟩) operator with
  | false => exact .ok rfl
  | true =>
    rw [if_pos rfl, if_pos rfl]
    rcases alike.locate with ⟨route, located⟩ | located | located
    · rw [located p (by simp), located q (by simp)]
      exact .ok rfl
    · rw [located p (by simp), located q (by simp)]
      exact .ok rfl
    · rw [located p (by simp), located q (by simp)]
      exact .error (.emptyKey alike)

private theorem compileParts_paired {parts others : List Formula}
    (each : List.Forall₂ (fun part other => ∀ joins,
      Paired context.SameFault Eq (compileFilter context part joins)
        (compileFilter context other joins)) parts others)
    (joins : List Join) :
    Paired context.SameFault Eq (compileParts context parts joins)
      (compileParts context others joins) := by
  induction each generalizing joins with
  | nil => exact Paired.self .same _
  | cons first rest ih =>
    rw [compileParts_cons, compileParts_cons]
    exact (first joins).bind_eq fun made => (ih made.2).map_eq _

/-- A filter compiles to the same condition over the same joins, however its paths are spelled. -/
theorem compileFilter_respelled {filter other : Formula}
    (respelled : Respelled context filter other) (joins : List Join) :
    Paired context.SameFault Eq (compileFilter context filter joins)
      (compileFilter context other joins) := by
  induction filter using Formula.induction generalizing other joins with
  | atom test =>
    cases respelled with
    | atom alike operator value =>
      rw [compileFilter, compileFilter]
      exact (compileTest_respelled alike operator value).bind_eq fun made => Paired.self .same _
  | group connective parts ih =>
    cases respelled with
    | group _ each =>
      have pairs := ((List.forall₂_and_left parts _).2 ⟨ih, each⟩).imp fun part other h => h.1 h.2
      rw [compileFilter_group, compileFilter_group]
      exact (compileParts_paired pairs joins).map_eq _

private theorem compile_respelled {filter other : Formula}
    (respelled : Respelled context filter other) (query : Query) :
    Paired context.SameFault Eq (compile context { query with filter := some filter })
      (compile context { query with filter := some other }) := by
  cases identified : context.root.identifier? with
  | none =>
    unfold compile
    simp only [identified]
    exact .error (.same _)
  | some identifier =>
    rw [compile_eq identified, compile_eq identified]
    exact (compileFilter_respelled respelled []).bind_eq fun made => Paired.self .same _

end Relational

namespace Memory

open FilterQuery.Memory.Path (advance decoded)

variable {context : Context} {p q : String} {connective : Connective}

private theorem decoded_paired (alike : context.SpelledAlike p q) (v : Json.Value) :
    Paired context.SameFault Eq (decoded p v) (decoded q v) := by
  cases v with
  | text s =>
    rw [decoded, decoded]
    cases Json.Reader.read s with
    | none => exact .error (.undecodable alike)
    | some v => exact .ok rfl
  | _ => exact .ok rfl

private theorem follow_paired (alike : context.SpelledAlike p q) (v : Json.Value) (step : Step) :
    Paired context.SameFault Eq (step.follow p v) (step.follow q v) := by
  cases step with
  | relation name => exact Paired.self .same _
  | field name => exact .ok rfl
  | key name decode =>
    cases decode with
    | false => exact .ok rfl
    | true => exact (decoded_paired alike v).bind_eq fun document => .ok rfl

private theorem advance_paired (alike : context.SpelledAlike p q)
    (reached : List (Option Json.Value)) (step : Step) :
    Paired context.SameFault Eq (advance p reached step) (advance q reached step) := by
  unfold advance
  refine Paired.bind (Paired.mapM (R := Eq) (S := Eq) (List.forall₂_same.2 fun _ _ => rfl) ?_)
    fun values others same => ?_
  · rintro v - rfl
    cases v with
    | none => exact .ok rfl
    | some v => exact follow_paired alike v step
  · rw [List.forall₂_eq_eq_eq] at same
    rw [same]
    exact .ok rfl

private theorem values_paired (alike : context.SpelledAlike p q) (steps : List Step) (kind : Kind)
    (many : Bool) (record : Json.Value) :
    Paired context.SameFault Eq (Accessor.values ⟨p, steps, kind, many⟩ record)
      (Accessor.values ⟨q, steps, kind, many⟩ record) :=
  Paired.foldlM (advance_paired alike) steps [some record]

/-- Nodes that answer the same of every record, and are dropped alike. -/
structure AnswersAlike (context : Context) (x y : Node) : Prop where
  always : y.isAlways = true ↔ x.isAlways = true
  holds : ∀ record, Paired context.SameFault Eq (x.holds context.coerce record)
    (y.holds context.coerce record)

theorem AnswersAlike.refl (x : Node) : AnswersAlike context x x :=
  ⟨Iff.rfl, fun _ => Paired.self .same _⟩

private theorem nodeAsking_respelled (alike : context.SpelledAlike p q) (asked : Option Test)
    (steps : List Step) (kind : Kind) (many : Bool) :
    AnswersAlike context (nodeAsking ⟨p, steps, kind, many⟩ asked)
      (nodeAsking ⟨q, steps, kind, many⟩ asked) := by
  cases asked with
  | none => exact .refl _
  | some test =>
    refine ⟨Iff.rfl, fun record => ?_⟩
    rw [nodeAsking, nodeAsking, Node.holds, Node.holds]
    exact (values_paired alike steps kind many record).bind_eq fun values => .ok rfl

private theorem askInTurn_paired {nodes others : List Node}
    (each : List.Forall₂ (AnswersAlike context) nodes others) (record : Json.Value) :
    Paired context.SameFault Eq (askInTurn context.coerce record connective nodes)
      (askInTurn context.coerce record connective others) := by
  induction each with
  | nil => exact Paired.self .same _
  | cons first rest ih =>
    rw [askInTurn_cons, askInTurn_cons]
    refine (first.holds record).bind_eq fun b => ?_
    by_cases settled : b = decisive connective
    · rw [if_pos settled, if_pos settled]
      exact .ok rfl
    · rw [if_neg settled, if_neg settled]
      exact ih

private theorem group_eq_askInTurn {nodes : List Node}
    (restricting : ¬(group connective nodes).isAlways = true) (record : Json.Value) :
    (group connective nodes).holds context.coerce record =
      askInTurn context.coerce record connective nodes := by
  cases connective with
  | and => exact group_and_eq nodes
  | or =>
    cases nodes with
    | nil =>
      change Node.never.holds context.coerce record = _
      rw [Node.holds, askInTurn_nil]
      rfl
    | cons node nodes =>
      have found : ¬(node :: nodes).any (·.isAlways) = true := by
        rwa [List.any_eq_true, ← Compilation.isAlways_or]
      have made : group .or (node :: nodes) = .any (node :: nodes) := if_neg found
      rw [made, Node.holds]
      rfl

private theorem isAlways_group_iff {nodes others : List Node}
    (each : List.Forall₂ (AnswersAlike context) nodes others) :
    (group connective others).isAlways = true ↔ (group connective nodes).isAlways = true := by
  have always := each.imp fun _ _ alike => alike.always
  cases connective with
  | and =>
    rw [Compilation.isAlways_and, Compilation.isAlways_and]
    exact forall_mem_iff_of_forall₂ always
  | or =>
    rw [Compilation.isAlways_or, Compilation.isAlways_or]
    exact exists_mem_iff_of_forall₂ always

private theorem group_answersAlike {nodes others : List Node}
    (each : List.Forall₂ (AnswersAlike context) nodes others) :
    AnswersAlike context (group connective nodes) (group connective others) := by
  have dropped : (group connective others).isAlways = true ↔
      (group connective nodes).isAlways = true :=
    isAlways_group_iff each
  refine ⟨dropped, fun record => ?_⟩
  by_cases always : (group connective nodes).isAlways = true
  · rw [holds_of_isAlways always, holds_of_isAlways (dropped.2 always)]
    exact .ok rfl
  · rw [group_eq_askInTurn always, group_eq_askInTurn (mt dropped.1 always)]
    exact askInTurn_paired each record

private theorem patternFault?_respelled (alike : context.SpelledAlike p q) (operator : Operator)
    (value : Option String) :
    patternFault? context ⟨q, operator, value⟩ = patternFault? context ⟨p, operator, value⟩ := by
  unfold patternFault?
  rcases alike.locate with ⟨route, located⟩ | located | located
  · rw [located p (by simp), located q (by simp)]
    rfl
  · rw [located p (by simp), located q (by simp)]
  · rw [located p (by simp), located q (by simp)]

private theorem compileTest_respelled (built : context.Built) (alike : context.SpelledAlike p q)
    (operator : Operator) (value : Option String) :
    Paired context.SameFault (AnswersAlike context) (compileTest context ⟨p, operator, value⟩)
      (compileTest context ⟨q, operator, value⟩) := by
  rw [compileTest_eq built, compileTest_eq built, patternFault?_respelled alike]
  cases patternFault? context ⟨p, operator, value⟩ with
  | some e => exact .error (.same e)
  | none =>
    change Paired _ _ (if Relational.isComparable (comparand ⟨p, operator, value⟩) operator then _
      else _)
      (if Relational.isComparable (comparand ⟨p, operator, value⟩) operator then _ else _)
    cases Relational.isComparable (comparand ⟨p, operator, value⟩) operator with
    | false => exact .ok (.refl _)
    | true =>
      rw [if_pos rfl, if_pos rfl]
      rcases alike.locate with ⟨route, located⟩ | located | located
      · rw [located p (by simp), located q (by simp)]
        exact .ok (nodeAsking_respelled alike _ route.steps route.kind route.many)
      · rw [located p (by simp), located q (by simp)]
        exact .ok (.refl _)
      · rw [located p (by simp), located q (by simp)]
        exact .error (.emptyKey alike)

/-- A filter compiles to nodes that answer the same, however its paths are spelled. -/
theorem compileFormula_respelled (built : context.Built) {filter other : Formula}
    (respelled : Respelled context filter other) :
    Paired context.SameFault (AnswersAlike context) (compileFormula context filter)
      (compileFormula context other) := by
  induction filter using Formula.induction generalizing other with
  | atom test =>
    cases respelled with
    | atom alike operator value =>
      rw [compileFormula_atom, compileFormula_atom]
      exact compileTest_respelled built alike operator value
  | group connective parts ih =>
    cases respelled with
    | group _ each =>
      have pairs := ((List.forall₂_and_left parts _).2 ⟨ih, each⟩)
      rw [compileFormula_group, compileFormula_group]
      refine Paired.map (Paired.mapM pairs fun part other h => h.1 h.2) fun nodes others each => ?_
      exact group_answersAlike each

private theorem execute_respelled (built : context.Built) {filter other : Formula}
    (respelled : Respelled context filter other) (query : Query) {α : Type}
    (record : α → Json.Value) (items : List α) :
    Paired context.SameFault Eq (execute context { query with filter := some filter } record items)
      (execute context { query with filter := some other } record items) := by
  have compiled : Paired context.SameFault
      (fun x y : Predicate => x.coerce = context.coerce ∧ y.coerce = context.coerce ∧
        AnswersAlike context x.node y.node)
      (compileFilter context (some filter)) (compileFilter context (some other)) := by
    rw [compileFilter_some, compileFilter_some]
    exact Paired.map (compileFormula_respelled built respelled) fun x y alike => ⟨rfl, rfl, alike⟩
  refine Paired.bind compiled fun x y alike => ?_
  obtain ⟨first, second, alike⟩ := alike
  refine Paired.bind_eq (Paired.self .same _) fun keys => ?_
  have selected : Paired context.SameFault Eq (x.select record items) (y.select record items) := by
    refine Paired.filterM (fun item => ?_) items
    rw [Predicate.test, Predicate.test, first, second]
    exact alike.holds (record item)
  exact selected.bind_eq fun chosen => Paired.self .same _

end Memory

namespace Compilation

/-- The spelling of names does not matter. Paths that are spelled alike resolve alike, and where the
joins of one are there, the other adds none. So filters that differ in the spelling of paths have
one plan and select the same records; otherwise both fail, each with the spelling that it found. -/
theorem spelling_irrelevant {context : Context} (built : context.Built) :
    (∀ p q, context.SpelledAlike p q → context.ResolvedAlike p q) ∧
    (∀ p q, context.SpelledAlike p q → ∀ target other,
      Relational.Path.resolve context.schema context.registry context.root p = .ok (some target) →
      Relational.Path.resolve context.schema context.registry context.root q = .ok (some other) →
      ∀ joins, addJoins (addJoins joins target.joins) other.joins = addJoins joins target.joins) ∧
    ∀ filter other, Respelled context filter other → ∀ query : Query,
      Paired context.SameFault Eq (Relational.compile context { query with filter := some filter })
        (Relational.compile context { query with filter := some other }) ∧
      ∀ {α : Type} (record : α → Json.Value) (items : List α),
        Paired context.SameFault Eq
          (Memory.execute context { query with filter := some filter } record items)
          (Memory.execute context { query with filter := some other } record items) := by
  refine ⟨fun p q alike => built.resolvedAlike alike, ?_, ?_⟩
  · intro p q alike target other hp hq joins
    have same : target = other := by
      cases built.resolvedAlike alike with
      | found both _ _ _ rows _ =>
        rw [rows p (by simp)] at hp
        rw [rows q (by simp)] at hq
        exact Option.some.inj (Except.ok.inj (hp.symm.trans hq))
      | nothing rows _ =>
        rw [rows p (by simp)] at hp
        cases hp
      | malformed rows _ =>
        rw [rows p (by simp)] at hp
        cases hp
    rw [same]
    exact Relational.addJoins_again joins other.joins
  · intro filter other respelled query
    refine ⟨Relational.compile_respelled respelled query, ?_⟩
    exact fun record items => Memory.execute_respelled built respelled query record items

namespace Letters

open FilterQuery.Memory.Path.Notes (letter note registry schema)

theorem build_eq : Registry.build schema "Letter" = .ok registry := by
  have letters : schema.entity? "Letter" = some letter := by rfl
  have notes : schema.entity? "Note" = some note := by rfl
  have reached : (Registry.joined letter).mapM (Registry.targetOf schema) =
    .ok [⟨"notes", "Note", true⟩] := by rfl
  have waiting : ["Note"].filter (fun target => foldName target ∉ [foldName "Letter"]) =
    ["Note"] := by decide +kernel
  have explored : Registry.explore schema .empty [] [] ["Letter"] =
      .ok (registry.entities, []) := by
    rw [Registry.explore_of_new (by simp) letters reached]
    simp only [List.map_cons, List.map_nil]
    rw [waiting, List.nil_append, List.nil_append,
      Registry.explore_of_leaf (by decide +kernel) notes rfl, Registry.explore_nil]
    rfl
  exact Registry.build_of_explore letters explored

def context : Context :=
  ⟨schema, registry, letter, Scalar.Coerce.coerce, .default, true, Like.refusal⟩

theorem context_built : context.Built :=
  ⟨⟨"Letter", build_eq⟩, by rfl⟩

/-- The place and the author of a note, whose ways are spelled differently. -/
def mixed : Formula :=
  .group .and [.compare "notes.about.place" .eq "Rome", .compare "NOTES.About.author" .eq "Ada"]

def plain : Formula :=
  .group .and [.compare "notes.about.place" .eq "Rome", .compare "notes.about.author" .eq "Ada"]

private theorem segments_author :
    segments '.' "NOTES.About.author" = ["NOTES", "About", "author"] := by
  decide +kernel

private theorem nameCount_author :
    nameCount schema registry letter ["NOTES", "About", "author"] = 2 := by
  decide +kernel

private theorem author_spelledAlike :
    context.SpelledAlike "NOTES.About.author" "notes.about.author" := by
  have second : segments '.' "notes.about.author" = ["notes", "about", "author"] := by
    decide +kernel
  have relation : foldName "NOTES" = foldName "notes" := by decide +kernel
  have scalar : foldName "About" = foldName "about" := by decide +kernel
  have same : SameNames schema registry letter ["NOTES", "About", "author"] ["notes", "about",
      "author"] := by
    constructor
    · rw [nameCount_author]
      exact .cons relation (.cons scalar .nil)
    · rw [nameCount_author]
      rfl
  unfold Context.SpelledAlike
  rwa [segments_author, second]

private theorem author_key : ¬context.SpelledAlike "NOTES.About.author" "notes.about.Author" := by
  have second : segments '.' "notes.about.Author" = ["notes", "about", "Author"] := by
    decide +kernel
  have different : ¬SameNames schema registry letter ["NOTES", "About", "author"] ["notes", "about",
      "Author"] := by
    intro same
    have keys := same.keys
    rw [nameCount_author] at keys
    exact absurd keys (by decide)
  unfold Context.SpelledAlike
  rwa [segments_author, second]

private theorem mixed_respelled : Respelled context mixed plain :=
  .group .and (.cons (.atom (.refl context _) .eq _) (.cons (.atom author_spelledAlike .eq _) .nil))

def toNotes : Join :=
  ⟨"notes", "notes", "letters", "id", "letter_id", true⟩

private theorem compile_place :
    Relational.compileFilter context (.compare "notes.about.place" .eq "Rome") [] =
      .ok (some (.equal (.documentText (.column "notes" "about") "place") (.text "Rome")),
        [toNotes]) := by
  rfl

private theorem compile_author :
    Relational.compileFilter context (.compare "notes.about.author" .eq "Ada") [toNotes] =
      .ok (some (.equal (.documentText (.column "notes" "about") "author") (.text "Ada")),
        [toNotes]) := by
  rfl

private theorem compile_plain :
    ∃ plan, Relational.compile context { Query.empty with filter := some plain } = .ok plan ∧
      plan.joins = [toNotes] := by
  obtain ⟨identifier, identified⟩ := Option.isSome_iff_exists.1 context_built.identifier?_isSome
  have nothing : Relational.compileParts context [] [toNotes] = .ok ([], [toNotes]) := rfl
  have parts :=
    Relational.compileParts_of_cons compile_place
      (Relational.compileParts_of_cons compile_author nothing)
  obtain ⟨condition, found⟩ : ∃ condition, Relational.compileFilter context plain [] =
      .ok (condition, [toNotes]) :=
    ⟨_, Relational.compileFilter_of_and parts⟩
  have compiled : Relational.compile context { Query.empty with filter := some plain } =
      .ok (Relational.planOf context { Query.empty with filter := some plain } identifier
        (condition, [toNotes]) []) := by
    rw [Relational.compile_eq identified]
    change (Relational.compileFilter context plain []).bind _ = _
    rw [found]
    rfl
  exact ⟨_, compiled, rfl⟩

end Letters

/-- Comparisons that spell the way to the notes differently go over one join. The keys after it are
told apart by letter case. -/
theorem letters_share_join :
    Letters.context.Built ∧ Respelled Letters.context Letters.mixed Letters.plain ∧
      Letters.context.ResolvedAlike "NOTES.About.author" "notes.about.author" ∧
      ¬Letters.context.SpelledAlike "NOTES.About.author" "notes.about.Author" ∧
      ∃ plan, Relational.compile Letters.context { Query.empty with filter := some Letters.mixed } =
        .ok plan ∧
        plan.joins = [Letters.toNotes] := by
  obtain ⟨resolved, -, filters⟩ := spelling_irrelevant Letters.context_built
  obtain ⟨rows, -⟩ := filters _ _ Letters.mixed_respelled Query.empty
  refine ⟨Letters.context_built, Letters.mixed_respelled, resolved _ _ Letters.author_spelledAlike,
    Letters.author_key, ?_⟩
  obtain ⟨plan, compiled, joins⟩ := Letters.compile_plain
  rw [compiled] at rows
  generalize Relational.compile Letters.context { Query.empty with filter := some Letters.mixed } =
    outcome at rows
  cases rows with
  | ok same => exact ⟨_, rfl, same ▸ joins⟩

end Compilation

end FilterQuery
