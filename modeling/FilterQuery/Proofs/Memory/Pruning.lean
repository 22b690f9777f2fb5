import FilterQuery.Proofs.Filter.Possibility
import FilterQuery.Proofs.Memory.Evaluation

set_option autoImplicit false
set_option relaxedAutoImplicit false

/-!
What pruned predicates mean. A predicate leaves out what holds always and stops asking once it knows
the answer, so it may answer where some comparisons cannot be read. Its answer is then the truth
value of the filter whatever those comparisons are, and it fails only as one of them does.
-/

namespace FilterQuery.Memory

open FilterQuery.Filter (Comparison Connective Formula)
open FilterQuery.Memory.Path (Accessor)
open FilterQuery.Scalar (Coercion)

/-- What a comparison says of a record. One that is dropped, for its operator or because its path
names nothing, is true. One for equality with a value that does not coerce is false. Any other is
true if one of the values of its path passes. -/
def answer (context : Context) (record : Json.Value) (test : Comparison) : Except Error Bool := do
  if isDecidedBy test.operator (comparand test) then
    match ← accessor? context test.path with
    | none => return true
    | some a =>
      match testOf context test.operator (comparand test) a.kind with
      | none => return false
      | some asked => holdsAt context.coerce record a asked
  else return true

section

variable {context : Context} {record : Json.Value}

theorem answer_of_not_decided {test : Comparison}
    (undecided : isDecidedBy test.operator (comparand test) = false) :
    answer context record test = .ok true := by
  unfold answer
  rw [undecided]
  rfl

theorem answer_of_unresolved {test : Comparison}
    (decided : isDecidedBy test.operator (comparand test) = true)
    (resolved : accessor? context test.path = .ok none) :
    answer context record test = .ok true := by
  unfold answer
  rw [decided, resolved]
  rfl

theorem answer_of_resolved {test : Comparison} {a : Accessor}
    (decided : isDecidedBy test.operator (comparand test) = true)
    (resolved : accessor? context test.path = .ok (some a)) :
    answer context record test =
      (nodeAsking a (testOf context test.operator (comparand test) a.kind)).holds
        context.coerce record := by
  unfold answer
  rw [decided, resolved]
  cases asked : testOf context test.operator (comparand test) a.kind with
  | none => simp [asked, nodeAsking, Node.holds, bind, Except.bind, pure, Except.pure]
  | some test' => simp [asked, nodeAsking, Node.holds, bind, Except.bind]

/-- The node of a comparison answers what the comparison says. -/
theorem compileTest_answer {test : Comparison} {node : Node}
    (compiled : compileTest context test = .ok node) :
    node.holds context.coerce record = answer context record test := by
  simp only [compileTest] at compiled
  cases decided : isDecidedBy test.operator (comparand test) with
  | false =>
    rw [decided] at compiled
    rw [← Except.ok.inj compiled, Node.holds, answer_of_not_decided decided]
  | true =>
    rw [decided] at compiled
    obtain ⟨accessor, found, compiled⟩ := bind_eq_ok_iff.1 compiled
    cases accessor with
    | none => rw [← Except.ok.inj compiled, Node.holds, answer_of_unresolved decided found]
    | some a =>
      change nodeOfTest context test.operator (comparand test) a = .ok node at compiled
      rw [nodeOfTest_eq] at compiled
      rw [answer_of_resolved decided found]
      cases refused : patternRefusal? context test.operator (comparand test) with
      | some e =>
        rw [refused] at compiled
        cases compiled
      | none =>
        rw [refused] at compiled
        rw [← Except.ok.inj compiled]

/-- An outcome that settles a filter: a truth value is the only one that the filter may have, and a
failure is that of one of its comparisons. -/
def Settles (answers : Comparison → Except Error Bool) (filter : Formula) : Except Error Bool → Prop
  | .ok b => ∀ c, filter.MayBe answers c ↔ c = b
  | .error e => ∃ test ∈ filter.tests, answers test = .error e

variable {answers : Comparison → Except Error Bool} {connective : Connective} {part : Formula}
  {parts : List Formula}

private theorem settles_atom (test : Comparison) : Settles answers (.atom test) (answers test) := by
  cases known : answers test with
  | ok b =>
    intro c
    constructor
    · rintro (⟨same⟩ | _)
      exact same b known
    · rintro rfl
      exact .atom fun b' same => Except.ok.inj (known.symm.trans same)
  | error e => exact ⟨test, by simp, known⟩

def decisive : Connective → Bool
  | .and => false
  | .or => true

private theorem apply_decisive (connective : Connective) (b : Bool) :
    connective.apply (decisive connective) b = decisive connective := by
  cases connective <;> rfl

private theorem apply_of_ne_decisive {first : Bool} (other : first ≠ decisive connective)
    (b : Bool) :
    connective.apply first b = b := by
  cases connective <;> cases first <;> simp_all [decisive, Connective.apply]

theorem Settles.cons {first others : Except Error Bool} (hfirst : Settles answers part first)
    (hothers : Settles answers (.group connective parts) others) :
    Settles answers (.group connective (part :: parts))
      (first.bind fun b => if b = decisive connective then .ok b else others) := by
  have tests : (Formula.group connective (part :: parts)).tests =
      part.tests ++ (Formula.group connective parts).tests := by
    simp only [Formula.tests_group, List.flatMap_cons]
  cases first with
  | error e =>
    obtain ⟨test, member, fails⟩ := hfirst
    exact ⟨test, tests ▸ List.mem_append_left _ member, fails⟩
  | ok b =>
    change Settles _ _ (if b = decisive connective then .ok b else others)
    by_cases settled : b = decisive connective
    · rw [if_pos settled]
      intro c
      rw [Formula.mayBe_cons_iff]
      constructor
      · rintro ⟨value, rest, possible, -, rfl⟩
        rw [(hfirst value).1 possible, settled, apply_decisive]
      · rintro rfl
        -- what the others are makes no difference
        obtain ⟨rest, possible⟩ := (Formula.group connective parts).exists_mayBe answers
        exact ⟨c, rest, (hfirst c).2 rfl, possible, by rw [settled, apply_decisive]⟩
    · rw [if_neg settled]
      cases others with
      | error e =>
        obtain ⟨test, member, fails⟩ := hothers
        exact ⟨test, tests ▸ List.mem_append_right _ member, fails⟩
      | ok rest =>
        intro c
        rw [Formula.mayBe_cons_iff]
        constructor
        · rintro ⟨value, last, possible, possible', rfl⟩
          rw [(hfirst value).1 possible, apply_of_ne_decisive settled]
          exact (hothers last).1 possible'
        · rintro rfl
          exact ⟨b, c, (hfirst b).2 rfl, (hothers c).2 rfl, (apply_of_ne_decisive settled c).symm⟩

variable {coerce : Coercion} {nodes : List Node}

theorem holdAll_cons (node : Node) (nodes : List Node) :
    holdAll coerce record (node :: nodes) =
      (node.holds coerce record).bind fun b => if b = decisive .and then .ok b
        else holdAll coerce record nodes := by
  rw [holdAll]
  cases node.holds coerce record with
  | error e => rfl
  | ok b => cases b <;> rfl

theorem holdsAny_cons (node : Node) (nodes : List Node) :
    holdsAny coerce record (node :: nodes) =
      (node.holds coerce record).bind fun b => if b = decisive .or then .ok b
        else holdsAny coerce record nodes := by
  rw [holdsAny]
  cases node.holds coerce record with
  | error e => rfl
  | ok b => cases b <;> rfl

private theorem holdAll_settles
    (pairs : List.Forall₂ (fun part node => Settles answers part (node.holds coerce record))
      parts nodes) :
    Settles answers (.group .and parts) (holdAll coerce record nodes) := by
  induction pairs with
  | nil =>
    rw [holdAll]
    exact fun c => Formula.mayBe_nil_iff
  | cons first rest ih =>
    rw [holdAll_cons]
    exact first.cons ih

private theorem holdsAny_settles
    (pairs : List.Forall₂ (fun part node => Settles answers part (node.holds coerce record))
      parts nodes) :
    Settles answers (.group .or parts) (holdsAny coerce record nodes) := by
  induction pairs with
  | nil =>
    rw [holdsAny]
    exact fun c => Formula.mayBe_nil_iff
  | cons first rest ih =>
    rw [holdsAny_cons]
    exact first.cons ih

private theorem settles_or_of_isAlways
    (pairs : List.Forall₂ (fun part node =>
      Settles answers part (node.holds coerce record)) parts nodes)
    (found : ∃ node ∈ nodes, node.isAlways = true) :
    Settles answers (.group .or parts) (.ok true) := by
  obtain ⟨node, member, always⟩ := found
  obtain ⟨part, inside, settles⟩ := exists_left_of_forall₂ pairs node member
  rw [holds_of_isAlways always] at settles
  have sure : ∀ c, (Formula.group .or parts).MayBe answers c → c = true :=
    fun c => Formula.eq_true_of_mayBe_or inside fun c' => (settles c').1
  intro c
  refine ⟨sure c, ?_⟩
  rintro rfl
  obtain ⟨c, possible⟩ := (Formula.group .or parts).exists_mayBe answers
  exact sure c possible ▸ possible

private theorem group_settles (connective : Connective)
    (pairs : List.Forall₂ (fun part node => Settles answers part (node.holds coerce record))
      parts nodes) :
    Settles answers (.group connective parts) ((group connective nodes).holds coerce record) := by
  cases connective with
  | and =>
    rw [group_and_eq]
    exact holdAll_settles pairs
  | or =>
    simp only [group]
    by_cases empty : nodes = []
    · subst empty
      cases pairs
      rw [if_pos List.isEmpty_nil, Node.holds]
      exact fun c => Formula.mayBe_nil_iff
    · rw [if_neg (by simpa using empty)]
      by_cases found : nodes.any (·.isAlways) = true
      · rw [if_pos found, Node.holds]
        exact settles_or_of_isAlways pairs (List.any_eq_true.1 found)
      · rw [if_neg found, Node.holds]
        exact holdsAny_settles pairs

/-- By induction on the filter: the node of a filter settles it. -/
theorem compileFormula_settles {filter : Formula} {node : Node}
    (compiled : compileFormula context filter = .ok node) :
    Settles (answer context record) filter (node.holds context.coerce record) := by
  induction filter using Formula.induction generalizing node with
  | atom test =>
    rw [compileFormula_atom] at compiled
    rw [compileTest_answer compiled]
    exact settles_atom test
  | group connective parts ih =>
    rw [compileFormula_group] at compiled
    obtain ⟨nodes, each, rfl⟩ := map_eq_ok_iff.1 compiled
    exact group_settles connective (forall₂_of_mapM each fun part member node made =>
      ih part member made)

/-- The answer of a predicate is the truth value of its filter, whatever the comparisons that cannot
be read are: it is the only one that the filter may have, and the plain value of the filter wherever
truth values agree with all answers. A predicate fails only as one of the comparisons does. -/
theorem test_settles {filter : Formula} {predicate : Predicate}
    (compiled : compileFilter context (some filter) = .ok predicate) (record : Json.Value) :
    (∀ b, predicate.test record = .ok b →
      (∀ c, filter.MayBe (answer context record) c ↔ c = b) ∧
        ∀ truth : Comparison → Bool,
          (∀ test ∈ filter.tests, ∀ known, answer context record test = .ok known →
            truth test = known) →
            filter.value truth = b) ∧
      ∀ e, predicate.test record = .error e →
        ∃ test ∈ filter.tests, answer context record test = .error e := by
  rw [compileFilter_some] at compiled
  obtain ⟨node, made, rfl⟩ := map_eq_ok_iff.1 compiled
  have settles : Settles (answer context record) filter (node.holds context.coerce record) :=
    compileFormula_settles made
  constructor
  · intro b tested
    have only : ∀ c, filter.MayBe (answer context record) c ↔ c = b := by
      rw [Predicate.test] at tested
      rwa [tested] at settles
    exact ⟨only, fun truth agrees => (only _).1 (filter.mayBe_value agrees)⟩
  · intro e fails
    rw [Predicate.test] at fails
    rwa [fails] at settles

end

namespace Unreadable

def article : Entity :=
  ⟨"Article", "articles", "id", [⟨"id", none, .integer, false⟩, ⟨"title", none, .text, false⟩,
    ⟨"details", none, .json, true⟩], []⟩

def schema : Schema :=
  ⟨[article], by rfl⟩

def registry : Registry where
  root := "Article"
  entities := NameIndex.empty.insert "Article" (Registry.entryOf article [])
  externals := []

theorem build_eq : Registry.build schema "Article" = .ok registry := by
  have found : schema.entity? "Article" = some article := by rfl
  exact Registry.build_of_leaf found rfl

def context : Context :=
  ⟨schema, registry, article, Scalar.Coerce.coerce, .default, true, Like.refusal⟩

theorem context_built : context.Built :=
  ⟨⟨"Article", build_eq⟩, by rfl⟩

/-- A comparison of a path that names nothing, and one of three: one with a value that is no number,
one of the title, and one of the details. -/
def filter : Formula :=
  .group .and [.compare "id.part" .eq "1",
    .group .or [.compare "id" .eq "one", .compare "title" .eq "News",
      .compare "details.kind" .ne "x"]]

def title : Accessor :=
  ⟨"title", [.field "title"], .text, false⟩

def kind : Accessor :=
  ⟨"details.kind", [.field "details", .key "kind" true], .text, false⟩

/-- What is left of the filter. -/
def node : Node :=
  .all [.any [.never, .test title (.equal (.text "News")), .test kind (.notEqual (.text "x"))]]

def news : Json.Value :=
  .object [("title", .text "News"), ("details", .text "?")]

def draft : Json.Value :=
  .object [("title", .text "Draft"), ("details", .text "?")]

private theorem compileFilter_filter :
    compileFilter context (some filter) = .ok ⟨node, context.coerce⟩ := by
  have dropped : compileTest context ⟨"id.part", .eq, some "1"⟩ = .ok .always := by rfl
  have never : compileTest context ⟨"id", .eq, some "one"⟩ = .ok .never := by
    have found : accessor? context "id" = .ok (some ⟨"id", [.field "id"], .integer, false⟩) := by
      rfl
    have wanted : comparand ⟨"id", .eq, some "one"⟩ = some "one" := by rfl
    have uncoerced : context.coerce "one" .integer = none := by decide +kernel
    simp [compileTest, wanted, isDecidedBy, found, nodeOfTest, uncoerced, bind, Except.bind]
  have titles : compileTest context ⟨"title", .eq, some "News"⟩ =
    .ok (.test title (.equal (.text "News"))) := by rfl
  have kinds : compileTest context ⟨"details.kind", .ne, some "x"⟩ =
    .ok (.test kind (.notEqual (.text "x"))) := by rfl
  rw [compileFilter_some, filter]
  simp only [Formula.compare, compileFormula_group, compileFormula_atom, List.mapM_cons,
    List.mapM_nil, dropped, never, titles, kinds]
  rfl

private theorem holds_news : node.holds context.coerce news = .ok true := by
  rfl

private theorem holds_draft : node.holds context.coerce draft = .error
    (.undecodable "details.kind") := by
  have unread : Path.decoded "details.kind" (.text "?") = .error (.undecodable "details.kind") := by
    have broken : (Json.Reader.read "?").isNone := by decide +kernel
    rw [Path.decoded, Option.isNone_iff_eq_none.1 broken]
  have values : kind.values draft = .error (.undecodable "details.kind") := by
    have document : Path.advance "details.kind" [some draft] (.field "details") =
      .ok [some (.text "?")] := by rfl
    have key : Path.advance "details.kind" [some (.text "?")] (.key "kind" true) =
        .error (.undecodable "details.kind") := by
      simp [Path.advance, Path.Step.follow, unread, bind, Except.bind]
    simp [Accessor.values, kind, document, key, bind, Except.bind]
  have titles : holdsAt context.coerce draft title (.equal (.text "News")) = .ok false := by rfl
  have kinds : holdsAt context.coerce draft kind (.notEqual (.text "x")) =
      .error (.undecodable "details.kind") := by
    rw [holdsAt, values]
    rfl
  simp [node, Node.holds, holdAll, holdsAny, titles, kinds, bind, Except.bind]

end Unreadable

/-- The title makes the filter true of the one article, whatever its details are; of the other
article they decide. -/
theorem unreadable_details_settled :
    Unreadable.context.Built ∧ ∃ predicate,
      compileFilter Unreadable.context (some Unreadable.filter) = .ok predicate ∧
      predicate.test Unreadable.news = .ok true ∧
        (∀ c, Unreadable.filter.MayBe (answer Unreadable.context Unreadable.news) c ↔ c = true) ∧
          ∃ test ∈ Unreadable.filter.tests,
            answer Unreadable.context Unreadable.draft test =
              .error (.undecodable "details.kind") := by
  have compiled := Unreadable.compileFilter_filter
  obtain ⟨values, -⟩ := test_settles compiled Unreadable.news
  obtain ⟨-, failures⟩ := test_settles compiled Unreadable.draft
  exact ⟨Unreadable.context_built, _, compiled, Unreadable.holds_news,
    (values true Unreadable.holds_news).1, failures _ Unreadable.holds_draft⟩

end FilterQuery.Memory
