import FilterQuery.Proofs.Like.Size
import FilterQuery.Proofs.Memory.Node
import FilterQuery.Proofs.Relational.Restriction

set_option autoImplicit false
set_option relaxedAutoImplicit false

/-!
Agreement of both compilers before any row or record is looked at. They drop the same filters, and
their sort keys lead to the same places in the same order. They refuse the same queries for the same
reason, unless a pattern comes first that has no regular expression: a query of such a pattern is
refused for records alone.
-/

namespace FilterQuery.Compilation

open FilterQuery.Filter (Comparison Connective Formula)
open FilterQuery.Memory (Node Predicate patternFault?)
open FilterQuery.Memory.Order (SortKey)
open FilterQuery.Relational (Plan conjunction disjunction restrictionOf)
open FilterQuery.Relational.Path (Target crossesCollection)
open FilterQuery.Sql (Condition Join OrderTerm)

/-- Results that fail with the same error, or succeed with related values. -/
inductive Alike {ε α β : Type} (R : α → β → Prop) : Except ε α → Except ε β → Prop
  | error (e : ε) : Alike R (.error e) (.error e)
  | ok {a : α} {b : β} (related : R a b) : Alike R (.ok a) (.ok b)

/-- Lists of one length whose elements are related position by position. -/
inductive Forall₃ {α β γ : Type} (R : α → β → γ → Prop) : List α → List β → List γ → Prop
  | nil : Forall₃ R [] [] []
  | cons {a : α} {b : β} {c : γ} {as : List α} {bs : List β} {cs : List γ} (head : R a b c)
      (tail : Forall₃ R as bs cs) : Forall₃ R (a :: as) (b :: bs) (c :: cs)

section

variable {ε α β γ δ ζ : Type}

theorem Alike.map {R : α → β → Prop} {S : γ → δ → Prop} {x : Except ε α} {y : Except ε β}
    {f : α → γ} {g : β → δ} (alike : Alike R x y) (h : ∀ a b, R a b → S (f a) (g b)) :
    Alike S (x.map f) (y.map g) := by
  cases alike with
  | error e => exact .error e
  | ok related => exact .ok (h _ _ related)

theorem Alike.mapM {R : ζ → α → β → Prop} {f : ζ → Except ε α} {g : ζ → Except ε β} {xs : List ζ}
    (alike : ∀ x ∈ xs, Alike (R x) (f x) (g x)) : Alike (Forall₃ R xs) (xs.mapM f) (xs.mapM g) := by
  induction xs with
  | nil => exact .ok .nil
  | cons x xs ih =>
    have first := alike x (by simp)
    have others := ih fun y member => alike y (List.mem_cons_of_mem x member)
    rw [List.mapM_cons, List.mapM_cons]
    generalize f x = fx at first ⊢
    generalize g x = gx at first ⊢
    cases first with
    | error e => exact .error e
    | ok related =>
      generalize xs.mapM f = fxs at others ⊢
      generalize xs.mapM g = gxs at others ⊢
      cases others with
      | error e => exact .error e
      | ok rest => exact .ok (.cons related rest)

theorem Alike.error_iff {R : α → β → Prop} {x : Except ε α} {y : Except ε β} (alike : Alike R x y)
    (e : ε) :
    x = .error e ↔ y = .error e := by
  cases alike with
  | error e' => simp
  | ok related => simp

end

def SameRestriction (condition : Option Condition) (node : Node) : Prop :=
  condition = none ↔ node.isAlways = true

variable {context : Context} {nodes : List Node}

theorem isAlways_and : (Memory.group .and nodes).isAlways = true ↔
    ∀ n ∈ nodes, n.isAlways = true := by
  change (if (nodes.filter (!·.isAlways)).isEmpty then Node.always
    else Node.all (nodes.filter (!·.isAlways))).isAlways = true ↔ _
  cases h : nodes.filter (!·.isAlways) with
  | nil =>
    have all := List.filter_eq_nil_iff.1 h
    exact ⟨fun _ n member => by simpa using all n member, fun _ => rfl⟩
  | cons first rest =>
    have member : first ∈ nodes.filter (!·.isAlways) := by rw [h]; simp
    obtain ⟨inside, restricting⟩ := List.mem_filter.1 member
    constructor
    · exact nofun
    · intro all
      simp [all first inside] at restricting

theorem isAlways_or : (Memory.group .or nodes).isAlways = true ↔
    ∃ n ∈ nodes, n.isAlways = true := by
  cases nodes with
  | nil => simp [Memory.group, Node.isAlways]
  | cons node nodes =>
    change (if (node :: nodes).any (·.isAlways) then Node.always
      else Node.any (node :: nodes)).isAlways = true ↔ _
    split
    · rename_i found
      exact ⟨fun _ => List.any_eq_true.1 found, fun _ => rfl⟩
    · rename_i missing
      exact ⟨nofun, fun found => absurd (List.any_eq_true.2 found) missing⟩

private theorem sameRestriction_group (connective : Connective) {parts : List Formula}
    {conditions : List (Option Condition)}
    (each : Forall₃ (fun _ => SameRestriction) parts conditions nodes) :
    SameRestriction
      (match connective with
        | .and => conjunction conditions
        | .or => disjunction conditions)
      (Memory.group connective nodes) := by
  cases connective with
  | and =>
    unfold SameRestriction
    rw [Relational.conjunction_eq_none, isAlways_and]
    induction each with
    | nil => simp
    | cons head tail ih =>
      simp only [List.forall_mem_cons]
      exact and_congr head ih
  | or =>
    unfold SameRestriction
    rw [Relational.disjunction_eq_none, isAlways_or]
    induction each with
    | nil => simp
    | cons head tail ih =>
      simp only [List.mem_cons, exists_eq_or_imp]
      exact or_congr (eq_comm.trans head) ih

theorem compileTest_error_iff (built : context.Built) (test : Comparison) (e : Error) :
    Memory.compileTest context test = .error e ↔
      Relational.compileTest context test = .error e ∨ patternFault? context test = some e := by
  rw [Relational.compileTest_eq, Memory.compileTest_eq built]
  cases comparable : Relational.isComparable (comparand test) test.operator with
  | false => simp [Memory.patternFault?_eq_none comparable]
  | true =>
    cases located : context.locate test.path with
    | error e' =>
      have pathless : patternFault? context test = none := by rw [patternFault?, located]
      simp [pathless, Except.map]
    | ok found => cases patternFault? context test <;> simp [Except.map]

theorem patternFault?_of_ok (built : context.Built) {test : Comparison} {node : Node}
    (made : Memory.compileTest context test = .ok node) : patternFault? context test = none := by
  cases refused : patternFault? context test with
  | none => rfl
  | some e => cases made.symm.trans ((compileTest_error_iff built test e).2 (.inr refused))

private theorem relational_compileTest_of_ok (built : context.Built) {test : Comparison}
    {node : Node} (made : Memory.compileTest context test = .ok node) :
    ∃ compiled, Relational.compileTest context test = .ok compiled := by
  rw [exists_ok_iff]
  intro e failed
  cases made.symm.trans ((compileTest_error_iff built test e).2 (.inl failed))

theorem compileTest_alike (built : context.Built) {test : Comparison}
    (unrefused : patternFault? context test = none) :
    Alike SameRestriction ((Relational.compileTest context test).map (Option.map (·.1)))
      (Memory.compileTest context test) := by
  rw [Relational.compileTest_eq, Memory.compileTest_eq built, unrefused]
  cases Relational.isComparable (comparand test) test.operator with
  | false => exact .ok (by simp [SameRestriction, Node.isAlways])
  | true =>
    cases context.locate test.path with
    | error e => exact .error e
    | ok found =>
      cases found with
      | none => exact .ok (by simp [SameRestriction, Node.isAlways])
      | some route => exact .ok (by simp [SameRestriction, Memory.isAlways_nodeAsking])

/-- Where no pattern is refused, both compilers refuse a filter alike, and find it no restriction
alike. -/
theorem compileFormula_alike (built : context.Built) {filter : Formula}
    (unrefused : ∀ test ∈ filter.tests, patternFault? context test = none) :
    Alike SameRestriction (restrictionOf context filter)
      (Memory.compileFormula context filter) := by
  induction filter using Formula.induction with
  | atom test =>
    rw [Relational.restrictionOf_atom, Memory.compileFormula_atom]
    exact compileTest_alike built (unrefused test (by simp))
  | group connective parts ih =>
    have each : Alike (Forall₃ (fun _ => SameRestriction) parts)
        (parts.mapM (restrictionOf context))
        (parts.mapM (Memory.compileFormula context)) := by
      refine Alike.mapM fun part member => ih part member fun test here => unrefused test ?_
      rw [Formula.tests_group]
      exact List.mem_flatMap.2 ⟨part, member, here⟩
    rw [Memory.compileFormula_group]
    cases connective with
    | and =>
      rw [Relational.restrictionOf_and]
      exact each.map fun _ _ => sameRestriction_group .and
    | or =>
      rw [Relational.restrictionOf_or]
      exact each.map fun _ _ => sameRestriction_group .or

/-- A filter is refused for records because of a pattern: the first of its comparisons that is
refused is refused for its pattern. -/
def PatternRefused (context : Context) (filter : Option Formula) (e : Error) : Prop :=
  ∃ formula before test after, filter = some formula ∧ formula.tests = before ++ test :: after ∧
    (∀ other ∈ before, ∃ node, Memory.compileTest context other = .ok node) ∧
      patternFault? context test = some e

private theorem compileFormula_of_patternRefused (built : context.Built) {filter : Formula}
    {e : Error} (refused : PatternRefused context (some filter) e) :
    Memory.compileFormula context filter = .error e := by
  obtain ⟨_, before, test, after, ⟨⟩, whole, passed, fault⟩ := refused
  rw [Memory.compileFormula_error_iff, mapM_eq_error_iff]
  exact ⟨before, test, after, whole, passed, (compileTest_error_iff built test e).2 (.inr fault)⟩

theorem patternFault?_of_compileFormula_ok (built : context.Built) {filter : Formula} {node : Node}
    (made : Memory.compileFormula context filter = .ok node) :
    ∀ test ∈ filter.tests, patternFault? context test = none := by
  have passes : ∃ nodes, filter.tests.mapM (Memory.compileTest context) = .ok nodes := by
    rw [exists_ok_iff]
    intro e failed
    cases made.symm.trans ((Memory.compileFormula_error_iff filter e).2 failed)
  obtain ⟨nodes, each⟩ := passes
  intro test member
  obtain ⟨node, compiled⟩ := exists_of_mapM_ok each test member
  exact patternFault?_of_ok built compiled

/-- A filter that is refused for records is refused for one of its patterns, or for rows too. -/
theorem patternRefused_or_of_error (built : context.Built) {filter : Formula} {e : Error}
    (failed : Memory.compileFormula context filter = .error e) :
    PatternRefused context (some filter) e ∨ restrictionOf context filter = .error e := by
  obtain ⟨before, test, after, whole, passed, here⟩ :=
    mapM_eq_error_iff.1 ((Memory.compileFormula_error_iff filter e).1 failed)
  rcases (compileTest_error_iff built test e).1 here with path | pattern
  · right
    rw [Relational.restrictionOf_error_iff, mapM_eq_error_iff]
    refine ⟨before, test, after, whole, fun other member => ?_, path⟩
    obtain ⟨node, made⟩ := passed other member
    exact relational_compileTest_of_ok built made
  · exact .inl ⟨filter, before, test, after, rfl, whole, passed, pattern⟩

theorem compileFormula_error_iff (built : context.Built) {filter : Formula}
    {condition : Option Condition} (made : restrictionOf context filter = .ok condition)
    (e : Error) :
    Memory.compileFormula context filter = .error e ↔ PatternRefused context (some filter) e := by
  refine ⟨fun failed => ?_, compileFormula_of_patternRefused built⟩
  rcases patternRefused_or_of_error built failed with refused | failed
  · exact refused
  · cases made.symm.trans failed

theorem exists_node_iff (built : context.Built) {filter : Formula} {condition : Option Condition}
    (made : restrictionOf context filter = .ok condition) :
    (∃ node, Memory.compileFormula context filter = .ok node) ↔
      ∀ test ∈ filter.tests, patternFault? context test = none := by
  refine ⟨fun ⟨node, compiled⟩ => patternFault?_of_compileFormula_ok built compiled,
    fun unrefused => ?_⟩
  rw [exists_ok_iff]
  intro e failed
  obtain ⟨_, before, test, after, ⟨⟩, whole, -, fault⟩ :=
    (compileFormula_error_iff built made e).1 failed
  rw [unrefused test (by rw [whole]; simp)] at fault
  cases fault

private theorem compileFormula_alike_of_not_refused (built : context.Built) {filter : Formula}
    (unrefused : ∀ e, ¬PatternRefused context (some filter) e) :
    Alike SameRestriction (restrictionOf context filter)
      (Memory.compileFormula context filter) := by
  cases made : Memory.compileFormula context filter with
  | ok node =>
    rw [← made]
    exact compileFormula_alike built (patternFault?_of_compileFormula_ok built made)
  | error e =>
    rcases patternRefused_or_of_error built made with refused | failed
    · exact absurd refused (unrefused e)
    · rw [failed]
      exact .error e

/-- An order of rows and an order of records that belong to one sort key: both follow one route to a
value of one type, in one direction, and ignore letter case alike. -/
structure SameKey (context : Context) (key : String) (route : Route) (target : Target)
    (term : OrderTerm) (sort : SortKey) : Prop where
  located : context.locate (sortKey key).1 = .ok (some route)
  resolved : Relational.Path.resolve context.schema context.registry context.root (sortKey key).1 =
    .ok (some target)
  column : target.expr = route.expr context.root.table
  steps : sort.accessor.steps = route.steps
  kind : target.kind = sort.accessor.kind
  direction : term.descending = sort.descending
  folding : term.expr = if sort.ignoreCase then .lower target.expr else target.expr

/-- An order of rows and an order of records that belong to one sort key, by some route. -/
def SameOrder (context : Context) (key : String) (term : OrderTerm) (sort : SortKey) : Prop :=
  ∃ route target, SameKey context key route target term sort

theorem compileSortKey_alike (built : context.Built) (key : String) :
    Alike (fun compiled sort => SameOrder context key compiled.1 sort)
      (Relational.compileSortKey context key)
      (Memory.compileSortKey context key) := by
  unfold Memory.compileSortKey
  have toColumn := context.relational_resolve (sortKey key).1
  rw [Relational.compileSortKey_eq]
  simp only [built.memory_resolve]
  cases located : context.locate (sortKey key).1 with
  | error e => exact .error e
  | ok found =>
    rw [located] at toColumn
    cases found with
    | none => exact .error _
    | some route =>
      change Alike _ (if route.many then _ else _) (if (route.accessor _).many then _ else _)
      have same : (route.accessor (sortKey key).1).many = route.many := rfl
      rw [same]
      cases route.many with
      | true => exact .error _
      | false =>
        exact .ok ⟨route, route.target context.root.table, located, toColumn, rfl, rfl,
          rfl, rfl, rfl⟩

/-- The filter and then the sort keys of a query, compiled for records. -/
def compileForRecords (context : Context) (query : Query) :
    Except Error (Predicate × List SortKey) := do
  let predicate ← Memory.compileFilter context query.filter
  let keys ← Memory.compileSort context query.sorts
  return (predicate, keys)

def SameResult (context : Context) (query : Query) (plan : Plan)
    (compiled : Predicate × List SortKey) : Prop :=
  (plan.condition = none ↔ compiled.1.isUnrestricted = true) ∧
    Forall₃ (SameOrder context) query.sorts plan.orders compiled.2

private theorem forall₃_map {sorts : List String} {terms : List (OrderTerm × List Join)}
    {keys : List SortKey}
    (each : Forall₃ (fun key compiled sort => SameOrder context key compiled.1 sort)
      sorts terms keys) :
    Forall₃ (SameOrder context) sorts (terms.map (·.1)) keys := by
  induction each with
  | nil => exact .nil
  | cons head tail ih => exact .cons head ih

private theorem compileOptional_alike (built : context.Built) {filter : Option Formula}
    (unrefused : ∀ e, ¬PatternRefused context filter e) :
    Alike (fun compiled predicate => compiled.1 = none ↔ predicate.isUnrestricted = true)
      (Relational.compileOptional context filter) (Memory.compileFilter context filter) := by
  cases filter with
  | none => exact .ok (by simp [Predicate.isUnrestricted, Node.isAlways])
  | some filter =>
    have alike := compileFormula_alike_of_not_refused built unrefused
    unfold Relational.restrictionOf at alike
    rw [Memory.compileFilter_some, Relational.compileOptional]
    generalize Relational.compileFilter context filter [] = forRows at alike ⊢
    generalize Memory.compileFormula context filter = forRecords at alike ⊢
    cases forRows with
    | error e => cases alike; exact .error e
    | ok compiled => cases alike with | ok related => exact .ok related

theorem compileFilter_of_patternRefused (built : context.Built) {filter : Option Formula}
    {e : Error} (refused : PatternRefused context filter e) :
    Memory.compileFilter context filter = .error e := by
  obtain ⟨formula, _, _, _, rfl, _⟩ := id refused
  rw [Memory.compileFilter_some, compileFormula_of_patternRefused built refused]
  rfl

private theorem compile_alike (built : context.Built) {query : Query}
    (unrefused : ∀ e, ¬PatternRefused context query.filter e) :
    Alike (SameResult context query) (Relational.compile context query)
      (compileForRecords context query) := by
  obtain ⟨identifier, identified⟩ := Option.isSome_iff_exists.1 built.identifier?_isSome
  have filters := compileOptional_alike built unrefused
  have sorts : Alike (Forall₃ (fun key compiled sort =>
      SameOrder context key compiled.1 sort) query.sorts)
      (query.sorts.mapM (Relational.compileSortKey context))
        (query.sorts.mapM (Memory.compileSortKey context)) :=
    Alike.mapM fun key _ => compileSortKey_alike built key
  rw [Relational.compile_eq identified]
  unfold compileForRecords Memory.compileSort
  generalize Relational.compileOptional context query.filter = forRows at filters ⊢
  generalize Memory.compileFilter context query.filter = forRecords at filters ⊢
  cases filters with
  | error e => exact .error e
  | ok restricted =>
    generalize query.sorts.mapM (Relational.compileSortKey context) = terms at sorts ⊢
    generalize query.sorts.mapM (Memory.compileSortKey context) = keys at sorts ⊢
    cases sorts with
    | error e => exact .error e
    | ok each => exact .ok ⟨restricted, forall₃_map each⟩

private theorem compileForRecords_of_patternRefused (built : context.Built) {query : Query}
    {e : Error} (refused : PatternRefused context query.filter e) :
    compileForRecords context query = .error e := by
  unfold compileForRecords
  rw [compileFilter_of_patternRefused built refused]
  rfl

private theorem not_patternRefused_of_ok (built : context.Built) {query : Query}
    {compiled : Predicate × List SortKey} (made : compileForRecords context query = .ok compiled)
    (e : Error) : ¬PatternRefused context query.filter e := by
  intro refused
  cases made.symm.trans (compileForRecords_of_patternRefused built refused)

private theorem exists_pattern_of_patternRefused {filter : Option Formula} {e : Error}
    (refused : PatternRefused context filter e) :
    ∃ raw reason, e = .pattern raw reason := by
  obtain ⟨_, _, test, _, -, -, -, fault⟩ := refused
  unfold patternFault? at fault
  split at fault
  · unfold Memory.patternRefusal? at fault
    split at fault
    · obtain ⟨reason, -, rfl⟩ := Option.map_eq_some_iff.1 fault
      exact ⟨_, reason, rfl⟩
    · obtain ⟨reason, -, rfl⟩ := Option.map_eq_some_iff.1 fault
      exact ⟨_, reason, rfl⟩
    · cases fault
  · cases fault

private theorem locate_ne_pattern (path raw reason : String) :
    context.locate path ≠ .error (.pattern raw reason) := by
  unfold Context.locate locate
  split
  · exact nofun
  · split <;> exact nofun

private theorem compileTest_ne_pattern (test : Comparison) (raw reason : String) :
    Relational.compileTest context test ≠ .error (.pattern raw reason) := by
  rw [Relational.compileTest_eq]
  split
  · exact fun failed => locate_ne_pattern _ _ _ (map_eq_error_iff.1 failed)
  · exact nofun

private theorem compileSortKey_ne_pattern (key raw reason : String) :
    Relational.compileSortKey context key ≠ .error (.pattern raw reason) := by
  rw [Relational.compileSortKey_eq]
  cases located : context.locate (sortKey key).1 with
  | error e =>
    rintro ⟨⟩
    exact locate_ne_pattern _ _ _ located
  | ok found =>
    cases found with
    | none => exact nofun
    | some route => cases many : route.many <;> simp [many, Except.bind]

private theorem compile_ne_pattern (built : context.Built) (query : Query) (raw reason : String) :
    Relational.compile context query ≠ .error (.pattern raw reason) := by
  obtain ⟨identifier, identified⟩ := Option.isSome_iff_exists.1 built.identifier?_isSome
  rw [Relational.compile_eq identified]
  cases compiled : Relational.compileOptional context query.filter with
  | error e =>
    rintro ⟨⟩
    cases given : query.filter with
    | none => rw [given] at compiled; cases compiled
    | some filter =>
      rw [given] at compiled
      have failed : restrictionOf context filter = .error (.pattern raw reason) :=
        map_eq_error_iff.2 compiled
      obtain ⟨test, -, here⟩ :=
        exists_of_mapM_error ((Relational.restrictionOf_error_iff filter _).1 failed)
      exact compileTest_ne_pattern test raw reason here
  | ok made =>
    intro failed
    obtain ⟨key, -, here⟩ := exists_of_mapM_error (map_eq_error_iff.1 failed)
    exact compileSortKey_ne_pattern key raw reason here

/-- For every schema and every registry built from it, both compilers can be set up. They refuse a
query with the same error unless it is refused for records because of a pattern; then they do not,
since that is never an error of rows. Where both compile it, they drop its filter alike and order
rows and records by the same values. -/
theorem compile_agrees (schema : Schema) (root : String) (registry : Registry)
    (coerce : Scalar.Coercion) (settings : Settings) (caseSensitive : Bool)
    (refusal : List Char → Option String) (query : Query)
    (built : Registry.build schema root = .ok registry) :
    ∃ made, Context.ofRegistry schema registry coerce settings refusal = .ok made ∧
      let context := { made with caseSensitive := caseSensitive }
      ((∀ e, Relational.compile context query = .error e ↔
        compileForRecords context query = .error e) ↔
          ∀ e, ¬PatternRefused context query.filter e) ∧
        (∀ e, PatternRefused context query.filter e → compileForRecords context query = .error e) ∧
        ∀ plan compiled, Relational.compile context query = .ok plan →
          compileForRecords context query = .ok compiled →
          (plan.condition = none ↔ compiled.1.isUnrestricted = true) ∧
            Forall₃ (SameOrder context) query.sorts plan.orders compiled.2 := by
  obtain ⟨made, hmade, sound⟩ := Context.ofRegistry_of_build built coerce settings refusal
  refine ⟨made, hmade, ?_⟩
  intro context
  have overridden : context.Built := ⟨sound.registry, sound.root⟩
  refine ⟨⟨?_, fun unrefused => (compile_alike overridden unrefused).error_iff⟩,
    fun e => compileForRecords_of_patternRefused overridden, ?_⟩
  · intro agree e refused
    obtain ⟨raw, reason, rfl⟩ := exists_pattern_of_patternRefused refused
    exact compile_ne_pattern overridden query raw reason
      ((agree _).2 (compileForRecords_of_patternRefused overridden refused))
  · intro plan compiled hplan hcompiled
    have alike := compile_alike overridden (not_patternRefused_of_ok overridden hcompiled)
    rw [hplan, hcompiled] at alike
    cases alike with
    | ok related => exact related

/-- Neither compiler sorts articles by their comments. -/
theorem compile_agrees_on_unsortable :
    compileForRecords Blog.context { Query.empty with sorts := ["-title", "comments.body"] } =
      .error (.unsortable "Article" "comments.body") := by
  obtain ⟨made, hmade, ⟨_, agree⟩, _⟩ :=
    compile_agrees Blog.schema "Article" Blog.registry Scalar.Coerce.coerce .default
      true Like.refusal { Query.empty with sorts := ["-title", "comments.body"] } Blog.build_eq
  have same : made = Blog.context := Except.ok.inj (hmade.symm.trans Blog.ofRegistry_eq)
  subst same
  refine (agree ?_ _).1 (by rfl)
  rintro e ⟨_, _, _, _, nothing, _⟩
  cases nothing

def titleOfLength (n : Nat) : Comparison :=
  ⟨"title", .like, some (String.ofList (Like.ofLength n))⟩

theorem ofLength_ne_nullWord (n : Nat) : String.ofList (Like.ofLength n) ≠ nullWord := by
  intro same
  have letters : Like.ofLength n = ['n', 'u', 'l', 'l'] := by
    rw [← String.toList_ofList (l := Like.ofLength n), same]
    rfl
  have first : 'n' ∈ Like.ofLength n := by rw [letters]; simp
  exact absurd (List.eq_of_mem_replicate first) (by decide)

private theorem comparand_titleOfLength (n : Nat) :
    comparand (titleOfLength n) = some (String.ofList (Like.ofLength n)) := by
  unfold comparand titleOfLength
  rw [Option.filter_some, if_pos (by simpa using ofLength_ne_nullWord n)]

theorem locate_title : Blog.context.locate "title" = .ok
    (some ⟨[], ⟨"title", none, .text, false⟩, []⟩) := by
  rfl

private theorem titleOfLength_refused {n : Nat} (long : 10877 < n) :
    ∃ reason, patternFault? Blog.context (titleOfLength n) =
      some (.pattern (String.ofList (Like.ofLength n)) reason) := by
  have refused := Like.refusal_ofLength false n
  rw [decide_eq_true long, Option.isSome_iff_exists] at refused
  obtain ⟨reason, refused⟩ := refused
  refine ⟨reason, ?_⟩
  have located : Blog.context.locate (titleOfLength n).path = _ := locate_title
  rw [Memory.patternFault?_of_located located, comparand_titleOfLength]
  change (Like.refusal (Like.expression false (String.ofList (Like.ofLength n)).toList)).map _ = _
  rw [String.toList_ofList, refused]
  rfl

/-- The query for the articles whose title has some length. -/
def byTitleOfLength (n : Nat) : Query :=
  { Query.empty with filter := some (.atom (titleOfLength n)) }

theorem patternRefused_byTitleOfLength {n : Nat} (long : 10877 < n) :
    ∃ reason, PatternRefused Blog.context (byTitleOfLength n).filter
      (.pattern (String.ofList (Like.ofLength n)) reason) := by
  obtain ⟨reason, refused⟩ := titleOfLength_refused long
  exact ⟨reason, _, [], titleOfLength n, [], rfl, rfl, nofun, refused⟩

private theorem exists_plan_byTitleOfLength (n : Nat) :
    ∃ plan, Relational.compile Blog.context (byTitleOfLength n) = .ok plan := by
  obtain ⟨identifier, identified⟩ :=
    Option.isSome_iff_exists.1 Blog.context_built.identifier?_isSome
  obtain ⟨compiled, made⟩ : ∃ compiled, Relational.compileTest Blog.context (titleOfLength n) =
      .ok compiled := by
    have located : Blog.context.locate (titleOfLength n).path = _ := locate_title
    rw [Relational.compileTest_eq, located]
    split
    · exact ⟨_, rfl⟩
    · exact ⟨_, rfl⟩
  have condition : restrictionOf Blog.context (.atom (titleOfLength n)) =
      .ok (compiled.map (·.1)) := by
    rw [Relational.restrictionOf_atom, made]
    rfl
  obtain ⟨both, filter, -⟩ := map_eq_ok_iff.1 condition
  refine ⟨Relational.planOf Blog.context (byTitleOfLength n) identifier both [], ?_⟩
  rw [Relational.compile_eq identified]
  change (Relational.compileFilter Blog.context (.atom (titleOfLength n)) []).bind _ = _
  rw [filter]
  rfl

/-- The titles of a hundred thousand characters are asked for in rows, and not in records. -/
theorem not_agrees_on_long_titles :
    (∃ plan, Relational.compile Blog.context (byTitleOfLength 100000) = .ok plan) ∧
      ∃ reason, compileForRecords Blog.context (byTitleOfLength 100000) =
        .error (.pattern (String.ofList (Like.ofLength 100000)) reason) := by
  obtain ⟨reason, refused⟩ := patternRefused_byTitleOfLength (n := 100000) (by decide)
  exact ⟨exists_plan_byTitleOfLength 100000, reason,
    compileForRecords_of_patternRefused Blog.context_built refused⟩

end FilterQuery.Compilation
