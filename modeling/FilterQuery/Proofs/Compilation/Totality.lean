import FilterQuery.Proofs.Compilation.Agreement
import FilterQuery.Proofs.Query.RoundTrip
import FilterQuery.Proofs.Registry.Construction

set_option autoImplicit false
set_option relaxedAutoImplicit false

/-!
What of a query that was read from a text can be refused, whatever it asks of which root. The paths
of its filter have no empty segments, and a comparison that cannot be made is no restriction, so for
rows only a sort key can be: the first one that leads nowhere or through a collection. For records a
pattern without a regular expression is refused too.
-/

namespace FilterQuery.Compilation

open FilterQuery.Filter (Comparison Formula)
open FilterQuery.Query (IsClause IsConjunction IsKey IsPath IsTest)
open FilterQuery.Relational (compileOptional compileTest)
open FilterQuery.Relational.Path (crossesCollection)
open FilterQuery.Text.Split (segments)

private theorem segments_of_isPath {path : String} (proper : IsPath path.toList) :
    ∀ segment ∈ segments '.' path, segment.isEmpty = false := by
  have named := List.all_eq_true.1 (Query.isPath_iff.2 proper)
  intro segment member
  obtain ⟨piece, inside, rfl⟩ := List.mem_map.1 member
  cases piece with
  | nil => cases named [] inside
  | cons c piece => simp

private theorem exists_locate (context : Context) {path : String} (proper : IsPath path.toList) :
    ∃ found, context.locate path = .ok found := by
  unfold Context.locate locate
  cases found : route? context.schema context.registry context.root (segments '.' path) with
  | none => exact ⟨none, rfl⟩
  | some route =>
    have filled : ¬route.keys.any (·.isEmpty) = true := by
      rw [List.any_eq_true]
      rintro ⟨key, member, empty⟩
      rw [segments_of_isPath proper key (mem_of_mem_keys found key member)] at empty
      cases empty
    exact ⟨some route, if_neg filled⟩

private theorem isPath_of_isKey {key : String} (proper : IsKey key.toList) :
    IsPath (sortKey key).1.toList := by
  unfold sortKey
  split
  · next path hyphen =>
    rw [hyphen] at proper
    rw [String.toList_ofList]
    rcases proper with proper | ⟨_, proper, same⟩
    · exact absurd (List.mem_cons_self ..) (proper.not_mem (by decide))
    · exact (List.cons.inj same).2 ▸ proper
  · next plain =>
    rcases proper with proper | ⟨path, _, hyphen⟩
    · exact proper
    · exact absurd hyphen (plain path)

private theorem isTest_of_isClause {filter : Formula} (clause : IsClause filter) :
    ∀ test ∈ filter.tests, IsTest test := by
  cases clause with
  | one proper => simpa using proper
  | several _ proper _ =>
    rw [Formula.tests_group, List.flatMap_map]
    simpa using proper

private theorem isTest_of_isConjunction {filter : Formula} (proper : IsConjunction filter) :
    ∀ test ∈ filter.tests, IsTest test := by
  cases proper with
  | one clause => exact isTest_of_isClause clause
  | several _ each =>
    intro test member
    rw [Formula.tests_group] at member
    obtain ⟨part, inside, here⟩ := List.mem_flatMap.1 member
    exact isTest_of_isClause (each part inside) test here

private theorem exists_compileTest (context : Context) {test : Comparison}
    (proper : IsPath test.path.toList) :
    ∃ compiled, compileTest context test = .ok compiled := by
  obtain ⟨found, located⟩ := exists_locate context proper
  rw [Relational.compileTest_eq, located]
  split
  · exact ⟨_, rfl⟩
  · exact ⟨_, rfl⟩

private theorem restrictionOf_of_canonical (context : Context) {query : Query}
    (canonical : query.Canonical) {filter : Formula} (given : query.filter = some filter) :
    ∃ condition, Relational.restrictionOf context filter = .ok condition := by
  have tests := isTest_of_isConjunction (canonical.filter filter given)
  exact Relational.exists_restriction fun test member =>
    exists_compileTest context (tests test member).path

private theorem compileOptional_of_canonical (context : Context) {query : Query}
    (canonical : query.Canonical) :
    ∃ compiled, compileOptional context query.filter = .ok compiled := by
  cases given : query.filter with
  | none => exact ⟨_, rfl⟩
  | some filter =>
    obtain ⟨condition, made⟩ := restrictionOf_of_canonical context canonical given
    obtain ⟨compiled, made, -⟩ := map_eq_ok_iff.1 made
    exact ⟨compiled, made⟩

variable {context : Context}

def Sortable (context : Context) (key : String) : Prop :=
  ∃ target, Relational.Path.resolve context.schema context.registry context.root (sortKey key).1 =
    .ok (some target) ∧
    crossesCollection target.joins = false

/-- Why a sort key is refused: its path leads nowhere, or through a collection. -/
inductive KeyFault (context : Context) (key : String) : Error → Prop
  | unknown (nowhere : Relational.Path.resolve context.schema context.registry context.root
      (sortKey key).1 = .ok none) :
    KeyFault context key (.unknownAttribute context.root.name (sortKey key).1)
  | unsortable {target : Relational.Path.Target}
    (found : Relational.Path.resolve context.schema context.registry context.root (sortKey key).1 =
      .ok (some target))
    (many : crossesCollection target.joins = true) :
      KeyFault context key (.unsortable context.root.name (sortKey key).1)

/-- Why the first sort key that is not sortable is refused. -/
def FirstFault (context : Context) (keys : List String) (e : Error) : Prop :=
  ∃ before key after, keys = before ++ key :: after ∧ (∀ other ∈ before, Sortable context other) ∧
    KeyFault context key e

private theorem exists_sortKey_iff {key : String} :
    (∃ compiled, Relational.compileSortKey context key = .ok compiled) ↔ Sortable context key := by
  unfold Sortable
  rw [Relational.compileSortKey_eq, context.relational_resolve]
  cases context.locate (sortKey key).1 with
  | error e => simp [Except.bind, Except.map]
  | ok found =>
    cases found with
    | none => simp [Except.bind, Except.map]
    | some route =>
      cases many : route.many <;> simp [many, Except.bind, Except.map,
        Route.crossesCollection_target]

private theorem sortKey_error_iff {key : String} (proper : IsKey key.toList) {e : Error} :
    Relational.compileSortKey context key = .error e ↔ KeyFault context key e := by
  obtain ⟨found, located⟩ := exists_locate context (isPath_of_isKey proper)
  have resolved := context.relational_resolve (sortKey key).1
  rw [Relational.compileSortKey_eq, located]
  rw [located] at resolved
  constructor
  · intro failed
    cases found with
    | none =>
      cases failed
      exact .unknown resolved
    | some route =>
      cases many : route.many with
      | true =>
        simp only [Except.bind, many, if_true] at failed
        cases failed
        exact .unsortable resolved ((route.crossesCollection_target _).trans many)
      | false => simp [Except.bind, many] at failed
  · intro fault
    cases found with
    | none =>
      cases fault with
      | unknown _ => rfl
      | unsortable leads _ => cases resolved.symm.trans leads
    | some route =>
      cases fault with
      | unknown nowhere => cases resolved.symm.trans nowhere
      | unsortable leads many =>
        cases resolved.symm.trans leads
        exact if_pos ((route.crossesCollection_target _).symm.trans many)

private theorem sortKeys_error_iff {keys : List String} (proper : ∀ key ∈ keys, IsKey key.toList)
    {e : Error} :
    keys.mapM (Relational.compileSortKey context) = .error e ↔ FirstFault context keys e := by
  rw [mapM_eq_error_iff]
  unfold FirstFault
  simp only [exists_sortKey_iff]
  constructor
  · rintro ⟨before, key, after, rfl, sortable, failed⟩
    exact ⟨before, key, after, rfl, sortable, (sortKey_error_iff (proper key (by simp))).1 failed⟩
  · rintro ⟨before, key, after, rfl, sortable, fault⟩
    exact ⟨before, key, after, rfl, sortable, (sortKey_error_iff (proper key (by simp))).2 fault⟩

private theorem compileSort_error_iff (built : context.Built) {keys : List String}
    (proper : ∀ key ∈ keys, IsKey key.toList) {e : Error} :
    Memory.compileSort context keys = .error e ↔ FirstFault context keys e := by
  have alike := Alike.mapM fun key (_ : key ∈ keys) => compileSortKey_alike built key
  exact (alike.error_iff e).symm.trans (sortKeys_error_iff proper)

private theorem compileFilter_error_iff (built : context.Built) {query : Query}
    (canonical : query.Canonical) {e : Error} :
    Memory.compileFilter context query.filter = .error e ↔
      PatternRefused context query.filter e := by
  refine ⟨fun failed => ?_, compileFilter_of_patternRefused built⟩
  cases given : query.filter with
  | none =>
    rw [given] at failed
    cases failed
  | some filter =>
    obtain ⟨condition, made⟩ := restrictionOf_of_canonical context canonical given
    rw [given, Memory.compileFilter_some] at failed
    exact (compileFormula_error_iff built made e).1 (map_eq_error_iff.1 failed)

private theorem compile_error_iff (built : context.Built) {query : Query}
    (canonical : query.Canonical) {e : Error} :
    Relational.compile context query = .error e ↔ FirstFault context query.sorts e := by
  obtain ⟨identifier, identified⟩ := Option.isSome_iff_exists.1 built.identifier?_isSome
  obtain ⟨compiled, made⟩ := compileOptional_of_canonical context canonical
  rw [Relational.compile_eq identified, made, ← sortKeys_error_iff canonical.sorts]
  exact map_eq_error_iff

private theorem not_firstFault_nil {e : Error} : ¬FirstFault context [] e := by
  rintro ⟨before, key, after, parts, -⟩
  simp at parts

/-- For every entity of a schema, every way to coerce values, all settings and every engine for
regular expressions, the registry of the entity is built, and what a text says is refused over it
for few reasons. For records the filter is refused just if a pattern is, with the first one that is.
For rows the filter never is, and both compilers fail with the fault of the first sort key whose
path leads nowhere or through a collection. So a query without sort keys compiles for rows, and has
an order for records. -/
theorem read_compiles (schema : Schema) (root : String) (coerce : Scalar.Coercion)
    (settings : Settings) (caseSensitive : Bool) (refusal : List Char → Option String)
    (text : String) (query : Query) (known : (schema.entity? root).isSome = true)
    (said : Query.Reader.read text = .ok query) :
    ∃ registry made, Registry.build schema root = .ok registry ∧
      Context.ofRegistry schema registry coerce settings refusal = .ok made ∧
        let context := { made with caseSensitive := caseSensitive }
        (∀ e, Memory.compileFilter context query.filter = .error e ↔
          PatternRefused context query.filter e) ∧
          (∀ e, Relational.compile context query = .error e ↔ FirstFault context query.sorts e) ∧
          (∀ e, Memory.compileSort context query.sorts = .error e ↔
            FirstFault context query.sorts e) ∧
          (query.sorts = [] → (∃ plan, Relational.compile context query = .ok plan) ∧
            ∃ keys, Memory.compileSort context query.sorts = .ok keys) := by
  have canonical := Query.canonical_of_says (Query.read_eq_ok_iff.1 said)
  obtain ⟨registry, built⟩ := Registry.exists_build_iff.2 (Option.isSome_iff_exists.1 known)
  obtain ⟨made, hmade, sound⟩ := Context.ofRegistry_of_build built coerce settings refusal
  refine ⟨registry, made, built, hmade, ?_⟩
  intro context
  have overridden : context.Built := ⟨sound.registry, sound.root⟩
  have rows : ∀ e, Relational.compile context query = .error e ↔ FirstFault context query.sorts e :=
    fun e => compile_error_iff overridden canonical
  have records : ∀ e, Memory.compileSort context query.sorts = .error e ↔
      FirstFault context query.sorts e :=
    fun e => compileSort_error_iff overridden canonical.sorts
  refine ⟨fun e => compileFilter_error_iff overridden canonical, rows, records, fun unsorted => ?_⟩
  rw [unsorted] at rows records ⊢
  exact ⟨exists_ok_iff.2 fun e failed => not_firstFault_nil ((rows e).1 failed),
    exists_ok_iff.2 fun e failed => not_firstFault_nil ((records e).1 failed)⟩

/-- Articles of some titles, by title first, then by what has several values for one article, then
by nothing known. -/
def byComments : Query :=
  ⟨some (.compare "title" .like "A%"), [], ["-title", "comments.body", "nobody"], none, none⟩

private theorem byComments_canonical : byComments.Canonical := by
  constructor
  · rintro _ ⟨⟩
    exact .one (.one ⟨by decide, trivial, by decide⟩)
  · nofun
  · exact List.forall_mem_cons.2 ⟨.inr ⟨"title".toList, by decide, rfl⟩,
      List.forall_mem_cons.2 ⟨.inl (by decide), List.forall_mem_singleton.2 (.inl (by decide))⟩⟩
  · nofun
  · nofun

private theorem not_patternRefused_byComments (e : Error) :
    ¬PatternRefused Blog.context byComments.filter e := by
  rintro ⟨_, before, test, after, ⟨⟩, whole, -, fault⟩
  have member : test ∈ [Comparison.mk "title" .like (some "A%")] := by
    change test ∈ (Formula.compare "title" .like "A%").tests
    rw [whole]
    simp
  have passes : Memory.patternFault? Blog.context ⟨"title", .like, some "A%"⟩ = none := by rfl
  rw [List.mem_singleton.1 member, passes] at fault
  cases fault

/-- The first fault counts: the key that is sortable passes, and the one after the comments is not
looked at. -/
theorem byComments_refused :
    Query.Reader.read byComments.write = .ok byComments ∧
      (∃ predicate, Memory.compileFilter Blog.context byComments.filter = .ok predicate) ∧
      Relational.compile Blog.context byComments = .error (.unsortable "Article" "comments.body") ∧
      Memory.compileSort Blog.context byComments.sorts =
        .error (.unsortable "Article" "comments.body") := by
  have said := Query.read_eq_ok_iff.2 (Query.says_write byComments_canonical)
  obtain ⟨registry, made, built, hmade, filter, rows, records, -⟩ :=
    read_compiles Blog.schema "Article" Scalar.Coerce.coerce .default true Like.refusal
      byComments.write byComments (by rfl) said
  obtain rfl : registry = Blog.registry := Except.ok.inj (built.symm.trans Blog.build_eq)
  obtain rfl : made = Blog.context := Except.ok.inj (hmade.symm.trans Blog.ofRegistry_eq)
  have fault : FirstFault Blog.context byComments.sorts
      (.unsortable "Article" "comments.body") := by
    refine ⟨["-title"], "comments.body", ["nobody"], rfl, ?_, ?_⟩
    · exact List.forall_mem_singleton.2 ⟨⟨.column "articles" "title", .text, []⟩, by rfl, by rfl⟩
    · exact .unsortable (by rfl) (by rfl)
  have compiles : ∃ predicate, Memory.compileFilter Blog.context byComments.filter =
      .ok predicate :=
    exists_ok_iff.2 fun e failed => not_patternRefused_byComments e ((filter e).1 failed)
  exact ⟨said, compiles, (rows _).2 fault, (records _).2 fault⟩

private theorem byTitleOfLength_canonical {n : Nat} (positive : 0 < n) :
    (byTitleOfLength n).Canonical := by
  have letters : ∀ c ∈ (String.ofList (Like.ofLength n)).toList, c = '_' := by
    rw [String.toList_ofList]
    exact fun c => List.eq_of_mem_replicate
  have filled : String.ofList (Like.ofLength n) ≠ "" := by
    intro empty
    have none : Like.ofLength n = [] := by
      rw [← String.toList_ofList (l := Like.ofLength n), empty]
      rfl
    exact absurd ((List.replicate_eq_nil_iff _).1 none) (by omega)
  constructor
  · rintro _ ⟨⟩
    have path : IsPath "title".toList := by decide
    have word := ofLength_ne_nullWord n
    refine .one (.one ⟨path, trivial, filled, fun amp => ?_, fun comma => ?_, word⟩)
    · exact absurd (letters _ amp) (by decide)
    · exact absurd (letters _ comma) (by decide)
  · nofun
  · nofun
  · nofun
  · nofun

private theorem write_byTitleOfLength (n : Nat) :
    (byTitleOfLength n).write = "filter[title][LIKE]=" ++ String.ofList (Like.ofLength n) := by
  have alone : ∀ separator (text : List Char), List.intercalate [separator] [text] = text :=
    fun separator text => by simp [List.intercalate]
  have clauses : (byTitleOfLength n).clauses = [.filter (.atom (titleOfLength n))] := rfl
  have value : Query.operandText (titleOfLength n).value = Like.ofLength n := String.toList_ofList
  have written : Query.written (.filter (.atom (titleOfLength n))) =
      Query.writtenTests [titleOfLength n] := congrArg Query.writtenTests (Formula.tests_atom _)
  have key : "filter".toList ++ (Query.inBrackets "title".toList ++
      Query.operatorText (some "LIKE".toList)) =
      "filter[title][LIKE]".toList := by decide
  have parts : Query.writtenTests [titleOfLength n] =
      ("filter[title][LIKE]".toList, Like.ofLength n) :=
    Prod.ext key ((alone ',' _).trans value)
  have clause : Query.writeClause (.filter (.atom (titleOfLength n))) =
      "filter[title][LIKE]".toList ++ '=' :: Like.ofLength n := by
    unfold Query.writeClause
    rw [written, parts]
  have start : "filter[title][LIKE]=" = String.ofList ("filter[title][LIKE]".toList ++ ['=']) := by
    decide
  rw [Query.write, clauses, List.map_singleton, clause, alone, start, ← String.ofList_append,
    List.append_assoc, List.singleton_append]

/-- A text may ask for the titles of a hundred thousand characters, and it sorts by nothing. -/
theorem long_titles_refused :
    Query.Reader.read ("filter[title][LIKE]=" ++ String.ofList (Like.ofLength 100000)) =
      .ok (byTitleOfLength 100000) ∧
      (byTitleOfLength 100000).sorts = [] ∧
      ∃ reason, Memory.compileFilter Blog.context (byTitleOfLength 100000).filter =
        .error (.pattern (String.ofList (Like.ofLength 100000)) reason) := by
  obtain ⟨reason, refused⟩ := patternRefused_byTitleOfLength (n := 100000) (by decide)
  refine ⟨?_, rfl, reason, compileFilter_of_patternRefused Blog.context_built refused⟩
  rw [← write_byTitleOfLength]
  exact Query.read_eq_ok_iff.2 (Query.says_write (byTitleOfLength_canonical (by decide)))

end FilterQuery.Compilation
