import FilterQuery.Proofs.Path.Way

set_option autoImplicit false
set_option relaxedAutoImplicit false

/-!
Paths that differ in letter case. Names of relations and attributes are compared by their folded
forms, keys of a document as they are. So a walk reads the same route off two paths that spell the
same names, and what it reaches has the names of the schema, however the paths spell them.
-/

namespace FilterQuery

open FilterQuery.Memory.Path (Step)
open FilterQuery.Relational.Path (Target)
open FilterQuery.Scalar (Kind)
open FilterQuery.Text.Split (segments)

variable {schema : Schema} {registry : Registry} {e : Entity}

/-- How many segments of a path are names: all through the first at which the walk finds an
attribute, and every one if it finds none. What follows are keys. -/
def nameCount (schema : Schema) (registry : Registry) : Entity → List String → Nat
  | _, [] => 0
  | e, segment :: rest =>
    match e.attribute? segment with
    | some _ => 1
    | none =>
      match leg? schema registry e segment with
      | some leg => nameCount schema registry leg.entity rest + 1
      | none => rest.length + 1

/-- Segments that spell the same names, in whatever letter case, and then the same keys. -/
structure SameNames (schema : Schema) (registry : Registry) (e : Entity)
    (first second : List String) : Prop where
  names : List.Forall₂ (fun a b => foldName a = foldName b)
    (first.take (nameCount schema registry e first))
    (second.take (nameCount schema registry e first))
  keys : first.drop (nameCount schema registry e first) =
    second.drop (nameCount schema registry e first)

private theorem Entity.attribute?_congr (e : Entity) {a b : String}
    (same : foldName a = foldName b) :
    e.attribute? a = e.attribute? b := by
  rw [attribute?_eq, attribute?_eq, same]

namespace SameNames

variable {first second rest : List String} {segment : String}

theorem refl (schema : Schema) (registry : Registry) (e : Entity) (path : List String) :
    SameNames schema registry e path path :=
  ⟨List.forall₂_same.2 fun _ _ => rfl, rfl⟩

private theorem nil_eq (same : SameNames schema registry e [] second) : second = [] :=
  same.keys.symm

private theorem nameCount_cons (schema : Schema) (registry : Registry) (e : Entity)
    (segment : String) (rest : List String) :
    ∃ n, nameCount schema registry e (segment :: rest) = n + 1 := by
  rw [nameCount]
  split
  · exact ⟨0, rfl⟩
  · split
    · exact ⟨_, rfl⟩
    · exact ⟨_, rfl⟩

private theorem exists_cons (same : SameNames schema registry e (segment :: rest) second) :
    ∃ other others, second = other :: others ∧ foldName segment = foldName other := by
  obtain ⟨n, counted⟩ := nameCount_cons schema registry e segment rest
  have names := same.names
  rw [counted, List.take_succ_cons] at names
  cases second with
  | nil => cases names
  | cons other others =>
    rw [List.take_succ_cons] at names
    exact ⟨other, others, rfl, (List.forall₂_cons.1 names).1⟩

private theorem rest_of_attribute {a : Attribute} {other : String} {others : List String}
    (same : SameNames schema registry e (segment :: rest) (other :: others))
    (found : e.attribute? segment = some a) :
    rest = others := by
  have counted : nameCount schema registry e (segment :: rest) = 1 := by rw [nameCount, found]
  have keys := same.keys
  rw [counted] at keys
  exact keys

private theorem rest_of_leg {leg : Leg} {other : String} {others : List String}
    (same : SameNames schema registry e (segment :: rest) (other :: others))
    (missing : e.attribute? segment = none) (found : leg? schema registry e segment = some leg) :
    SameNames schema registry leg.entity rest others := by
  have counted : nameCount schema registry e (segment :: rest) =
      nameCount schema registry leg.entity rest + 1 := by
    rw [nameCount, missing]
    dsimp only
    rw [found]
  obtain ⟨names, keys⟩ := same
  rw [counted] at names keys
  rw [List.take_succ_cons, List.take_succ_cons] at names
  exact ⟨(List.forall₂_cons.1 names).2, keys⟩

/-- Both runs of the walk find the same at every step, so they read one route. -/
theorem route?_eq (same : SameNames schema registry e first second) :
    route? schema registry e first = route? schema registry e second := by
  induction first generalizing e second with
  | nil => rw [same.nil_eq]
  | cons segment rest ih =>
    obtain ⟨other, others, rfl, folded⟩ := same.exists_cons
    rw [route?, route?, ← e.attribute?_congr folded, ← leg?_congr folded]
    cases found : e.attribute? segment with
    | some a => rw [same.rest_of_attribute found]
    | none =>
      cases reached : leg? schema registry e segment with
      | none => rfl
      | some leg =>
        dsimp only [Option.bind_some]
        rw [ih (same.rest_of_leg found reached)]

end SameNames

namespace Context

variable {context : Context} {p q : String}

/-- Paths from the root that spell the same names, in whatever letter case, and then the same
keys. -/
def SpelledAlike (context : Context) (p q : String) : Prop :=
  SameNames context.schema context.registry context.root (segments '.' p) (segments '.' q)

/-- Errors that say the same, each of its own spelling of a path. -/
inductive SameFault (context : Context) : Error → Error → Prop
  | same (e : Error) : SameFault context e e
  | emptyKey {p q : String} (alike : context.SpelledAlike p q) :
      SameFault context (.emptyKey p) (.emptyKey q)
  | undecodable {p q : String} (alike : context.SpelledAlike p q) :
      SameFault context (.undecodable p) (.undecodable q)

theorem SpelledAlike.refl (context : Context) (p : String) : context.SpelledAlike p p :=
  SameNames.refl context.schema context.registry context.root (segments '.' p)

theorem SpelledAlike.locate (alike : context.SpelledAlike p q) :
    (∃ route, ∀ path ∈ [p, q], context.locate path = .ok (some route)) ∨
      (∀ path ∈ [p, q], context.locate path = .ok none) ∨
      ∀ path ∈ [p, q], context.locate path = .error (.emptyKey path) := by
  have same : route? context.schema context.registry context.root (segments '.' p) =
      route? context.schema context.registry context.root (segments '.' q) :=
        SameNames.route?_eq alike
  have both : ∀ path ∈ [p, q], route? context.schema context.registry context.root
      (segments '.' path) =
      route? context.schema context.registry context.root (segments '.' p) :=
    List.forall_mem_cons.2 ⟨rfl, List.forall_mem_singleton.2 same.symm⟩
  cases found : route? context.schema context.registry context.root (segments '.' p) with
  | none =>
    refine .inr (.inl fun path member => ?_)
    rw [Context.locate, FilterQuery.locate, both path member, found]
  | some route =>
    cases spoiled : route.keys.any (·.isEmpty) with
    | true =>
      refine .inr (.inr fun path member => ?_)
      rw [Context.locate, FilterQuery.locate, both path member, found]
      exact if_pos spoiled
    | false =>
      refine .inl ⟨route, fun path member => ?_⟩
      rw [Context.locate, FilterQuery.locate, both path member, found]
      exact if_neg (by simp [spoiled])

/-- What two paths resolve to if they resolve alike: to one column over the same joins, and by the
same steps to a value of one type, over a collection or not; or both to nothing; or neither is well
formed. -/
inductive ResolvedAlike (context : Context) (p q : String) : Prop
  | found (target : Target) (steps : List Step) (kind : Kind) (many : Bool)
    (rows : ∀ path ∈ [p, q],
      Relational.Path.resolve context.schema context.registry context.root path = .ok (some target))
    (records : ∀ path ∈ [p, q], Memory.accessor? context path =
      .ok (some ⟨path, steps, kind, many⟩))
  | nothing
    (rows : ∀ path ∈ [p, q], Relational.Path.resolve context.schema context.registry context.root
      path = .ok none)
    (records : ∀ path ∈ [p, q], Memory.accessor? context path = .ok none)
  | malformed
    (rows : ∀ path ∈ [p, q],
      Relational.Path.resolve context.schema context.registry context.root path =
        .error (.emptyKey path))
    (records : ∀ path ∈ [p, q], Memory.accessor? context path = .error (.emptyKey path))

theorem Built.resolvedAlike (built : context.Built) (alike : context.SpelledAlike p q) :
    context.ResolvedAlike p q := by
  have rows {outcome : String → Except Error (Option Route)} (located : ∀ path ∈ [p, q],
      context.locate path = outcome path) :
      ∀ path ∈ [p, q], Relational.Path.resolve context.schema context.registry context.root path =
        (outcome path).map (Option.map (Route.target context.root.table)) := by
    intro path member
    rw [context.relational_resolve, located path member]
  have records {outcome : String → Except Error (Option Route)}
      (located : ∀ path ∈ [p, q], context.locate path = outcome path) :
      ∀ path ∈ [p, q], Memory.accessor? context path =
        (outcome path).map (Option.map (Route.accessor path)) := by
    intro path member
    rw [built.memory_resolve, located path member]
  rcases alike.locate with ⟨route, located⟩ | located | located
  · exact .found (route.target context.root.table) route.steps route.kind route.many (rows located)
      (records located)
  · exact .nothing (rows located) (records located)
  · exact .malformed (rows located) (records located)

end Context

end FilterQuery
