import FilterQuery.Proofs.Sql.Pattern
import FilterQuery.Sql

set_option autoImplicit false
set_option relaxedAutoImplicit false

/-!
What conditions and left joins mean over the rows of a database. A condition is true, false or
unknown. A left join pairs a row with each row of another table that belongs to it, or with nulls
where there is none.
-/

namespace FilterQuery.Sql

open FilterQuery.Scalar (Value)

/-- The values of a row by column, `none` for null. -/
abbrev Row := String → Option Value

def Row.null : Row := fun _ => none

/-- The rows of each table. -/
abbrev Database := String → List Row

/-- The row that stands under each label. -/
abbrev Scope := String → Row

def Scope.bind (scope : Scope) (label : String) (row : Row) : Scope :=
  fun other => if other = label then row else scope other

def Scope.root (table : String) (row : Row) : Scope :=
  Scope.bind (fun _ => Row.null) table row

/-- What a database does with a value on its own: the cast to text, lower case, and the parts of a
document. -/
structure Engine where
  text : Value → String
  text_text : ∀ s, text (.text s) = s
  lower : String → String
  document : Value → String → Option Value
  documentText : Value → String → Option Value

def Expr.eval (engine : Engine) (scope : Scope) : Expr → Option Value
  | .column table name => scope table name
  | .document e key => (e.eval engine scope).bind (engine.document · key)
  | .documentText e key => (e.eval engine scope).bind (engine.documentText · key)
  | .lower e => (e.eval engine scope).map fun v => .text (engine.lower (engine.text v))
  | .castText e => (e.eval engine scope).map fun v => .text (engine.text v)

def andTruth : Option Bool → Option Bool → Option Bool
  | some false, _ => some false
  | some true, b => b
  | none, some false => some false
  | none, _ => none

def orTruth : Option Bool → Option Bool → Option Bool
  | some true, _ => some true
  | some false, b => b
  | none, some true => some true
  | none, _ => none

mutual

def Condition.eval (engine : Engine) (scope : Scope) : Condition → Option Bool
  | .equal e v => (e.eval engine scope).map (·.equals v)
  | .notEqual e v => (e.eval engine scope).map (!·.equals v)
  | .isNull e => some (e.eval engine scope).isNone
  | .isNotNull e => some (e.eval engine scope).isSome
  | .like e pattern =>
    (e.eval engine scope).map fun v => likes pattern.toList (engine.text v).toList
  | .never => some false
  | .group .and parts => evalAll engine scope parts
  | .group .or parts => evalAny engine scope parts

def evalAll (engine : Engine) (scope : Scope) : List Condition → Option Bool
  | [] => some true
  | part :: parts => andTruth (part.eval engine scope) (evalAll engine scope parts)

def evalAny (engine : Engine) (scope : Scope) : List Condition → Option Bool
  | [] => some false
  | part :: parts => orTruth (part.eval engine scope) (evalAny engine scope parts)

end

section Truth

variable {engine : Engine} {scope other : Scope}

private theorem andTruth_eq_true {a b : Option Bool} :
    andTruth a b = some true ↔ a = some true ∧ b = some true := by
  cases a with
  | none => cases b with
    | none => simp [andTruth]
    | some b => cases b <;> simp [andTruth]
  | some a => cases a <;> simp [andTruth]

private theorem orTruth_eq_true {a b : Option Bool} :
    orTruth a b = some true ↔ a = some true ∨ b = some true := by
  cases a with
  | none => cases b with
    | none => simp [orTruth]
    | some b => cases b <;> simp [orTruth]
  | some a => cases a <;> simp [orTruth]

theorem eval_and (parts : List Condition) :
    (Condition.group .and parts).eval engine scope = some true ↔
      ∀ c ∈ parts, c.eval engine scope = some true := by
  rw [Condition.eval]
  induction parts with
  | nil => simp [evalAll]
  | cons part parts ih => rw [evalAll, andTruth_eq_true, ih, List.forall_mem_cons]

theorem eval_or (parts : List Condition) :
    (Condition.group .or parts).eval engine scope = some true ↔
      ∃ c ∈ parts, c.eval engine scope = some true := by
  rw [Condition.eval]
  induction parts with
  | nil => simp [evalAny]
  | cons part parts ih => rw [evalAny, orTruth_eq_true, ih]; simp

theorem eval_join (connective : Filter.Connective) (parts : List Condition) :
    (Condition.join connective parts).eval engine scope = some true ↔
      (Condition.group connective parts).eval engine scope = some true := by
  unfold Condition.join
  split
  · rename_i part
    cases connective with
    | and => rw [eval_and]; simp
    | or => rw [eval_or]; simp
  · rfl

end Truth

def keysMeet : Option Value → Option Value → Bool
  | some a, some b => a.equals b
  | _, _ => false

namespace Join

def matching (db : Database) (j : Join) (parent : Row) : List Row :=
  (db j.table).filter fun row => keysMeet (parent j.localColumn) (row j.foreignColumn)

/-- The rows that a left join pairs with a row. -/
def rows (db : Database) (j : Join) (parent : Row) : List Row :=
  if (j.matching db parent).isEmpty then [Row.null] else j.matching db parent

theorem rows_of_nil {db : Database} {j : Join} {parent : Row} (empty : j.matching db parent = []) :
    j.rows db parent = [Row.null] := by
  unfold rows
  rw [empty]
  rfl

theorem rows_of_ne_nil {db : Database} {j : Join} {parent : Row}
    (found : j.matching db parent ≠ []) :
    j.rows db parent = j.matching db parent := by
  unfold rows
  rw [if_neg (by simpa using found)]

private theorem rows_ne_nil (db : Database) (j : Join) (parent : Row) : j.rows db parent ≠ [] := by
  by_cases empty : j.matching db parent = []
  · rw [rows_of_nil empty]
    simp
  · rwa [rows_of_ne_nil empty]

theorem matching_null (db : Database) (j : Join) : j.matching db Row.null = [] := by
  unfold matching
  rw [List.filter_eq_nil_iff]
  intro row member
  simp [Row.null, keysMeet]

theorem rows_null (db : Database) (j : Join) : j.rows db Row.null = [Row.null] :=
  rows_of_nil (matching_null db j)

end Join

/-- The scopes that left joins make of one, each join reading the rows that stand there by then. -/
def scopes (db : Database) : List Join → Scope → List Scope
  | [], scope => [scope]
  | j :: joins, scope =>
    (j.rows db (scope j.parent)).flatMap fun row => scopes db joins (scope.bind j.label row)

/-- Joins under distinct labels, each from a label that no later join and not itself writes. -/
def Ordered : List Join → Prop
  | [] => True
  | j :: joins =>
    j.label ∉ joins.map (·.label) ∧ j.parent ∉ (j :: joins).map (·.label) ∧ Ordered joins

def Assigns (db : Database) (joins : List Join) (scope : Scope) : Prop :=
  ∀ j ∈ joins, scope j.label ∈ j.rows db (scope j.parent)

theorem ordered_append_singleton {joins : List Join} {j : Join} (ordered : Ordered joins)
    (new : j.label ∉ joins.map (·.label)) (apart : ∀ i ∈ joins, i.parent ≠ j.label)
    (own : j.parent ≠ j.label) :
    Ordered (joins ++ [j]) := by
  induction joins with
  | nil => exact ⟨by simp, by simpa using own, trivial⟩
  | cons i joins ih =>
    obtain ⟨label, parent, rest⟩ := ordered
    rw [List.map_cons, List.mem_cons, not_or] at new
    refine ⟨?_, ?_, ih rest new.2 fun k member => apart k (List.mem_cons_of_mem i member)⟩
    · change i.label ∉ (joins ++ [j]).map (·.label)
      rw [List.map_append, List.mem_append, not_or]
      exact ⟨label, by simpa using fun same => new.1 same.symm⟩
    · change i.parent ∉ ((i :: joins) ++ [j]).map (·.label)
      rw [List.map_append, List.mem_append, not_or]
      exact ⟨parent, by simpa using apart i (by simp)⟩

theorem ordered_of_append {joins others : List Join} (ordered : Ordered (joins ++ others)) :
    Ordered others := by
  induction joins with
  | nil => exact ordered
  | cons j joins ih => exact ih ordered.2.2

theorem label_of_ordered_append {joins others : List Join} (ordered : Ordered (joins ++ others))
    {label : String} (member : label ∈ joins.map (·.label)) : label ∉ others.map (·.label) := by
  induction joins with
  | nil => cases member
  | cons j joins ih =>
    obtain ⟨new, _, rest⟩ := ordered
    rw [List.map_cons, List.mem_cons] at member
    rcases member with rfl | member
    · intro repeated
      exact new (by simp [repeated])
    · exact ih rest member

section Scopes

variable {db : Database} {joins : List Join} {scope result : Scope}

@[simp] theorem Scope.bind_self (scope : Scope) (label : String) (row : Row) :
    scope.bind label row label = row := by
  simp [Scope.bind]

theorem Scope.bind_of_ne {label other : String} (different : other ≠ label) (row : Row) :
    scope.bind label row other = scope other := by
  simp [Scope.bind, different]

@[simp] theorem Scope.root_table (table : String) (row : Row) : Scope.root table row table = row :=
  Scope.bind_self _ table row

theorem scopes_ne_nil (db : Database) (joins : List Join) (scope : Scope) :
    scopes db joins scope ≠ [] := by
  induction joins generalizing scope with
  | nil => simp [scopes]
  | cons j joins ih =>
    obtain ⟨row, rest, made⟩ := List.exists_cons_of_ne_nil (j.rows_ne_nil db (scope j.parent))
    rw [scopes, made, List.flatMap_cons]
    intro empty
    exact ih _ (List.append_eq_nil_iff.1 empty).1

theorem mem_scopes (ordered : Ordered joins) :
    result ∈ scopes db joins scope ↔
      (∀ label, label ∉ joins.map (·.label) → result label = scope label) ∧
        Assigns db joins result := by
  induction joins generalizing scope with
  | nil =>
    rw [scopes, List.mem_singleton]
    constructor
    · rintro rfl
      exact ⟨fun _ _ => rfl, fun j member => by cases member⟩
    · rintro ⟨same, _⟩
      funext label
      exact same label (by simp)
  | cons j joins ih =>
    obtain ⟨new, before, rest⟩ := ordered
    have parent_ne : j.parent ≠ j.label := fun same => before (by simp [same])
    have parent_new : j.parent ∉ joins.map (·.label) := fun member => before (by simp [member])
    rw [scopes, List.mem_flatMap]
    constructor
    · rintro ⟨row, hrow, inside⟩
      obtain ⟨same, assigned⟩ := (ih rest).1 inside
      have here : result j.label = row := by rw [same _ new, Scope.bind_self]
      have parent : result j.parent = scope j.parent := by
        rw [same _ parent_new, Scope.bind_of_ne parent_ne]
      constructor
      · intro label outside
        rw [List.map_cons, List.mem_cons, not_or] at outside
        rw [same _ outside.2, Scope.bind_of_ne outside.1]
      · intro i member
        rcases List.mem_cons.1 member with rfl | member
        · rwa [here, parent]
        · exact assigned i member
    · rintro ⟨same, assigned⟩
      have parent : result j.parent = scope j.parent := same _ before
      have hrow := assigned j (by simp)
      rw [parent] at hrow
      refine ⟨result j.label, hrow, (ih rest).2 ⟨?_,
        fun i member => assigned i (List.mem_cons_of_mem j member)⟩⟩
      intro label outside
      by_cases here : label = j.label
      · rw [here, Scope.bind_self]
      · rw [Scope.bind_of_ne here]
        exact same label (by simp [here, outside])

end Scopes

end FilterQuery.Sql
