import FilterQuery.Memory
import FilterQuery.Proofs.Memory.Sorting
import FilterQuery.Proofs.Registry.Origin

set_option autoImplicit false
set_option relaxedAutoImplicit false

/-!
Pages of a result. A page is what is left of a list after its offset, up to its limit; the pages of
one limit, one after another, make up all that a query selects, in order.
-/

namespace FilterQuery

namespace Page

variable {α : Type}

private theorem start_le_stop (page : Page) (size : Nat) : page.start size ≤ page.stop size := by
  unfold stop start toPlace
  omega

private theorem stop_le (page : Page) (size : Nat) : page.stop size ≤ size :=
  Nat.min_le_right _ size

/-- In a list with no more items than there are places, indices never stop at the greatest place too
early. -/
theorem slice_eq (page : Page) {items : List α} (held : items.length ≤ maxPlace) :
    page.slice items = (items.drop page.offset).take page.limit := by
  have first : page.start items.length = min page.offset items.length := by
    unfold start toPlace
    omega
  have size : page.stop items.length - page.start items.length =
      min page.limit (items.length - page.offset) := by
    unfold stop
    rw [first]
    unfold toPlace
    omega
  unfold slice
  rw [List.extract_eq_take_drop, size, first]
  by_cases inside : page.offset ≤ items.length
  · rw [Nat.min_eq_left inside, ← List.length_drop, ← List.take_eq_take_min]
  · have beyond : items.drop page.offset = [] := List.drop_of_length_le (by omega)
    rw [beyond, List.take_nil, Nat.min_eq_right (by omega : items.length ≤ page.offset),
      List.drop_length, List.take_nil]

private theorem flatMap_take_drop (items : List α) (limit count : Nat) :
    ((List.range count).flatMap fun k => (items.drop (k * limit)).take limit) = items.take
      (count * limit) := by
  induction count with
  | zero => simp
  | succ count ih =>
    rw [List.range_succ, List.flatMap_append, ih, Nat.succ_mul, List.take_add]
    simp

end Page

/-- The query that asks for the page of a number, counted from zero, where pages have so many
records. -/
def Query.onPage (query : Query) (limit k : Nat) : Query :=
  { query with pageOffset := some (k * limit : Nat), pageLimit := some limit }

private theorem Page.resolve_onPage {settings : PageSettings} (query : Query) {limit : Nat}
    (positive : 1 ≤ limit) (allowed : limit ≤ settings.maxLimit) (k : Nat) :
    Page.resolve (query.onPage limit k).pageOffset (query.onPage limit k).pageLimit settings =
      ⟨k * limit, limit⟩ := by
  have counts : 0 < (limit : Int) ∧ limit ≤ settings.maxLimit := ⟨by omega, allowed⟩
  simp only [Query.onPage, Page.resolve, Option.getD_some, Int.toNat_natCast]
  rw [if_pos counts]

namespace Memory

open FilterQuery.Memory.Order (SortKey StablySorted)

variable {α : Type} {context : Context} {query : Query} {record : α → Json.Value}
  {items result selected whole : List α}
  {predicate : Predicate} {keys : List SortKey}

/-- Whether a predicate says that it accepts a record. -/
def Predicate.accepts (p : Predicate) (record : Json.Value) : Bool :=
  match p.test record with
  | .ok holds => holds
  | .error _ => false

private theorem select_eq (chosen : predicate.select record items = .ok selected) :
    selected = items.filter fun item => predicate.accepts (record item) := by
  refine filterM_eq_ok (fun item holds answer => ?_) chosen
  unfold Predicate.accepts
  rw [answer]

private theorem execute_eq (accepting : compileFilter context query.filter = .ok predicate)
    (sorting : compileSort context query.sorts = .ok keys)
    (chosen : predicate.select record items = .ok selected)
    (sorted : Order.sort keys record selected = .ok whole) :
    execute context query record items =
      .ok ((Page.resolve query.pageOffset query.pageLimit context.paging).slice whole) := by
  unfold execute
  rw [accepting, sorting]
  change (predicate.select record items).bind _ = _
  rw [chosen]
  change (Order.sort keys record selected).bind _ = _
  rw [sorted]
  rfl

private theorem execute_eq_ok (runs : execute context query record items = .ok result) :
    ∃ predicate keys selected whole, compileFilter context query.filter = .ok predicate ∧
      compileSort context query.sorts = .ok keys ∧ predicate.select record items = .ok selected ∧
        Order.sort keys record selected = .ok whole := by
  unfold execute at runs
  obtain ⟨predicate, accepting, runs⟩ := bind_eq_ok_iff.1 runs
  obtain ⟨keys, sorting, runs⟩ := bind_eq_ok_iff.1 runs
  obtain ⟨selected, chosen, runs⟩ := bind_eq_ok_iff.1 runs
  obtain ⟨whole, sorted, -⟩ := bind_eq_ok_iff.1 runs
  exact ⟨predicate, keys, selected, whole, accepting, sorting, chosen, sorted⟩

private theorem length_whole_le (chosen : predicate.select record items = .ok selected)
    (sorted : Order.sort keys record selected = .ok whole) : whole.length ≤ items.length := by
  rw [(Order.stablySorted_of_sort sorted).perm.length_eq, select_eq chosen]
  exact List.length_filter_le _ _

/-- Where a query can be executed, its pages of an allowed limit can be too, whatever their number.
Together they are what the query selects, sorted stably, once there are enough of them, and those
after that are empty. A page of any list in memory is what is left after its offset, up to its
limit, and its bounds are within the list. -/
theorem pages_partition (limit : Nat) (runs : execute context query record items = .ok result)
    (held : items.length ≤ Page.maxPlace) (positive : 1 ≤ limit)
    (allowed : limit ≤ context.paging.maxLimit) :
    (∃ predicate keys whole, compileFilter context query.filter = .ok predicate ∧
      compileSort context query.sorts = .ok keys ∧
      StablySorted keys record (items.filter fun item => predicate.accepts (record item)) whole ∧
      (∀ count, whole.length ≤ count * limit →
        ((List.range count).mapM fun k => execute context (query.onPage limit k) record items).map
          List.flatten =
          .ok whole) ∧
      ∀ k, whole.length ≤ k * limit →
        execute context (query.onPage limit k) record items = .ok []) ∧
    ∀ {β : Type} (page : Page) (list : List β), list.length ≤ Page.maxPlace →
      page.slice list = (list.drop page.offset).take page.limit ∧
        page.start list.length ≤ page.stop list.length ∧ page.stop list.length ≤ list.length := by
  constructor
  · obtain ⟨predicate, keys, selected, whole, accepting, sorting, chosen, sorted⟩ :=
      execute_eq_ok runs
    have fits : whole.length ≤ Page.maxPlace := Nat.le_trans (length_whole_le chosen sorted) held
    have paged : ∀ k, execute context (query.onPage limit k) record items =
        .ok ((whole.drop (k * limit)).take limit) := by
      intro k
      have run : execute context (query.onPage limit k) record items = _ :=
        execute_eq accepting sorting chosen sorted
      rw [run, Page.resolve_onPage query positive allowed, Page.slice_eq _ fits]
    refine ⟨predicate, keys, whole, accepting, sorting,
      select_eq chosen ▸ Order.stablySorted_of_sort sorted, ?_, ?_⟩
    · intro count enough
      have each : (List.range count).mapM
          (fun k => execute context (query.onPage limit k) record items) =
          .ok ((List.range count).map fun k => (whole.drop (k * limit)).take limit) :=
            mapM_eq_ok_map fun k _ => paged k
      have together : ((List.range count).map fun k =>
          (whole.drop (k * limit)).take limit).flatten = whole := by
        rw [← List.flatMap_def, Page.flatMap_take_drop, List.take_of_length_le enough]
      rw [each]
      exact congrArg Except.ok together
    · intro k beyond
      rw [paged k, List.drop_of_length_le beyond, List.take_nil]
  · intro β page list held
    exact ⟨page.slice_eq held, page.start_le_stop _, page.stop_le _⟩

def titled : Query :=
  ⟨some (.compareNull "title" .ne), [], ["-id"], none, none⟩

/-- Three articles with a title, two of which have no identifier, and one without. -/
def articles : List Json.Value :=
  [.object [("title", .text "B")], .object [("id", .integer 1)],
    .object [("id", .integer 2), ("title", .text "A")], .object [("title", .text "C")]]

/-- Two pages hold the three articles with a title, and the third page is empty. -/
theorem titled_on_two_pages :
    ∃ whole : List Json.Value, whole.length = 3 ∧
      ((List.range 2).mapM fun k => execute Blog.context (titled.onPage 2 k) id articles).map
        List.flatten = .ok whole ∧
        execute Blog.context (titled.onPage 2 2) id articles = .ok [] := by
  let key : SortKey := ⟨⟨"id", [.field "id"], .integer, false⟩, true, false⟩
  let withTitle : List Json.Value :=
    [.object [("title", .text "B")], .object [("id", .integer 2), ("title", .text "A")],
      .object [("title", .text "C")]]
  have readable : ∀ r ∈ withTitle, Order.Readable [key] r := by
    simp only [withTitle, List.forall_mem_cons]
    exact ⟨⟨_, rfl⟩, ⟨_, rfl⟩, ⟨_, rfl⟩, nofun⟩
  have accepting : compileFilter Blog.context titled.filter =
      .ok ⟨.test ⟨"title", [.field "title"], .text, false⟩ .isNotNull, Blog.context.coerce⟩ := by
        rfl
  have sorting : compileSort Blog.context titled.sorts = .ok [key] := by rfl
  have chosen : Predicate.select ⟨.test ⟨"title", [.field "title"], .text, false⟩ .isNotNull,
      Blog.context.coerce⟩ id
      articles = .ok withTitle := by rfl
  have runs := execute_eq accepting sorting chosen (Order.sort_of_readable readable)
  obtain ⟨⟨predicate, keys, whole, accepting', _, sorted, together, later⟩, _⟩ :=
    pages_partition 2 runs (by decide) (by decide) (by decide)
  obtain rfl := Except.ok.inj (accepting.symm.trans accepting')
  have size : whole.length = 3 := sorted.perm.length_eq
  exact ⟨whole, size, together 2 (by omega), later 2 (by omega)⟩

end Memory

end FilterQuery
