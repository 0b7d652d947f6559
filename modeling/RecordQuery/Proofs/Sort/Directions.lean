import RecordQuery.Proofs.Except
import RecordQuery.Proofs.Sort.StrictWeakOrder

/-!
# RecordQuery.Proofs.Sort.Directions — swapped records and turned directions

Swapping two records reverses their order, on data of any shape: keys reverse
(`SortKey.compare_swap`), a direction applies to both outcomes alike, and the first difference stays
the first one.  Turning every direction of a sort order round reverses each key's outcome as well.
So the turned comparator orders two records as the first one orders them swapped, and it compiles
whenever the first one does.
-/

namespace RecordQuery

/-! ## Turned directions -/

/-- The field in the other direction. -/
def SortField.turned (field : SortField) : SortField :=
  { field with ascending := !field.ascending }

/-- The fields of an order, each in the other direction. -/
def SortOrder.turned (order : SortOrder) : SortOrder :=
  order.map SortField.turned

/-- The key in the other direction. -/
def ComparatorKey.turned (key : ComparatorKey) : ComparatorKey :=
  { key with field := key.field.turned }

/-- The comparator with every key in the other direction. -/
def Comparator.turned (c : Comparator) : Comparator :=
  { c with keys := c.keys.map ComparatorKey.turned }

theorem SortField.name_turned (field : SortField) : field.turned.name = field.name := rfl

theorem SortField.apply_turned (field : SortField) (ordering : Ordering) :
    field.turned.apply ordering = (field.apply ordering).swap := by
  unfold turned apply
  cases field.ascending with
  | true => rfl
  | false => exact Ordering.swap_swap.symm

/-- A turned key says of two records what the key says of them swapped. -/
theorem ComparatorKey.compare_turned {caseSensitive : Bool} (key : ComparatorKey) (a b : Json) :
    key.turned.compare caseSensitive a b = key.compare caseSensitive b a := by
  rw [key.compare_swap b a]
  exact SortField.apply_turned key.field _

theorem Comparator.compareBy_turned {caseSensitive : Bool} (ks : List ComparatorKey) (a b : Json) :
    compareBy caseSensitive (ks.map ComparatorKey.turned) a b = compareBy caseSensitive ks b a := by
  induction ks with
  | nil => rfl
  | cons key ks ih =>
      rw [List.map_cons, compareBy, compareBy, ComparatorKey.compare_turned, ih]

theorem Comparator.compare_turned (c : Comparator) (a b : Json) :
    c.turned.compare a b = c.compare b a :=
  compareBy_turned c.keys a b

/-! ## Compilation -/

namespace SortOrder

/-- Directions play no part in reading paths. -/
theorem keys_turned (order : SortOrder) :
    keys (turned order) = (keys order).map (List.map ComparatorKey.turned) := by
  induction order with
  | nil => rfl
  | cons field rest ih =>
      have htail : keys (rest.map SortField.turned)
          = (keys rest).map (List.map ComparatorKey.turned) := ih
      rw [turned, List.map_cons, keys, keys, SortField.name_turned, htail]
      cases (FieldPath.parse field.name).mapError QueryError.invalidPath with
      | error e => rfl
      | ok path => cases keys rest <;> rfl

/-- A turned order compiles to the turned comparator, or fails as the order does. -/
theorem compile_turned (options : MatchOptions) (order : SortOrder) :
    compile options (turned order) = (compile options order).map Comparator.turned := by
  rw [compile, compile, keys_turned]
  cases keys order <;> rfl

end SortOrder

/-! ## Swapped records -/

theorem Resolved.compare_swap (caseSensitive : Bool) (a b : Resolved) :
    b.compare caseSensitive a = (a.compare caseSensitive b).swap :=
  SortKey.compare_swap b.sortKey a.sortKey

theorem Comparator.compare_swap (c : Comparator) (a b : Json) :
    c.compare b a = (c.compare a b).swap :=
  compareBy_swap c.keys b a

/-- A record is equal to itself. -/
theorem Comparator.compare_self (c : Comparator) (a : Json) : c.compare a a = .eq :=
  Ordering.eq_eq_of_eq_swap (c.compare_swap a a)

/-- **Swapping reverses, and so does turning the directions.** What paths find compares swapped the
other way round, whatever its shape.  A compiled comparator does the same with any two records and
finds every record equal to itself; and the fields that it was compiled from, each in the other
direction, compile to a comparator that orders two records as this one orders them swapped. -/
theorem Comparator.reverses :
    (∀ (caseSensitive : Bool) (a b : Resolved),
      b.compare caseSensitive a = (a.compare caseSensitive b).swap)
    ∧ ∀ (options : MatchOptions) (spec : SortSpec) (c : Comparator),
      spec.compile options = .ok c →
      (∀ a b : Json, c.compare b a = (c.compare a b).swap)
      ∧ (∀ a : Json, c.compare a a = .eq)
      ∧ ∃ order reversed, spec.resolve = .ok order
        ∧ SortOrder.compile options (SortOrder.turned order) = .ok reversed
        ∧ ∀ a b : Json, reversed.compare a b = c.compare b a := by
  refine ⟨Resolved.compare_swap, fun options spec c h => ?_⟩
  obtain ⟨order, horder, hcompile⟩ := Except.bind_eq_ok_iff.mp h
  have hturned : SortOrder.compile options (SortOrder.turned order) = .ok c.turned := by
    rw [SortOrder.compile_turned, hcompile]
    rfl
  exact ⟨c.compare_swap, c.compare_self, order, c.turned, horder, hturned, c.compare_turned⟩

/-- Latest first and then by title, and the other way round. -/
theorem Comparator.reverses_latestFirst :
    ∃ latest earliest : Comparator,
      SortSpec.compile ⟨false⟩ (.encoded ["-year", "title"]) = .ok latest
      ∧ SortOrder.compile ⟨false⟩ [⟨"year", true⟩, ⟨"title", false⟩] = .ok earliest
      ∧ (∀ a b : Json, latest.compare b a = (latest.compare a b).swap)
      ∧ ∀ a b : Json, earliest.compare a b = latest.compare b a := by
  have hspec : SortSpec.compile ⟨false⟩ (.encoded ["-year", "title"]) = .ok
      ⟨[⟨⟨"year", false⟩, ⟨"year", [.member "year"]⟩⟩,
        ⟨⟨"title", true⟩, ⟨"title", [.member "title"]⟩⟩], false⟩ := rfl
  obtain ⟨hswap, -, order, earliest, horder, hearliest, hreversed⟩ := reverses.2 _ _ _ hspec
  cases horder
  exact ⟨_, earliest, hspec, hearliest, hswap, hreversed⟩

end RecordQuery
