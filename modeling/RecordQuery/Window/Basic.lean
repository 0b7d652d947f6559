import RecordQuery.Filter.Basic
import RecordQuery.Sort.Order

/-!
# RecordQuery.Window.Basic — query windows and how they combine

A window bundles what one query asks for: a filter, a sort order, an interval of positions and a
selection of fields.  The interval is kept as an offset and a limit of 64 bits; sums stop at the
largest word and differences at zero.  Merging intersects intervals, joins filters by `and` and
appends the rest; optimizing brings a window into a normal form with the same meaning.
-/

namespace RecordQuery

/-! ## Word arithmetic -/

/-- The largest word. -/
def largestWord : Nat := 18446744073709551615

/-- The sum of two words, or the largest word when it is larger. -/
def saturatingAdd (a b : UInt64) : UInt64 :=
  UInt64.ofNat (min (a.toNat + b.toNat) largestWord)

/-- The difference of two words, or zero when it is smaller. -/
def saturatingSub (a b : UInt64) : UInt64 :=
  UInt64.ofNat (a.toNat - b.toNat)

/-! ## Windows -/

/-- What one query asks for. -/
structure Window where
  limit : Option UInt64 := none
  offset : UInt64 := 0
  filter : Option Filter := none
  sortOrder : SortOrder := []
  fields : List String := []

namespace Window

/-- The window that asks for everything. -/
def empty : Window := {}

/-- Whether a window asks for everything. -/
def isEmpty (w : Window) : Bool :=
  w.limit.isNone && w.offset == 0 && w.filter.isNone && w.sortOrder.isEmpty && w.fields.isEmpty

/-! ## Bounds -/

/-- The first position. -/
def min (w : Window) : UInt64 :=
  w.offset

/-- The position after the last one, absent when the window is unbounded. -/
def max (w : Window) : Option UInt64 :=
  w.limit.map (saturatingAdd w.offset)

/-- Moves the first position; the end stays. -/
def setMin (w : Window) (n : UInt64) : Window :=
  { w with offset := n, limit := w.max.map (saturatingSub · n) }

/-- Moves the end; the first position stays. -/
def setMax (w : Window) (n : Option UInt64) : Window :=
  { w with limit := n.map (saturatingSub · w.offset) }

/-! ## Merging -/

/-- The earlier of two ends; an absent end is past all others. -/
def earlierEnd : Option UInt64 → Option UInt64 → Option UInt64
  | some a, some b => some (if a ≤ b then a else b)
  | some a, none => some a
  | none, b => b

/-- The later of two first positions. -/
def laterStart (a b : UInt64) : UInt64 :=
  if a ≤ b then b else a

/-- Both of two filters. -/
def bothFilters : Option Filter → Option Filter → Option Filter
  | some f, some g => some (.group .and [f, g])
  | some f, none => some f
  | none, g => g

/-- The window that asks for what both windows ask for; ties in the first one's order are broken by
the second one's. -/
def merge (w v : Window) : Window :=
  let start := laterStart w.min v.min
  { offset := start
    limit := (earlierEnd w.max v.max).map (saturatingSub · start)
    filter := bothFilters w.filter v.filter
    sortOrder := w.sortOrder ++ v.sortOrder
    fields := w.fields ++ v.fields }

end Window

/-! ## Normal form -/

namespace Filter

/-- The parts that a filter contributes to a conjunction around it. -/
def conjuncts : Filter → List Filter
  | group .and filters => filters
  | f => [f]

/-- Puts the parts of inner conjunctions in their place in a list of conjuncts. -/
def spliceAnd (op : Connective) (filters : List Filter) : List Filter :=
  match op with
  | .and => filters.flatMap conjuncts
  | _ => filters

mutual

/-- Splices conjunctions into the conjunctions around them, at every depth. -/
def flatten : Filter → Filter
  | leaf field test => leaf field test
  | group op filters => group op (spliceAnd op (flattenAll filters))

/-- Flattens several filters. -/
def flattenAll : List Filter → List Filter
  | [] => []
  | f :: rest => flatten f :: flattenAll rest

end

end Filter

namespace Window

/-- Inserts a text into an ascending list without repeats. -/
def insertField (field : String) : List String → List String
  | [] => [field]
  | g :: rest =>
    match compare field g with
    | .lt => field :: g :: rest
    | .eq => g :: rest
    | .gt => g :: insertField field rest

/-- The texts of a list in ascending order without repeats. -/
def fieldSet (fields : List String) : List String :=
  fields.foldr insertField []

/-- The normal form: conjunctions flattened, one sort field of each name, the fields a sorted set.
-/
def optimize (w : Window) : Window :=
  { w with
    filter := w.filter.map Filter.flatten
    sortOrder := SortOrder.firstOfEachName w.sortOrder
    fields := fieldSet w.fields }

end Window

end RecordQuery
