import RecordQuery.Proofs.Window.FieldSet
import RecordQuery.Proofs.Window.Projection

/-!
# RecordQuery.Proofs.Window.FieldOrder — when the order of selected fields does not matter

Fields are stored one after the other, and a later one may write over an earlier one.  Two fields
can be stored in either order when their places part, or when the place of one lies inside that of
the other one and the outer value holds the inner one there.  The latter is the case for chains of
names as long as the longer one does not fan out: a chain that crosses an array finds a list, which
is stored in an object in place of the array.

So optimizing, which sorts the fields and drops repeats, keeps the projection of every record on
which no field is written over (`Window.select_optimize_of_compatible`), and not of all records:
`Window.select_optimize_fanOut` loses a whole field.
-/

namespace RecordQuery

/-! ## Two fields -/

namespace Window

open FieldPath (SpellsChain Apart chain)

/-- The value at a place holds another value at the place of that value. -/
def HoldsAt (place : List String) (value : Json) (place' : List String) (value' : Json) : Prop :=
  ∃ more, place' = place ++ more ∧ chain more value = .value value'

/-- Two values can be stored in either order. -/
theorem setAt_comm {place place' : List String} {value value' projection : Json}
    (hvalue : value.Canonical) (hvalue' : value'.Canonical)
    (h : Apart place place' ∨ HoldsAt place value place' value'
      ∨ HoldsAt place' value' place value) :
    Json.setAt value place (some (Json.setAt value' place' (some projection)))
      = Json.setAt value' place' (some (Json.setAt value place (some projection))) := by
  rcases h with hapart | ⟨more, rfl, hmore⟩ | ⟨more, rfl, hmore⟩
  · exact Json.setAt_comm_of_apart value value' hapart
  · exact Json.setAt_comm_of_chain hvalue hmore (some projection)
  · exact (Json.setAt_comm_of_chain hvalue' hmore (some projection)).symm

/-- No selected field is written over by another one: a path that goes on from a selected chain of
names finds a single value, if any, and a path that is stored under its own text does not share that
text with the first name of a chain. -/
structure Compatible (w : Window) (record : Json) : Prop where
  noFanOut : ∀ field ∈ w.fields, ∀ other ∈ w.fields, ∀ names more,
    SpellsChain field names → SpellsChain other (names ++ more) → names ≠ [] → more ≠ [] →
      ∀ items, chain (names ++ more) record ≠ .many items
  ownText : ∀ field ∈ w.fields, (∀ names, SpellsChain field names → names = []) →
    ∀ other ∈ w.fields, ∀ names, SpellsChain other names → names.head? ≠ some field

/-- What a chain finds holds what a longer chain finds, as long as that does not fan out. -/
theorem holdsAt_of_append {record : Json} {names more : List String}
    (hfound : chain (names ++ more) record ≠ .missing)
    (hsingle : more ≠ [] → ∀ items, chain (names ++ more) record ≠ .many items) :
    HoldsAt names (chain names record).toValue (names ++ more)
      (chain (names ++ more) record).toValue := by
  refine ⟨more, rfl, ?_⟩
  cases more with
  | nil => rw [List.append_nil, FieldPath.chain_nil]
  | cons name rest =>
      have hsingle := hsingle (List.cons_ne_nil _ _)
      rw [FieldPath.chain_append] at hfound hsingle ⊢
      cases hchain : chain names record with
      | missing =>
          rw [hchain] at hfound
          exact absurd rfl hfound
      | many items =>
          rw [hchain] at hsingle
          exact absurd rfl (hsingle _)
      | value v =>
          rw [hchain] at hfound hsingle
          show chain (name :: rest) v = .value (chain (name :: rest) v).toValue
          cases hvalue : chain (name :: rest) v with
          | missing => exact absurd hvalue hfound
          | many items => exact absurd hvalue (hsingle items)
          | value u => rfl

/-- How a field is stored: under the chain that it spells, or under its own text. -/
theorem place_cases {field : String} {path : FieldPath} (h : FieldPath.parse field = .ok path) :
    (∃ names, names ≠ [] ∧ path.memberNames? = some names ∧ path.place = names)
      ∨ (∀ names, SpellsChain field names → names = []) ∧ path.place = [field] := by
  have htext : path.text = field := (FieldPath.parse_eq_ok_iff.mp h).1
  cases hnames : path.memberNames? with
  | none =>
      right
      constructor
      · rintro names ⟨other, hother, hspells⟩
        rw [h] at hother
        cases hother
        rw [hnames] at hspells
        cases hspells
      · unfold FieldPath.place
        rw [hnames, htext]
  | some names =>
      by_cases hne : names = []
      · right
        constructor
        · intro more hmore
          rw [hmore.unique ⟨path, h, hnames⟩, hne]
        · unfold FieldPath.place
          rw [hnames, hne, htext]
      · exact Or.inl ⟨names, hne, rfl, FieldPath.place_of_memberNames hne hnames⟩

variable {w : Window} {record : Json}

/-- Two fields are stored in places that part, or one holds the other one. -/
theorem Compatible.apart_or_holdsAt (h : w.Compatible record) {field other : String}
    (hfield : field ∈ w.fields) (hother : other ∈ w.fields) {path next : FieldPath}
    (hpath : FieldPath.parse field = .ok path) (hnext : FieldPath.parse other = .ok next)
    (hfound : path.evaluate record ≠ .missing) (hfound' : next.evaluate record ≠ .missing) :
    Apart path.place next.place
      ∨ HoldsAt path.place (path.evaluate record).toValue next.place (next.evaluate record).toValue
      ∨ HoldsAt next.place (next.evaluate record).toValue path.place
        (path.evaluate record).toValue := by
  have hne : ∀ {a b : String} {rest : List String}, a ≠ b → Apart (a :: rest) [b] := by
    intro a b rest hab
    exact FieldPath.apart_cons_cons.mpr (Or.inl hab)
  rcases place_cases hpath with ⟨names, hnames, hchain, hplace⟩ | ⟨hown, hplace⟩
  · have heval := FieldPath.evaluate_of_memberNames hchain record
    rcases place_cases hnext with ⟨more, hmore, hchain', hplace'⟩ | ⟨hown', hplace'⟩
    · have heval' := FieldPath.evaluate_of_memberNames hchain' record
      have hspells : SpellsChain field names := ⟨path, hpath, hchain⟩
      have hspells' : SpellsChain other more := ⟨next, hnext, hchain'⟩
      rw [hplace, hplace', heval, heval']
      rw [heval] at hfound
      rw [heval'] at hfound'
      rcases FieldPath.apart_or_append names more with hapart | ⟨ext, rfl⟩ | ⟨ext, rfl⟩
      · exact Or.inl hapart
      · exact Or.inr (Or.inl (holdsAt_of_append hfound'
          fun hext => h.noFanOut field hfield other hother _ _ hspells hspells' hnames hext))
      · exact Or.inr (Or.inr (holdsAt_of_append hfound
          fun hext => h.noFanOut other hother field hfield _ _ hspells' hspells hmore hext))
    · obtain ⟨name, rest, rfl⟩ := List.exists_cons_of_ne_nil hnames
      have hhead := h.ownText other hother hown' field hfield _ ⟨path, hpath, hchain⟩
      rw [hplace, hplace']
      exact Or.inl (hne fun heq => hhead (congrArg some heq))
  · rcases place_cases hnext with ⟨more, hmore, hchain', hplace'⟩ | ⟨hown', hplace'⟩
    · obtain ⟨name, rest, rfl⟩ := List.exists_cons_of_ne_nil hmore
      have hhead := h.ownText field hfield hown other hother _ ⟨next, hnext, hchain'⟩
      rw [hplace, hplace']
      exact Or.inl (hne fun heq => hhead (congrArg some heq)).symm
    · by_cases hsame : field = other
      · -- one text is one path
        subst hsame
        rw [hpath] at hnext
        cases hnext
        exact Or.inr (Or.inl ⟨[], (List.append_nil _).symm, rfl⟩)
      · rw [hplace, hplace']
        exact Or.inl (hne hsame)

/-! ## Adding fields -/

/-- Two fields that do not write over each other can be added in either order. -/
theorem Compatible.addField_comm (h : w.Compatible record) (hrecord : record.Canonical)
    {field other : String} (hfield : field ∈ w.fields) (hother : other ∈ w.fields)
    (projection : Json) :
    addField record (addField record projection field) other
      = addField record (addField record projection other) field := by
  cases hpath : FieldPath.parse field with
  | error e =>
      unfold addField
      rw [hpath]
  | ok path =>
      cases hnext : FieldPath.parse other with
      | error e =>
          unfold addField
          rw [hnext]
      | ok next =>
          rw [addField_of_parse hpath, addField_of_parse hpath, addField_of_parse hnext,
            addField_of_parse hnext]
          by_cases hfound : path.evaluate record = .missing
          · rw [hfound]
            rfl
          · by_cases hfound' : next.evaluate record = .missing
            · rw [hfound']
              rfl
            · have hcanonical := fun path : FieldPath =>
                FieldPath.handsDown_resolve Json.hereditary_canonical path.segments record hrecord
              have hplaces := h.apart_or_holdsAt hother hfield hnext hpath hfound' hfound
              simp only [Resolved.putAt_of_ne_missing hfound, Resolved.putAt_of_ne_missing hfound']
              exact setAt_comm (hcanonical next) (hcanonical path) hplaces

/-- Adding a field twice is adding it once. -/
theorem addField_addField (record projection : Json) (field : String) :
    addField record (addField record projection field) field
      = addField record projection field := by
  cases hpath : FieldPath.parse field with
  | error e =>
      unfold addField
      rw [hpath]
  | ok path =>
      rw [addField_of_parse hpath, addField_of_parse hpath]
      by_cases hfound : path.evaluate record = .missing
      · rw [hfound]
        rfl
      · have hsame := Json.setAt_setAt_append (path.evaluate record).toValue
          (path.evaluate record).toValue path.place [] (some projection)
        rw [List.append_nil] at hsame
        simp only [Resolved.putAt_of_ne_missing hfound]
        exact hsame

/-! ## Adding the set of fields -/

/-- Fields whose additions commute with one more may be added with that one sorted in. -/
theorem foldl_insertField {field : String} {rest : List String}
    (hcomm : ∀ other ∈ rest, ∀ projection,
      addField record (addField record projection field) other
        = addField record (addField record projection other) field)
    (projection : Json) :
    (insertField field rest).foldl (addField record) projection
      = (field :: rest).foldl (addField record) projection := by
  induction rest generalizing projection with
  | nil => rfl
  | cons other rest ih =>
      rw [insertField]
      split
      · rfl
      · next heq =>
          have heq : field = other := Std.LawfulEqCmp.compare_eq_iff_eq.mp heq
          subst heq
          rw [List.foldl_cons, List.foldl_cons, List.foldl_cons, addField_addField]
      · have hrest := ih (fun g hg => hcomm g (List.mem_cons_of_mem _ hg))
        rw [List.foldl_cons, hrest, List.foldl_cons, List.foldl_cons, List.foldl_cons,
          hcomm other List.mem_cons_self]

/-- Fields that do not write over each other may be added as a sorted set. -/
theorem Compatible.foldl_fieldSet (h : w.Compatible record) (hrecord : record.Canonical)
    {fields : List String} (hfields : ∀ field ∈ fields, field ∈ w.fields) (projection : Json) :
    (fieldSet fields).foldl (addField record) projection
      = fields.foldl (addField record) projection := by
  induction fields generalizing projection with
  | nil => rfl
  | cons field rest ih =>
      have hfield := hfields field List.mem_cons_self
      have hrest : ∀ other ∈ rest, other ∈ w.fields :=
        fun other hother => hfields other (List.mem_cons_of_mem _ hother)
      show (insertField field (fieldSet rest)).foldl (addField record) projection = _
      rw [foldl_insertField, List.foldl_cons, List.foldl_cons, ih hrest]
      intro other hother projection
      exact h.addField_comm hrecord hfield (hrest other (mem_fieldSet.mp hother)) projection

/-- **Optimizing keeps projections** of canonical records on which no selected field is written over
by another one, if all fields can be read. -/
theorem select_optimize_of_compatible
    (hread : ∀ field ∈ w.fields, ∃ path, FieldPath.parse field = .ok path)
    (hrecord : record.Canonical) (h : w.Compatible record) :
    w.optimize.select record = w.select record := by
  have hfields : w.optimize.fields = fieldSet w.fields := rfl
  by_cases hne : w.fields = []
  · have hnone : w.optimize.fields = [] := by
      rw [hfields, hne]
      rfl
    rw [select_of_no_fields hne, select_of_no_fields hnone]
  · have hsome : w.optimize.fields ≠ [] := by
      obtain ⟨field, hfield⟩ := List.exists_mem_of_ne_nil w.fields hne
      exact List.ne_nil_of_mem (mem_fieldSet.mpr hfield)
    have hread' : ∀ field ∈ w.optimize.fields, ∃ path, FieldPath.parse field = .ok path :=
      fun field hfield => hread field (mem_fieldSet.mp hfield)
    rw [select_eq_ok hne hread, select_eq_ok hsome hread', hfields,
      h.foldl_fieldSet hrecord fun _ hfield => hfield]

/-- A member of an object before the object itself, and names across an array. -/
def ratingsWindow : Window :=
  { fields := ["ratings.critics", "ratings", "cast[*].name"] }

/-- A record with ratings and a cast. -/
def ratingsRecord : Json :=
  .object [("cast", .array [.object [("name", .string "Ford")]]),
    ("ratings", .object [("critics", .ofInt64 9), ("viewers", .ofInt64 7)])]

theorem ratingsWindow_compatible : ratingsWindow.Compatible ratingsRecord := by
  have hspells : ∀ field ∈ ratingsWindow.fields, ∀ names, SpellsChain field names →
      names = ["ratings", "critics"] ∨ names = ["ratings"] := by
    intro field hfield names hnames
    have hfields : field = "ratings.critics" ∨ field = "ratings" ∨ field = "cast[*].name" := by
      simpa [ratingsWindow] using hfield
    rcases hfields with rfl | rfl | rfl
    · exact Or.inl (hnames.unique ⟨_, rfl, rfl⟩)
    · exact Or.inr (hnames.unique ⟨_, rfl, rfl⟩)
    · obtain ⟨path, hpath, hchain⟩ := hnames
      have hcast : FieldPath.parse "cast[*].name"
          = .ok ⟨"cast[*].name", [.member "cast", .wildcard, .member "name"]⟩ := rfl
      rw [hcast] at hpath
      cases hpath
      cases hchain
  constructor
  · intro field hfield other hother names more hnames hmore _ _ items hitems
    rcases hspells other hother _ hmore with h | h
    · rw [h] at hitems
      cases hitems
    · rw [h] at hitems
      cases hitems
  · intro field hfield hown other hother names hnames
    have hhead : names.head? = some "ratings" := by
      rcases hspells other hother _ hnames with rfl | rfl
      · rfl
      · rfl
    rw [hhead]
    rintro ⟨rfl⟩
    cases hown ["ratings"] ⟨_, rfl, rfl⟩

/-- The member and its object may be stored in either order, since the object that is stored holds
the member. -/
theorem select_optimize_of_ratings :
    ratingsRecord.Canonical ∧ ratingsWindow.Compatible ratingsRecord
      ∧ ratingsWindow.optimize.select ratingsRecord = ratingsWindow.select ratingsRecord := by
  have hrecord : ratingsRecord.Canonical := by
    simp only [ratingsRecord, Json.Canonical, Json.CanonicalMembers, Json.CanonicalItems,
      Json.Ascending, Json.ofInt64]
    decide
  refine ⟨hrecord, ratingsWindow_compatible, ?_⟩
  apply select_optimize_of_compatible _ hrecord ratingsWindow_compatible
  intro field hfield
  have hfields : field = "ratings.critics" ∨ field = "ratings" ∨ field = "cast[*].name" := by
    simpa [ratingsWindow] using hfield
  rcases hfields with rfl | rfl | rfl
  · exact ⟨_, rfl⟩
  · exact ⟨_, rfl⟩
  · exact ⟨_, rfl⟩

/-- Names of the members of a list, before the list itself. -/
def listWindow : Window :=
  { fields := ["a.b", "a"] }

/-- A record with a list of one member. -/
def listRecord : Json :=
  .object [("a", .array [.object [("b", .bool true)]])]

/-- Sorting the fields loses one: the list is stored first, and as it is no object, an object takes
its place once the names of its members are stored. -/
theorem select_optimize_fanOut :
    (∀ field ∈ listWindow.fields, ∃ path, FieldPath.parse field = .ok path)
      ∧ listWindow.select listRecord = .ok listRecord
      ∧ listWindow.optimize.select listRecord
        = .ok (.object [("a", .object [("b", .array [.bool true])])])
      ∧ listWindow.optimize.select listRecord ≠ listWindow.select listRecord := by
  have hselect : listWindow.select listRecord = .ok listRecord := rfl
  have hoptimized : listWindow.optimize.select listRecord
      = .ok (.object [("a", .object [("b", .array [.bool true])])]) := rfl
  refine ⟨?_, hselect, hoptimized, ?_⟩
  · intro field hfield
    have hfields : field = "a.b" ∨ field = "a" := by
      simpa [listWindow] using hfield
    rcases hfields with rfl | rfl
    · exact ⟨_, rfl⟩
    · exact ⟨_, rfl⟩
  · rw [hselect, hoptimized]
    rintro ⟨⟩

end Window

end RecordQuery
