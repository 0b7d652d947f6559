import RecordQuery.Proofs.Path.Insertion
import RecordQuery.Proofs.Sort.Repeats
import RecordQuery.Proofs.ValueView
import RecordQuery.Window.Execution

/-!
# RecordQuery.Proofs.Window.Projection — what a projection holds

A projection is built field by field: each field puts what its path finds into its place.  When the
paths of the fields are chains of member names of which none goes on from another one, no field
touches the place of another one.  So every path finds in the projection what it finds in the
record, copied into one value, and there is nothing besides.

The invariant of the partly built projection is `Window.Projected`; one more field keeps it by
`Projected.addField`, and all fields by `Projected.addFields`.  Since queries see records through
copied values only, a query whose paths are selected does not tell a record from its projection.
-/

namespace RecordQuery

/-! ## Storing what a path finds -/

/-- A result once it was copied into one value: nothing stays nothing. -/
def Resolved.copied : Resolved → Resolved
  | missing => missing
  | found => value found.toValue

theorem Resolved.toValue_copied (found : Resolved) : found.copied.toValue = found.toValue := by
  cases found <;> rfl

/-- Puts a copy of a result under a chain of names; nothing leaves the projection as it is. -/
def Resolved.putAt (place : List String) (projection : Json) : Resolved → Json
  | missing => projection
  | found => Json.setAt found.toValue place (some projection)

theorem Resolved.putAt_of_ne_missing {found : Resolved} (h : found ≠ missing) (place : List String)
    (projection : Json) :
    found.putAt place projection = Json.setAt found.toValue place (some projection) := by
  cases found with
  | missing => exact absurd rfl h
  | value v => rfl
  | many items => rfl

/-- Where a projection keeps what a path finds: under the chain of its member names, and under its
own text when it is no such chain. -/
def FieldPath.place (path : FieldPath) : List String :=
  match path.memberNames? with
  | some (name :: names) => name :: names
  | _ => [path.text]

theorem FieldPath.place_ne_nil (path : FieldPath) : path.place ≠ [] := by
  unfold place
  split
  · exact List.cons_ne_nil _ _
  · exact List.cons_ne_nil _ _

namespace Window

/-- Storing in the members of a projection is putting into the projection. -/
theorem object_store (path : FieldPath) (found : Resolved) (members : List (String × Json)) :
    .object (store path found members) = found.putAt path.place (.object members) := by
  have hput : found ≠ .missing →
      Json.object (Json.insertAt found.toValue path.place members)
        = found.putAt path.place (.object members) := by
    intro h
    rw [Resolved.putAt_of_ne_missing h, Json.object_insertAt _ path.place_ne_nil]
  have hplaced : found ≠ .missing →
      store path found members = Json.insertAt found.toValue path.place members := by
    intro h
    unfold store FieldPath.place
    cases found with
    | missing => exact absurd rfl h
    | value v =>
        match path.memberNames? with
        | some (name :: names) => rfl
        | some [] => rfl
        | none => rfl
    | many items =>
        match path.memberNames? with
        | some (name :: names) => rfl
        | some [] => rfl
        | none => rfl
  by_cases h : found = .missing
  · rw [h]
    rfl
  · rw [hplaced h, hput h]

/-- A projection with one more field of the record. -/
def addField (record projection : Json) (field : String) : Json :=
  match FieldPath.parse field with
  | .ok path => (path.evaluate record).putAt path.place projection
  | .error _ => projection

theorem addField_of_parse {field : String} {path : FieldPath} (h : FieldPath.parse field = .ok path)
    (record projection : Json) :
    addField record projection field = (path.evaluate record).putAt path.place projection := by
  unfold addField
  rw [h]

/-- Fields that can be read are added one after the other. -/
theorem selectFrom_eq_ok {record : Json} {fields : List String}
    (h : ∀ field ∈ fields, ∃ path, FieldPath.parse field = .ok path)
    (members : List (String × Json)) :
    ∃ out, selectFrom record fields members = .ok out
      ∧ .object out = fields.foldl (addField record) (.object members) := by
  induction fields generalizing members with
  | nil => exact ⟨members, rfl, rfl⟩
  | cons field rest ih =>
      obtain ⟨path, hpath⟩ := h field List.mem_cons_self
      obtain ⟨out, hout, heq⟩ := ih (fun g hg => h g (List.mem_cons_of_mem _ hg))
        (store path (path.evaluate record) members)
      refine ⟨out, ?_, ?_⟩
      · rw [selectFrom, hpath]
        exact hout
      · rw [heq, object_store, List.foldl_cons, addField_of_parse hpath]

/-- **Projections as runs.** Selecting by fields that can be read never fails, and adds the fields
to the empty object. -/
theorem select_eq_ok {w : Window} (hne : w.fields ≠ [])
    (h : ∀ field ∈ w.fields, ∃ path, FieldPath.parse field = .ok path) (record : Json) :
    w.select record = .ok (w.fields.foldl (addField record) (.object [])) := by
  obtain ⟨out, hout, heq⟩ := @selectFrom_eq_ok record w.fields h []
  have hempty : w.fields.isEmpty = false := by simpa using hne
  rw [← heq, select, hempty]
  show (selectFrom record w.fields [] >>= fun members => .ok (Json.object members)) = _
  rw [hout]
  rfl

theorem select_of_no_fields {w : Window} (h : w.fields = []) (record : Json) :
    w.select record = .ok record := by
  rw [select, h]
  rfl

end Window

/-! ## Fields that are chains of names -/

/-- A field text is read as a chain of member names. -/
def FieldPath.SpellsChain (field : String) (names : List String) : Prop :=
  ∃ path, parse field = .ok path ∧ path.memberNames? = some names

/-- A path of a chain of member names finds what the chain finds. -/
theorem FieldPath.evaluate_of_memberNames {path : FieldPath} {names : List String}
    (h : path.memberNames? = some names) (record : Json) :
    path.evaluate record = chain names record := by
  unfold evaluate chain
  rw [memberNames?_eq_some_iff.mp h]

theorem FieldPath.SpellsChain.unique {field : String} {names more : List String}
    (h : SpellsChain field names) (h' : SpellsChain field more) : names = more := by
  obtain ⟨path, hpath, hnames⟩ := h
  obtain ⟨other, hother, hmore⟩ := h'
  rw [hpath] at hother
  cases hother
  rw [hnames] at hmore
  exact Option.some.inj hmore

theorem FieldPath.place_of_memberNames {path : FieldPath} {names : List String} (hne : names ≠ [])
    (h : path.memberNames? = some names) : path.place = names := by
  unfold place
  rw [h]
  cases names with
  | nil => exact absurd rfl hne
  | cons name names => rfl

namespace Window

open FieldPath (SpellsChain Apart chain)

/-- A field that is a chain of names puts what the chain finds under the chain. -/
theorem addField_of_spellsChain {field : String} {names : List String} (hne : names ≠ [])
    (h : SpellsChain field names) (record projection : Json) :
    addField record projection field = (chain names record).putAt names projection := by
  obtain ⟨path, hpath, hnames⟩ := h
  rw [addField_of_parse hpath, FieldPath.evaluate_of_memberNames hnames,
    FieldPath.place_of_memberNames hne hnames]

/-- Every selected field is a chain of member names, at least one, and none goes on from another. -/
structure SelectsChains (w : Window) : Prop where
  chains : ∀ field ∈ w.fields, ∃ path names, FieldPath.parse field = .ok path
    ∧ path.memberNames? = some names ∧ names ≠ []
  noExtension : ∀ field ∈ w.fields, ∀ other ∈ w.fields, ∀ path next,
    FieldPath.parse field = .ok path → FieldPath.parse other = .ok next →
      path.segments <+: next.segments → path.segments = next.segments

variable {w : Window}

theorem SelectsChains.ne_nil (hw : w.SelectsChains) {field : String} (hfield : field ∈ w.fields)
    {names : List String} (h : SpellsChain field names) : names ≠ [] := by
  obtain ⟨path, more, hpath, hmore, hne⟩ := hw.chains field hfield
  rw [h.unique ⟨path, hpath, hmore⟩]
  exact hne

/-- The chains of two fields are the same or part. -/
theorem SelectsChains.eq_or_apart (hw : w.SelectsChains) {field other : String}
    (hfield : field ∈ w.fields) (hother : other ∈ w.fields) {names more : List String}
    (h : SpellsChain field names) (h' : SpellsChain other more) :
    names = more ∨ Apart names more := by
  obtain ⟨path, hpath, hnames⟩ := h
  obtain ⟨next, hnext, hmore⟩ := h'
  have hsegments := FieldPath.memberNames?_eq_some_iff.mp hnames
  have hsegments' := FieldPath.memberNames?_eq_some_iff.mp hmore
  have hinj : Function.Injective Segment.member := fun _ _ h => Segment.member.inj h
  have heq : ∀ {ns ms : List String}, ns.map Segment.member = ms.map Segment.member → ns = ms :=
    fun h => List.map_injective_iff.mpr hinj h
  by_cases hgoes : names <+: more
  · left
    have hsame := hw.noExtension field hfield other hother path next hpath hnext
    rw [hsegments, hsegments'] at hsame
    exact heq (hsame (hgoes.map _))
  · by_cases hback : more <+: names
    · left
      have hsame := hw.noExtension other hother field hfield next path hnext hpath
      rw [hsegments, hsegments'] at hsame
      exact (heq (hsame (hback.map _))).symm
    · exact Or.inr ⟨hgoes, hback⟩

/-! ## The partly built projection -/

/-- What is known of a projection once some of the fields were added. -/
structure Projected (w : Window) (record : Json) (done : List String) (projection : Json) :
    Prop where
  /-- The way to every place is free. -/
  entered : ∀ field ∈ w.fields, ∀ names, SpellsChain field names →
    Json.Open names (some projection)
  /-- A place holds nothing else than its own field. -/
  own : ∀ field ∈ w.fields, ∀ names, SpellsChain field names →
    chain names projection = .missing ∨ chain names projection = (chain names record).copied
  /-- The place of an added field holds it. -/
  added : ∀ field ∈ w.fields, field ∈ done → ∀ names, SpellsChain field names →
    chain names projection = (chain names record).copied
  /-- Nothing is found apart from all places. -/
  only : ∀ names, names ≠ [] → (∀ field ∈ w.fields, ∀ more, SpellsChain field more →
    Apart more names) → chain names projection = .missing

theorem Projected.empty (hw : w.SelectsChains) (record : Json) :
    w.Projected record [] (.object []) where
  entered _ _ names _ := Json.open_empty names
  own field hfield names h := by
    obtain ⟨name, rest, rfl⟩ := List.exists_cons_of_ne_nil (hw.ne_nil hfield h)
    exact Or.inl (FieldPath.chain_cons_object name rest [])
  added _ _ hdone := absurd hdone List.not_mem_nil
  only names hne _ := by
    obtain ⟨name, rest, rfl⟩ := List.exists_cons_of_ne_nil hne
    exact FieldPath.chain_cons_object name rest []

section

variable {record projection : Json} {done : List String}

/-- What a field finds is found again in its place. -/
theorem chain_putAt_self {names : List String}
    (hown : chain names projection = .missing
      ∨ chain names projection = (chain names record).copied) :
    chain names ((chain names record).putAt names projection) = (chain names record).copied := by
  cases hfound : chain names record with
  | missing =>
      rw [hfound] at hown
      rcases hown with h | h
      · exact h
      · exact h
  | value v => exact Json.chain_setAt _ names _
  | many items => exact Json.chain_setAt _ names _

/-- Chains that part from the place find what they found. -/
theorem chain_putAt_of_apart {names other : List String} (found : Resolved)
    (h : Apart names other) (hopen : Json.Open names (some projection)) :
    chain other (found.putAt names projection) = chain other projection := by
  cases found with
  | missing => rfl
  | value v => exact Json.chain_setAt_of_apart _ h hopen
  | many items => exact Json.chain_setAt_of_apart _ h hopen

theorem open_putAt {names other : List String} (found : Resolved)
    (h : names <+: other → names = other) (hopen : Json.Open other (some projection)) :
    Json.Open other (some (found.putAt names projection)) := by
  cases found with
  | missing => exact hopen
  | value v => exact Json.open_setAt _ h hopen
  | many items => exact Json.open_setAt _ h hopen

/-- One more field. -/
theorem Projected.addField (hw : w.SelectsChains) (h : w.Projected record done projection)
    {field : String} (hfield : field ∈ w.fields) :
    w.Projected record (field :: done) (addField record projection field) := by
  obtain ⟨path, names, hpath, hnames, hne⟩ := hw.chains field hfield
  have hspells : SpellsChain field names := ⟨path, hpath, hnames⟩
  have hopen := h.entered field hfield names hspells
  have hown := h.own field hfield names hspells
  rw [addField_of_spellsChain hne hspells]
  constructor
  · intro other hother more hmore
    apply open_putAt
    · intro hgoes
      rcases hw.eq_or_apart hfield hother hspells hmore with heq | hapart
      · exact heq
      · exact absurd hgoes hapart.1
    · exact h.entered other hother more hmore
  · intro other hother more hmore
    rcases hw.eq_or_apart hfield hother hspells hmore with rfl | hapart
    · exact Or.inr (chain_putAt_self hown)
    · rw [chain_putAt_of_apart _ hapart hopen]
      exact h.own other hother more hmore
  · intro other hother hdone more hmore
    rcases hw.eq_or_apart hfield hother hspells hmore with rfl | hapart
    · exact chain_putAt_self hown
    · rw [chain_putAt_of_apart _ hapart hopen]
      rcases List.mem_cons.mp hdone with rfl | hdone
      · exact absurd List.prefix_rfl (hspells.unique hmore ▸ hapart.1)
      · exact h.added other hother hdone more hmore
  · intro other hother hapart
    rw [chain_putAt_of_apart _ (hapart field hfield names hspells) hopen]
    exact h.only other hother hapart

/-- All further fields, one after the other. -/
theorem Projected.addFields (hw : w.SelectsChains) (h : w.Projected record done projection)
    {fields : List String} (hfields : ∀ field ∈ fields, field ∈ w.fields) :
    w.Projected record (fields.reverse ++ done)
      (fields.foldl (Window.addField record) projection) := by
  induction fields generalizing done projection with
  | nil => exact h
  | cons field rest ih =>
      have hstep := h.addField hw (hfields field List.mem_cons_self)
      have hrest := ih hstep fun g hg => hfields g (List.mem_cons_of_mem _ hg)
      rw [List.reverse_cons, List.append_assoc]
      exact hrest

/-- A chain that finds anything goes on from a field, or a field goes on from it. -/
theorem Projected.exists_field (hw : w.SelectsChains) (hne : w.fields ≠ [])
    (h : w.Projected record done projection) {path : FieldPath} {names : List String}
    (hnames : path.memberNames? = some names) (hfound : path.evaluate projection ≠ .missing) :
    ∃ field ∈ w.fields, ∃ own, FieldPath.parse field = .ok own
      ∧ (path.segments <+: own.segments ∨ own.segments <+: path.segments) := by
  have hsegments := FieldPath.memberNames?_eq_some_iff.mp hnames
  rw [FieldPath.evaluate_of_memberNames hnames] at hfound
  cases names with
  | nil =>
      obtain ⟨field, hfield⟩ := List.exists_mem_of_ne_nil w.fields hne
      obtain ⟨own, -, hown, -⟩ := hw.chains field hfield
      rw [hsegments]
      exact ⟨field, hfield, own, hown, Or.inl List.nil_prefix⟩
  | cons name rest =>
      by_contra hnone
      refine hfound (h.only _ (List.cons_ne_nil _ _) ?_)
      -- no field is related to the chain, so all of them part from it
      rintro field hfield more ⟨own, hown, hmore⟩
      have hownSegments := FieldPath.memberNames?_eq_some_iff.mp hmore
      constructor
      · intro hgoes
        refine hnone ⟨field, hfield, own, hown, Or.inr ?_⟩
        rw [hsegments, hownSegments]
        exact hgoes.map _
      · intro hgoes
        refine hnone ⟨field, hfield, own, hown, Or.inl ?_⟩
        rw [hsegments, hownSegments]
        exact hgoes.map _

end

/-- **The projection of a record.** It is an object, in which the path of every field finds a copy
of what it finds in the record, and chains apart from all fields find nothing. -/
theorem SelectsChains.projected (hw : w.SelectsChains) (hne : w.fields ≠ []) (record : Json) :
    ∃ members, w.select record = .ok (.object members)
      ∧ w.Projected record w.fields.reverse (.object members) := by
  have hread : ∀ field ∈ w.fields, ∃ path, FieldPath.parse field = .ok path := by
    intro field hfield
    obtain ⟨path, -, hpath, -⟩ := hw.chains field hfield
    exact ⟨path, hpath⟩
  obtain ⟨out, hout, heq⟩ := @selectFrom_eq_ok record w.fields hread []
  refine ⟨out, ?_, ?_⟩
  · rw [select_eq_ok hne hread, heq]
  · have hall := (Projected.empty hw record).addFields hw fun _ h => h
    rw [List.append_nil] at hall
    rw [heq]
    exact hall

/-! ## Queries on projections -/

/-- A path text is selected: some selected field has the same segments. -/
def Selects (w : Window) (text : String) : Prop :=
  ∃ field ∈ w.fields, ∃ path next, FieldPath.parse field = .ok path
    ∧ FieldPath.parse text = .ok next ∧ path.segments = next.segments

/-- What a projection has to keep: the path of every field finds a copy of what it found. -/
def Keeps (w : Window) (record projection : Json) : Prop :=
  ∀ field ∈ w.fields, ∀ path, FieldPath.parse field = .ok path →
    path.evaluate projection = (path.evaluate record).copied

theorem SelectsChains.exists_keeps (hw : w.SelectsChains) (record : Json) :
    ∃ projection, w.select record = .ok projection ∧ w.Keeps record projection := by
  by_cases hne : w.fields = []
  · refine ⟨record, select_of_no_fields hne record, ?_⟩
    intro field hfield
    rw [hne] at hfield
    cases hfield
  · obtain ⟨members, hselect, hprojected⟩ := hw.projected hne record
    refine ⟨.object members, hselect, ?_⟩
    intro field hfield path hpath
    obtain ⟨path', names, hpath', hnames, -⟩ := hw.chains field hfield
    rw [hpath] at hpath'
    cases hpath'
    rw [FieldPath.evaluate_of_memberNames hnames, FieldPath.evaluate_of_memberNames hnames]
    exact hprojected.added field hfield (List.mem_reverse.mpr hfield) names ⟨path, hpath, hnames⟩

/-- The value at a selected path is kept. -/
theorem Keeps.toValue_eq {record projection : Json} (h : w.Keeps record projection) {text : String}
    (hselects : w.Selects text) {path : FieldPath} (hpath : FieldPath.parse text = .ok path) :
    (path.evaluate projection).toValue = (path.evaluate record).toValue := by
  obtain ⟨field, hfield, own, next, hown, hnext, hsegments⟩ := hselects
  rw [hpath] at hnext
  cases hnext
  have hkept := h field hfield own hown
  unfold FieldPath.evaluate at hkept ⊢
  rw [← hsegments, hkept, Resolved.toValue_copied]

/-- **Projections are faithful.** Selecting by chains of member names of which none goes on from
another one gives the record itself when no field is selected, and otherwise an object.  In it the
path of every field finds a copy of what it finds in the record, and a chain of names that finds
anything goes on from a field or is gone on from by one.  So a filter or an order whose paths are
selected does not tell records from their projections. -/
theorem select_faithful {w : Window} (hw : w.SelectsChains) :
    (∀ record, ∃ projection, w.select record = .ok projection
      ∧ (w.fields = [] → projection = record)
      ∧ (w.fields ≠ [] → (∃ members, projection = .object members)
        ∧ ∀ path names, FieldPath.memberNames? path = some names →
          path.evaluate projection ≠ .missing →
          ∃ field ∈ w.fields, ∃ own, FieldPath.parse field = .ok own
            ∧ (path.segments <+: own.segments ∨ own.segments <+: path.segments))
      ∧ ∀ field ∈ w.fields, ∀ path, FieldPath.parse field = .ok path →
        path.evaluate projection = (path.evaluate record).copied)
    ∧ (∀ record projection, w.select record = .ok projection →
      ∀ (options : MatchOptions) (f : Filter) (test : Predicate),
        f.compile options.mode = .ok test → (∀ leaf ∈ f.leaves, w.Selects leaf.1) →
        test projection = test record)
    ∧ (∀ first second projection projection', w.select first = .ok projection →
      w.select second = .ok projection' →
      ∀ (options : MatchOptions) (order : SortOrder) (c : Comparator),
        order.compile options = .ok c → (∀ field ∈ order, w.Selects field.name) →
        c.compare projection projection' = c.compare first second) := by
  have hkeeps : ∀ record projection, w.select record = .ok projection →
      w.Keeps record projection := by
    intro record projection h
    obtain ⟨kept, hkept, hall⟩ := hw.exists_keeps record
    rw [h] at hkept
    cases hkept
    exact hall
  refine ⟨?_, ?_, ?_⟩
  · intro record
    by_cases hne : w.fields = []
    · have hselect := select_of_no_fields hne record
      exact ⟨record, hselect, fun _ => rfl, fun h => absurd hne h, hkeeps record record hselect⟩
    · obtain ⟨members, hselect, hprojected⟩ := hw.projected hne record
      refine ⟨.object members, hselect, fun h => absurd h hne, fun _ => ⟨⟨members, rfl⟩, ?_⟩,
        hkeeps record _ hselect⟩
      intro path names hnames hfound
      exact hprojected.exists_field hw hne hnames hfound
  · intro record projection h options f test htest hselects
    apply Filter.eq_of_agreeAt f test htest
    intro leaf hleaf path hpath
    exact (hkeeps record projection h).toValue_eq (hselects leaf hleaf) hpath
  · intro first second projection projection' h h' options order c hc hselects
    obtain ⟨ks, hks, hc⟩ := Except.bind_eq_ok_iff.mp hc
    cases hc
    apply Comparator.compareBy_congr
    intro key hkey
    have hpath := SortOrder.path_of_mem_keys hks key hkey
    have hselected := hselects key.field (SortOrder.field_mem_of_mem_keys hks key hkey)
    exact ⟨(hkeeps first projection h).toValue_eq hselected hpath,
      (hkeeps second projection' h').toValue_eq hselected hpath⟩

/-- Names and roles of a cast, in two spellings and with a repeat. -/
def castWindow : Window :=
  { fields := ["cast.name", "cast['role']", "cast.name"] }

theorem castWindow_selectsChains : castWindow.SelectsChains := by
  have hname : FieldPath.parse "cast.name"
      = .ok ⟨"cast.name", [.member "cast", .member "name"]⟩ := rfl
  have hrole : FieldPath.parse "cast['role']"
      = .ok ⟨"cast['role']", [.member "cast", .member "role"]⟩ := rfl
  have hfields : ∀ field ∈ castWindow.fields, field = "cast.name" ∨ field = "cast['role']" := by
    decide
  have htwo : ∀ field ∈ castWindow.fields, ∀ path, FieldPath.parse field = .ok path →
      path.segments.length = 2 := by
    intro field hfield path hpath
    rcases hfields field hfield with rfl | rfl
    · rw [hname] at hpath
      cases hpath
      rfl
    · rw [hrole] at hpath
      cases hpath
      rfl
  constructor
  · intro field hfield
    rcases hfields field hfield with rfl | rfl
    · exact ⟨_, _, hname, rfl, List.cons_ne_nil _ _⟩
    · exact ⟨_, _, hrole, rfl, List.cons_ne_nil _ _⟩
  · intro field hfield other hother path next hpath hnext hgoes
    have hlength := (htwo field hfield path hpath).trans (htwo other hother next hnext).symm
    exact hgoes.eq_of_length hlength

/-- A cast whose second member has no role. -/
def castRecord : Json :=
  .object [("cast", .array [.object [("name", .string "Ford"), ("role", .null)],
    .object [("name", .string "McGillis")]]), ("year", .ofInt64 1985)]

/-- A test for roles that are absent does not tell the record, which holds an array of cast members,
from the projection, which holds two arrays of names and of roles. -/
theorem select_faithful_of_cast :
    ∃ projection test, castWindow.select castRecord = .ok projection
      ∧ (Filter.leaf "cast.role" (.null true)).compile .folded = .ok test
      ∧ test projection = test castRecord := by
  obtain ⟨hselects, hfilters, -⟩ := select_faithful castWindow_selectsChains
  obtain ⟨projection, hprojection, -⟩ := hselects castRecord
  obtain ⟨test, htest⟩ : ∃ test,
      (Filter.leaf "cast.role" (.null true)).compile .folded = .ok test := ⟨_, rfl⟩
  refine ⟨projection, test, hprojection, htest, ?_⟩
  refine hfilters castRecord projection hprojection ⟨false⟩ _ test htest ?_
  intro leaf hleaf
  rw [List.mem_singleton.mp hleaf]
  exact ⟨"cast['role']", by decide, _, _, rfl, rfl, rfl⟩

/-- Without a field the record itself is given, which need not be an object. -/
theorem select_null_of_no_fields :
    SelectsChains {} ∧ select {} .null = .ok .null
      ∧ ¬ ∃ members, select {} .null = .ok (.object members) := by
  refine ⟨⟨nofun, nofun⟩, rfl, ?_⟩
  rintro ⟨members, h⟩
  cases h

end Window

end RecordQuery
