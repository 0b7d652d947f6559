import RecordQuery.Proofs.Json.Nesting

/-!
# RecordQuery.Proofs.Json.Plain — values with a text that reads back

A plain value holds no doubles and keeps the members of its objects in order.  Plain values are put
together from plain parts: `Plain` and `PlainMembers` carry the depth along, and `PlainMembers` also
a list of names that the names of the members are taken from, so that their order is a fact about
that list.
-/

namespace RecordQuery.Json

/-! ## Values without doubles -/

mutual

/-- All numbers of a tree are stored integers. -/
def Integral : Json → Prop
  | number (.double _) => False
  | array items => IntegralItems items
  | object members => IntegralMembers members
  | _ => True

/-- All items are integral. -/
def IntegralItems : List Json → Prop
  | [] => True
  | x :: xs => Integral x ∧ IntegralItems xs

/-- All member values are integral. -/
def IntegralMembers : List (String × Json) → Prop
  | [] => True
  | (_, v) :: ms => Integral v ∧ IntegralMembers ms

end

variable {v : Json} {vs : List Json} {ms ns : List (String × Json)}

theorem canonicalMembers_append (hms : CanonicalMembers ms) (hns : CanonicalMembers ns) :
    CanonicalMembers (ms ++ ns) := by
  induction ms with
  | nil => exact hns
  | cons m ms ih => exact ⟨hms.1, ih hms.2⟩

theorem integralMembers_append (hms : IntegralMembers ms) (hns : IntegralMembers ns) :
    IntegralMembers (ms ++ ns) := by
  induction ms with
  | nil => exact hns
  | cons m ms ih => exact ⟨hms.1, ih hms.2⟩

/-! ## Plain values -/

/-- A plain value of a given depth. -/
structure Plain (v : Json) (d : Nat) : Prop where
  canonical : v.Canonical
  integral : v.Integral
  depth_eq : v.depth = d

/-- Plain items, of which the deepest has a given depth. -/
structure PlainItems (items : List Json) (d : Nat) : Prop where
  canonical : CanonicalItems items
  integral : IntegralItems items
  depth_eq : depthItems items = d

/-- Plain members, of which the deepest has a given depth, with names taken in order from a list. -/
structure PlainMembers (names : List String) (members : List (String × Json)) (d : Nat) :
    Prop where
  sublist : (members.map Prod.fst).Sublist names
  canonical : CanonicalMembers members
  integral : IntegralMembers members
  depth_eq : depthMembers members = d

theorem plain_string (s : String) : Plain (.string s) 0 :=
  ⟨trivial, trivial, rfl⟩

theorem plain_bool (b : Bool) : Plain (.bool b) 0 :=
  ⟨trivial, trivial, rfl⟩

theorem plain_ofInt64 (n : Int64) : Plain (.ofInt64 n) 0 :=
  ⟨trivial, trivial, rfl⟩

variable {names others : List String} {d₁ d₂ : Nat}

/-! ## Arrays -/

namespace PlainItems

theorem nil : PlainItems [] 0 :=
  ⟨trivial, trivial, rfl⟩

theorem cons (h : Plain v d₁) (hs : PlainItems vs d₂) : PlainItems (v :: vs) (max d₁ d₂) := by
  refine ⟨⟨h.canonical, hs.canonical⟩, ⟨h.integral, hs.integral⟩, ?_⟩
  rw [depthItems, h.depth_eq, hs.depth_eq]

/-- Items without brackets are plain together. -/
theorem of_forall (h : ∀ v ∈ vs, Plain v 0) : PlainItems vs 0 := by
  induction vs with
  | nil => exact nil
  | cons v vs ih =>
      exact cons (h v List.mem_cons_self) (ih fun w hw => h w (List.mem_cons_of_mem _ hw))

/-- An array adds a bracket to its items. -/
theorem array (h : PlainItems vs d₁) : Plain (.array vs) (d₁ + 1) := by
  refine ⟨h.canonical, h.integral, ?_⟩
  rw [depth, h.depth_eq]

end PlainItems

/-! ## Objects -/

namespace PlainMembers

theorem nil : PlainMembers [] [] 0 :=
  ⟨List.Sublist.slnil, trivial, trivial, rfl⟩

theorem cons (name : String) (h : Plain v d₁) (hs : PlainMembers names ms d₂) :
    PlainMembers (name :: names) ((name, v) :: ms) (max d₁ d₂) := by
  refine ⟨hs.sublist.cons_cons name, ⟨h.canonical, hs.canonical⟩, ⟨h.integral, hs.integral⟩, ?_⟩
  rw [depthMembers, h.depth_eq, hs.depth_eq]

/-- The name of a member may be left unused. -/
theorem skip (name : String) (hs : PlainMembers names ms d₁) :
    PlainMembers (name :: names) ms d₁ :=
  ⟨hs.sublist.cons name, hs.canonical, hs.integral, hs.depth_eq⟩

theorem append (hms : PlainMembers names ms d₁) (hns : PlainMembers others ns d₂) :
    PlainMembers (names ++ others) (ms ++ ns) (max d₁ d₂) := by
  refine ⟨?_, canonicalMembers_append hms.canonical hns.canonical,
    integralMembers_append hms.integral hns.integral, ?_⟩
  · rw [List.map_append]
    exact hms.sublist.append hns.sublist
  · rw [depthMembers_append, hms.depth_eq, hns.depth_eq]

/-- A member without brackets that may be left out. -/
theorem optional {α : Type} {write : α → Json} (name : String) (value : Option α)
    (h : ∀ x, Plain (write x) 0) :
    PlainMembers [name] (optionalMember name (value.map write)) 0 := by
  cases value with
  | none => exact nil.skip name
  | some x => exact cons name (h x) nil

/-- An object adds a bracket to its members, whose names have to be in order. -/
theorem object (h : PlainMembers names ms d₁)
    (horder : names.Pairwise fun a b => compare a b = .lt) : Plain (.object ms) (d₁ + 1) := by
  refine ⟨⟨?_, h.canonical⟩, h.integral, ?_⟩
  · have hnames := horder.sublist h.sublist
    rwa [List.pairwise_map] at hnames
  · rw [depth, h.depth_eq]

end PlainMembers

end RecordQuery.Json
