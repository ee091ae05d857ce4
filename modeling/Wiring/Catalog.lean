import Wiring.ClassTable

/-!
# Catalogs of Injection Points

A `Catalog` sorts the member table of a class into what the container works with: the
constructor, the injection points of an object, and the static injection points. Points are
kept fields first, then methods, each in the order of declaration. A table with an optional
constructor or with more than one constructor has no catalog.

## Main statements

* `Catalog.build`: the catalog of a member table.
* `sortByKind_eq`: sorting by kind lists the fields and then the methods.
-/

namespace Wiring

/-- Insert a member in front of the first member whose kind does not come before its own. -/
def insertByKind (m : Member) : List Member → List Member
  | [] => [m]
  | n :: rest =>
    if m.kind.rank ≤ n.kind.rank then m :: n :: rest else n :: insertByKind m rest

/-- The members sorted by kind; members of one kind keep their order. -/
def sortByKind (ms : List Member) : List Member := ms.foldr insertByKind []

/-- What the container works with to create and inject objects of a class. -/
structure Catalog where
  /-- The class. -/
  cls : ClassPath
  /-- The constructor, if one is declared. -/
  constructor : Option Member
  /-- The members to inject into an object, in order. -/
  instancePoints : List Member
  /-- The members to inject into the class itself, in order. -/
  staticPoints : List Member

namespace Catalog

/-- The short name of the class. -/
def typeName (c : Catalog) : String := TypeName.short c.cls

/-- The name of a member in messages. -/
def memberName (c : Catalog) (m : Member) : String := c.typeName ++ "." ++ m.name

/-- Whether a member is injected into an object. -/
def isInstancePoint (m : Member) : Bool := !m.isConstructor && !m.isStatic

/-- The only constructor among the members of `cls`, if there is one. -/
def soleConstructor (cls : ClassPath) (ms : List Member) :
    Except ConfigurationError (Option Member) :=
  let constructors := ms.filter Member.isConstructor
  if constructors.any Member.optional then .error (.optionalConstructor (TypeName.short cls))
  else
    match constructors with
    | [] => .ok none
    | [m] => .ok (some m)
    | several => .error (.multipleConstructors (TypeName.short cls) several.length)

/-- The catalog of the member table `ms` of `cls`. -/
def build (cls : ClassPath) (ms : List Member) : Except ConfigurationError Catalog :=
  (soleConstructor cls ms).map fun constructor =>
    { cls
      constructor
      instancePoints := sortByKind (ms.filter isInstancePoint)
      staticPoints := sortByKind (ms.filter Member.isStatic) }

end Catalog

/-! ### Sorting by kind -/

theorem insertByKind_field {m : Member} (h : m.kind = .field) (ms : List Member)
    (hms : ∀ n ∈ ms, n.kind ≠ .constructor) : insertByKind m ms = m :: ms := by
  cases ms with
  | nil => rfl
  | cons n rest =>
    have hn := hms n (by simp)
    have : m.kind.rank ≤ n.kind.rank := by
      rw [h]
      revert hn
      cases n.kind <;> simp [MemberKind.rank]
    simp [insertByKind, this]

theorem insertByKind_method {m : Member} (h : m.kind = .method) (fs ms : List Member)
    (hfs : ∀ n ∈ fs, n.kind = .field) (hms : ∀ n ∈ ms, n.kind = .method) :
    insertByKind m (fs ++ ms) = fs ++ m :: ms := by
  induction fs with
  | nil =>
    cases ms with
    | nil => rfl
    | cons n rest => simp [insertByKind, h, hms n (by simp)]
  | cons f fs ih =>
    have hf : ¬ m.kind.rank ≤ f.kind.rank := by
      rw [h, hfs f (by simp)]
      decide
    rw [List.cons_append, insertByKind, if_neg hf, ih fun n hn => hfs n (by simp [hn])]
    rfl

theorem sortByKind_eq (ms : List Member) (h : ∀ m ∈ ms, m.kind ≠ .constructor) :
    sortByKind ms =
      ms.filter (·.kind = .field) ++ ms.filter (·.kind = .method) := by
  induction ms with
  | nil => rfl
  | cons m ms ih =>
    have ih := ih fun n hn => h n (by simp [hn])
    have hm := h m (by simp)
    rw [sortByKind, List.foldr_cons]
    rw [sortByKind] at ih
    rw [ih]
    cases hk : m.kind with
    | constructor => exact absurd hk hm
    | field =>
      rw [insertByKind_field hk]
      · simp [hk]
      · intro n hn
        have : n.kind = .field ∨ n.kind = .method := by
          rw [List.mem_append, List.mem_filter, List.mem_filter] at hn
          rcases hn with ⟨_, hn⟩ | ⟨_, hn⟩
          · exact .inl (by simpa using hn)
          · exact .inr (by simpa using hn)
        rcases this with h | h <;> simp [h]
    | method =>
      rw [insertByKind_method hk]
      · simp [hk]
      · intro n hn; simpa using (List.mem_filter.1 hn).2
      · intro n hn; simpa using (List.mem_filter.1 hn).2

end Wiring
