import Wiring.Proofs.Availability
import Wiring.Proofs.Catalogs

/-!
# Settling Optional Members

Whether an optional member is injected or skipped depends on the availability of its dependencies,
and that never changes in the life of a container. So it can be settled beforehand: an optional
member with an unavailable dependency is struck out of its class, and every other one is made
required. Constructors stay as they are.

Settling turns optional dependencies into requirements. It does not change what is available all
the same: such a dependency is available to begin with, so no dead end comes into reach.

## Main statements

* `Container.settled`: the container with all optional members settled.
* `Container.catalog_settled`: the catalogs of the settled classes.
* `Container.isAvailable_settled`: settling does not change what is available.
-/

namespace Wiring

namespace Table

variable {κ α β : Type}

/-- The table with its values changed. -/
def mapValues (f : α → β) (t : Table κ α) : Table κ β :=
  ⟨t.entries.map fun e => (e.1, f e.2), by
    have hkeys : (t.entries.map fun e => (e.1, f e.2)).map Prod.fst = t.entries.map Prod.fst := by
      rw [List.map_map]
      rfl
    rw [hkeys]
    exact t.nodup⟩

variable [DecidableEq κ]

theorem get?_mapValues (f : α → β) (t : Table κ α) (k : κ) :
    (t.mapValues f).get? k = (t.get? k).map f := by
  have hfind : ∀ es : List (κ × α), find k (es.map fun e => (e.1, f e.2)) = (find k es).map f := by
    intro es
    induction es with
    | nil => rfl
    | cons e es ih =>
      rw [List.map_cons, find, find]
      by_cases hk : e.1 = k
      · rw [if_pos hk, if_pos hk]
        rfl
      · rw [if_neg hk, if_neg hk]
        exact ih
  exact hfind t.entries

end Table

namespace Container

variable (c : Container)

/-! ### The settled classes -/

/-- What becomes of a member: nothing, if it is optional and a dependency of it is not available.
Otherwise it is required, unless it is a constructor, which stays as it is. -/
def settleMember (m : Member) : Option Member :=
  if m.isConstructor then some m
  else if m.optional && !m.dependencies.all c.isAvailable then none
  else some (m.withOptional false)

/-- What becomes of the declaration of a class. -/
def settleDecl (decl : ClassDecl) : ClassDecl :=
  { decl with members := decl.members.filterMap c.settleMember }

/-- The container with all optional members settled. -/
def settled : Container := { c with classes := c.classes.mapValues c.settleDecl }

/-- What becomes of a catalog. -/
def settleCatalog (cat : Catalog) : Catalog :=
  { cat with
    instancePoints := cat.instancePoints.filterMap c.settleMember
    staticPoints := cat.staticPoints.filterMap c.settleMember }

theorem decl_settled (cls : ClassPath) :
    c.settled.classes.decl cls = c.settleDecl (c.classes.decl cls) := by
  unfold ClassTable.decl settled
  rw [Table.get?_mapValues]
  cases c.classes.get? cls <;> rfl

theorem members_settled (cls : ClassPath) :
    c.settled.classes.members cls = (c.classes.members cls).filterMap c.settleMember := by
  unfold ClassTable.members
  rw [decl_settled]
  rfl

theorem size_settled : c.settled.classes.size = c.classes.size := by
  simp [settled, Table.mapValues, Table.size]

theorem depthBound_settled : c.settled.depthBound = c.depthBound := by
  unfold depthBound
  rw [size_settled]
  rfl

variable {c}

/-- Settling a member keeps what it belongs to. -/
theorem role_of_settleMember {m m' : Member} (h : c.settleMember m = some m') :
    m'.role = m.role := by
  unfold settleMember at h
  split at h
  · cases h
    rfl
  · split at h
    · cases h
    · cases h
      rfl

/-- A question about what members belong to may be asked before or after settling. -/
theorem filter_filterMap_settleMember {q : Member → Bool}
    (hq : ∀ m m' : Member, m'.role = m.role → q m' = q m) (ms : List Member) :
    (ms.filterMap c.settleMember).filter q = (ms.filter q).filterMap c.settleMember := by
  induction ms with
  | nil => rfl
  | cons m ms ih =>
    cases hm : c.settleMember m with
    | none =>
      rw [List.filterMap_cons_none hm, ih, List.filter_cons]
      split
      · rw [List.filterMap_cons_none hm]
      · rfl
    | some m' =>
      rw [List.filterMap_cons_some hm, List.filter_cons, List.filter_cons,
        hq m m' (role_of_settleMember hm), ih]
      split
      · rw [List.filterMap_cons_some hm]
      · rfl

/-- Constructors stay. -/
theorem filterMap_settleMember_constructors (ms : List Member) :
    (ms.filterMap c.settleMember).filter Member.isConstructor = ms.filter Member.isConstructor := by
  rw [filter_filterMap_settleMember fun m m' h => by unfold Member.isConstructor; rw [h]]
  have hall : ∀ m ∈ ms.filter Member.isConstructor, c.settleMember m = some m := by
    intro m hm
    unfold settleMember
    rw [if_pos (List.mem_filter.mp hm).2]
  exact (List.filterMap_congr hall).trans List.filterMap_some

/-- Members are sorted before or after settling. -/
theorem sortByKind_filterMap_settleMember {ms : List Member}
    (h : ∀ m ∈ ms, m.kind ≠ .constructor) :
    sortByKind (ms.filterMap c.settleMember) = (sortByKind ms).filterMap c.settleMember := by
  have h' : ∀ m ∈ ms.filterMap c.settleMember, m.kind ≠ .constructor := by
    intro m hm
    obtain ⟨n, hn, hnm⟩ := List.mem_filterMap.mp hm
    unfold Member.kind
    rw [role_of_settleMember hnm]
    exact h n hn
  rw [sortByKind_eq ms h, sortByKind_eq _ h', List.filterMap_append]
  have hkind : ∀ k : MemberKind, (ms.filterMap c.settleMember).filter (·.kind = k) =
      (ms.filter (·.kind = k)).filterMap c.settleMember := fun k =>
    filter_filterMap_settleMember
      (fun m m' h => decide_eq_decide.mpr (by simp only [Member.kind, h])) ms
  rw [hkind, hkind]

/-- The catalogs of the settled classes are the settled catalogs. -/
theorem catalog_settled (c : Container) (cls : ClassPath) :
    c.settled.classes.catalog cls = (c.classes.catalog cls).map c.settleCatalog := by
  have hsole : Catalog.soleConstructor cls (c.settled.classes.members cls) =
      Catalog.soleConstructor cls (c.classes.members cls) := by
    unfold Catalog.soleConstructor
    rw [members_settled, filterMap_settleMember_constructors]
  unfold ClassTable.catalog Catalog.build
  rw [hsole, members_settled]
  cases Catalog.soleConstructor cls (c.classes.members cls) with
  | error e => rfl
  | ok m =>
    have hpoint : ∀ m m' : Member, m'.role = m.role →
        Catalog.isInstancePoint m' = Catalog.isInstancePoint m := fun m m' h => by
      unfold Catalog.isInstancePoint Member.isConstructor Member.isStatic
      rw [h]
    have hstatic : ∀ m m' : Member, m'.role = m.role → m'.isStatic = m.isStatic := fun m m' h => by
      unfold Member.isStatic
      rw [h]
    rw [filter_filterMap_settleMember hpoint, filter_filterMap_settleMember hstatic,
      sortByKind_filterMap_settleMember fun m hm =>
        kind_of_isInstancePoint (List.mem_filter.mp hm).2,
      sortByKind_filterMap_settleMember fun m hm => kind_of_isStatic (List.mem_filter.mp hm).2]
    rfl

/-! ### Availability -/

/-- Classes have constructors and catalogs as before. -/
theorem constructs_settled_iff {d : Dependency} {cls : ClassPath} {cat' : Catalog} {m : Member} :
    c.settled.Constructs c.settled.classes.catalog d cls cat' m ↔
      ∃ cat, c.Constructs c.classes.catalog d cls cat m ∧ cat' = c.settleCatalog cat := by
  constructor
  · rintro ⟨hunbound, hjit, hcat, hm⟩
    rw [catalog_settled] at hcat
    cases hold : c.classes.catalog cls with
    | error e =>
      rw [hold] at hcat
      cases hcat
    | ok cat =>
      rw [hold] at hcat
      cases hcat
      exact ⟨cat, ⟨hunbound, hjit, hold, hm⟩, rfl⟩
  · rintro ⟨cat, ⟨hunbound, hjit, hcat, hm⟩, rfl⟩
    exact ⟨hunbound, hjit, by rw [catalog_settled, hcat]; rfl, hm⟩

/-- Dead ends are as before. -/
theorem deadEnd_settled_iff {d : Dependency} :
    c.settled.DeadEnd c.settled.classes.catalog d ↔ c.DeadEnd c.classes.catalog d := by
  refine and_congr_right fun _ => or_congr_right ⟨?_, ?_⟩
  · rintro ⟨cls, cat', hjit, hcat, hm⟩
    rw [catalog_settled] at hcat
    cases hold : c.classes.catalog cls with
    | error e =>
      rw [hold] at hcat
      cases hcat
    | ok cat =>
      rw [hold] at hcat
      cases hcat
      exact ⟨cls, cat, hjit, hold, hm⟩
  · rintro ⟨cls, cat, hjit, hcat, hm⟩
    exact ⟨cls, c.settleCatalog cat, hjit, by rw [catalog_settled, hcat]; rfl, hm⟩

/-- A required member is kept. -/
theorem settleMember_of_required {m : Member} (h : m.optional = false) :
    c.settleMember m = some m := by
  unfold settleMember
  split
  · rfl
  · rw [if_neg (by simp [h]), Member.withOptional, ← h]

/-- What was required still is. -/
theorem requires_settled {d e : Dependency} (h : c.Requires c.classes.catalog d e) :
    c.settled.Requires c.settled.classes.catalog d e := by
  obtain ⟨cls, cat, m, hc, he⟩ := h
  refine ⟨cls, c.settleCatalog cat, m, constructs_settled_iff.mpr ⟨cat, hc, rfl⟩, ?_⟩
  rw [Catalog.requirements, List.mem_append, List.mem_flatMap] at he ⊢
  refine he.imp id fun ⟨p, hp, he⟩ => ⟨p, ?_, he⟩
  rw [List.mem_filter, Bool.not_eq_true'] at hp ⊢
  exact ⟨List.mem_filterMap.mpr ⟨p, hp.1, settleMember_of_required hp.2⟩, hp.2⟩

/-- What is newly required is available. -/
theorem requires_of_settled {d e : Dependency}
    (h : c.settled.Requires c.settled.classes.catalog d e) :
    c.Requires c.classes.catalog d e ∨ c.isAvailable e = true := by
  obtain ⟨cls, cat', m, hc', he⟩ := h
  obtain ⟨cat, hc, rfl⟩ := constructs_settled_iff.mp hc'
  rw [Catalog.requirements, List.mem_append, List.mem_flatMap] at he
  rcases he with he | ⟨p', hp', he⟩
  · exact .inl ⟨cls, cat, m, hc, List.mem_append_left _ he⟩
  obtain ⟨p, hp, hsettle⟩ := List.mem_filterMap.mp (List.mem_filter.mp hp').1
  cases hopt : p.optional with
  | false =>
    rw [settleMember_of_required hopt] at hsettle
    obtain rfl := Option.some.inj hsettle
    refine .inl ⟨cls, cat, m, hc, List.mem_append_right _ (List.mem_flatMap.mpr ⟨p, ?_, he⟩)⟩
    exact List.mem_filter.mpr ⟨hp, by simp [hopt]⟩
  | true =>
    obtain ⟨form, path, hrole⟩ := ClassTable.role_of_mem_instancePoints hc.catalog hp
    unfold settleMember at hsettle
    rw [if_neg (by simp [Member.isConstructor, hrole])] at hsettle
    split at hsettle
    · cases hsettle
    · rename_i havailable
      cases hsettle
      simp only [hopt, Bool.true_and, Bool.not_eq_true', Bool.not_eq_false, List.all_eq_true]
        at havailable
      exact .inr (havailable e he)

/-- Settling does not change what is available. -/
theorem isAvailable_settled (c : Container) (d : Dependency) :
    c.settled.isAvailable d = c.isAvailable d := by
  have hiff : (∃ n, c.settled.Lacks c.settled.classes.catalog n d) ↔
      ∃ n, c.Lacks c.classes.catalog n d := by
    constructor
    · rintro ⟨n, h⟩
      induction h with
      | here hd => exact ⟨0, .here (deadEnd_settled_iff.mp hd)⟩
      | there hr _ ih =>
        obtain ⟨n, hn⟩ := ih
        rcases requires_of_settled hr with hr | havailable
        · exact ⟨n + 1, .there hr hn⟩
        · -- an optional dependency that became required is available, so it lacks nothing
          have hlacks := (c.isAvailable_eq_false_iff _).mpr ⟨n, hn⟩
          rw [havailable] at hlacks
          cases hlacks
    · rintro ⟨n, h⟩
      induction h with
      | here hd => exact ⟨0, .here (deadEnd_settled_iff.mpr hd)⟩
      | there hr _ ih =>
        obtain ⟨n, hn⟩ := ih
        exact ⟨n + 1, .there (requires_settled hr) hn⟩
  rw [← isAvailable_eq_false_iff, ← isAvailable_eq_false_iff] at hiff
  cases h : c.isAvailable d with
  | false => exact hiff.mpr h
  | true =>
    cases h' : c.settled.isAvailable d with
    | true => rfl
    | false =>
      rw [hiff.mp h'] at h
      cases h

end Container

end Wiring
