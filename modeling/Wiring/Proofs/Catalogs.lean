import Wiring.Proofs.Conduct

/-!
# Catalogs Stay True to the Class Table

What a container does never makes it keep a catalog that is not the one of its class table. So in
every state that a container can come to, the catalogs in use are those of the class table, and
questions about classes are answered by the table alone.

The module also says what is in a catalog of the class table.

## Main statements

* `ClassTable.catalog_eq_ok`, `ClassTable.role_of_mem_instancePoints`: what is in a catalog.
* `Container.faithful`: the discipline of keeping only catalogs of the class table.
* `Container.InUse.faithful`: a container keeps to it in all states that it can come to.
-/

namespace Wiring

/-! ### What is in a catalog -/

/-- Sorting by kind keeps the members of a list without constructors. -/
theorem mem_sortByKind {ms : List Member} (h : ∀ m ∈ ms, m.kind ≠ .constructor) (m : Member) :
    m ∈ sortByKind ms ↔ m ∈ ms := by
  rw [sortByKind_eq ms h, List.mem_append, List.mem_filter, List.mem_filter]
  constructor
  · rintro (⟨hm, -⟩ | ⟨hm, -⟩) <;> exact hm
  · intro hm
    have hk := h m hm
    revert hk
    cases hkind : m.kind <;> simp [hm]

/-- A member that is injected into an object is no constructor. -/
theorem kind_of_isInstancePoint {m : Member} (h : Catalog.isInstancePoint m = true) :
    m.kind ≠ .constructor := by
  unfold Catalog.isInstancePoint Member.isConstructor Member.isStatic at h
  unfold Member.kind
  cases hr : m.role with
  | constructor => simp [hr] at h
  | instanceOf form path => cases form <;> simp [Role.kind, Form.kind]
  | static form => simp [hr] at h

/-- A static member is no constructor. -/
theorem kind_of_isStatic {m : Member} (h : m.isStatic = true) : m.kind ≠ .constructor := by
  unfold Member.isStatic at h
  unfold Member.kind
  cases hr : m.role with
  | constructor => simp [hr] at h
  | instanceOf form path => simp [hr] at h
  | static form => cases form <;> simp [Role.kind, Form.kind]

/-- All members that a catalog lists. -/
def Catalog.members (cat : Catalog) : List Member :=
  cat.constructor.toList ++ cat.instancePoints ++ cat.staticPoints

namespace ClassTable

variable {t : ClassTable} {cls : ClassPath} {cat : Catalog}

/-- The catalog of a class sorts its members. -/
theorem catalog_eq_ok (h : t.catalog cls = .ok cat) :
    cat.cls = cls ∧ Catalog.soleConstructor cls (t.members cls) = .ok cat.constructor ∧
      cat.instancePoints = sortByKind ((t.members cls).filter Catalog.isInstancePoint) ∧
      cat.staticPoints = sortByKind ((t.members cls).filter Member.isStatic) := by
  unfold ClassTable.catalog Catalog.build at h
  cases hc : Catalog.soleConstructor cls (t.members cls) with
  | error e => simp [hc, Except.map] at h
  | ok m =>
    rw [hc] at h
    cases h
    exact ⟨rfl, rfl, rfl, rfl⟩

/-- What a catalog lists are members of its class. -/
theorem mem_members (h : t.catalog cls = .ok cat) {m : Member} (hm : m ∈ cat.members) :
    m ∈ t.members cls := by
  obtain ⟨-, hsole, hpoints, hstatics⟩ := catalog_eq_ok h
  rcases List.mem_append.mp hm with hm | hm
  · rcases List.mem_append.mp hm with hm | hm
    · have hconstructor := Option.mem_toList.mp hm
      unfold Catalog.soleConstructor at hsole
      dsimp only at hsole
      split at hsole
      · cases hsole
      · split at hsole
        · rw [← Except.ok.inj hsole] at hconstructor
          cases hconstructor
        · next n heq =>
          rw [← Except.ok.inj hsole] at hconstructor
          cases hconstructor
          have hmem : m ∈ (t.members cls).filter Member.isConstructor := by
            rw [heq]
            exact List.mem_singleton_self m
          exact (List.mem_filter.mp hmem).1
        · cases hsole
    · have hkinds : ∀ m ∈ (t.members cls).filter Catalog.isInstancePoint, m.kind ≠ .constructor :=
        fun m hm => kind_of_isInstancePoint (List.mem_filter.mp hm).2
      rw [hpoints, mem_sortByKind hkinds] at hm
      exact (List.mem_filter.mp hm).1
  · have hkinds : ∀ m ∈ (t.members cls).filter Member.isStatic, m.kind ≠ .constructor :=
      fun m hm => kind_of_isStatic (List.mem_filter.mp hm).2
    rw [hstatics, mem_sortByKind hkinds] at hm
    exact (List.mem_filter.mp hm).1

/-- The members that are injected into an object belong to it or to one of its parts. -/
theorem role_of_mem_instancePoints (h : t.catalog cls = .ok cat) {m : Member}
    (hm : m ∈ cat.instancePoints) : ∃ form path, m.role = .instanceOf form path := by
  obtain ⟨-, -, hpoints, -⟩ := catalog_eq_ok h
  have hkinds : ∀ m ∈ (t.members cls).filter Catalog.isInstancePoint, m.kind ≠ .constructor :=
    fun m hm => kind_of_isInstancePoint (List.mem_filter.mp hm).2
  rw [hpoints, mem_sortByKind hkinds, List.mem_filter] at hm
  have hpoint := hm.2
  unfold Catalog.isInstancePoint Member.isConstructor Member.isStatic at hpoint
  cases hr : m.role with
  | constructor => simp [hr] at hpoint
  | instanceOf form path => exact ⟨form, path, rfl⟩
  | static form => simp [hr] at hpoint

/-- Static members are static. -/
theorem isStatic_of_mem_staticPoints (h : t.catalog cls = .ok cat) {m : Member}
    (hm : m ∈ cat.staticPoints) : m.isStatic = true := by
  obtain ⟨-, -, -, hstatics⟩ := catalog_eq_ok h
  have hkinds : ∀ m ∈ (t.members cls).filter Member.isStatic, m.kind ≠ .constructor :=
    fun m hm => kind_of_isStatic (List.mem_filter.mp hm).2
  rw [hstatics, mem_sortByKind hkinds] at hm
  exact (List.mem_filter.mp hm).2

end ClassTable

/-! ### The discipline -/

namespace Container

variable (c : Container)

/-- The discipline of keeping only catalogs of the class table. -/
def faithful : Discipline := .ofInvariant (·.Faithful c)

theorem admitsAll_faithful : c.faithful.AdmitsAll c where
  fresh _ _ := trivial
  mentioned _ _ := trivial
  effect {s s'} hs h := by
    refine ⟨?_, trivial⟩
    cases h with
    | catalog cls cat _ hcat =>
      intro other cat' hk
      simp only [State.notebook, Table.get?_insert] at hk
      split at hk
      · subst other
        cases hk
        exact hcat
      · exact hs other cat' hk
    | _ => exact hs
  readiness _ _ := Discipline.Ensures.remember fun _ hs _ => ⟨hs, trivial⟩
  slots _ _ := Discipline.Ensures.remember fun _ hs _ => ⟨hs, trivial⟩
  mark _ _ _ hs := ⟨hs, trivial⟩

theorem stages_faithful : Discipline.Conduct.Stages c.faithful 3 :=
  fun _ _ _ => Discipline.Ensures.change fun _ hs _ => ⟨hs, trivial⟩

end Container

/-- A container that keeps only catalogs of its classes does so after each resolution. -/
theorem State.Faithful.resolveWithin {c : Container} {s s' : State} (hs : s.Faithful c) {n : Nat}
    {d : Dependency} {r : Except ConfigurationError Instance}
    (h : c.resolveWithin n d s = some (r, s')) : s'.Faithful c :=
  (c.admitsAll_faithful.resolveWithin n d s hs trivial r s' h).1

/-- The states that a container can come to: from the state of a new container, by its own
operations and by whatever else happens in the world. -/
inductive Container.InUse (c : Container) : State → Prop where
  /-- The container is new. -/
  | new (w : World) : c.InUse ⟨c.initialMemory, w⟩
  /-- The container is built, or the build fails. -/
  | start {s s' : State} {r} : c.InUse s → c.start s = some (r, s') → c.InUse s'
  /-- A dependency is resolved, or not. -/
  | resolve {s s' : State} {d r} : c.InUse s → c.resolve d s = some (r, s') → c.InUse s'
  /-- Members are injected, or not. -/
  | inject {s s' : State} {cls target id r} : c.InUse s →
    c.injectMembers cls target id s = some (r, s') → c.InUse s'
  /-- It is asked whether a dependency can be resolved. -/
  | ask {s s' : State} {d r} : c.InUse s → c.canResolve d s = some (r, s') → c.InUse s'
  /-- Something else happens. -/
  | elsewhere {s : State} (w : World) : c.InUse s → c.InUse (s.inWorld w)

/-- A container keeps only catalogs of its classes in all states that it can come to. -/
theorem Container.InUse.faithful {c : Container} {s : State} (h : c.InUse s) : s.Faithful c := by
  have hall := c.admitsAll_faithful
  induction h with
  | new w => exact c.faithful_initial w
  | start _ hrun ih => exact (hall.start c.stages_faithful _ ih trivial _ _ hrun).1
  | resolve _ hrun ih => exact (hall.resolve _ _ ih trivial _ _ hrun).1
  | inject _ hrun ih =>
    exact (Discipline.Conduct.injectObject hall.toAdmits hall.resolve _ _ _ _ ih trivial _ _ hrun).1
  | ask _ hrun ih => exact (hall.looks.canResolve _ _ ih trivial _ _ hrun).1
  | elsewhere w _ ih => exact ih

/-- Looking for the catalog of a class comes to that of the class table, by changes. -/
theorem Container.catalog_run {c : Container} (cls : ClassPath) {s : State} (hs : s.Faithful c) :
    ∃ s', c.catalog cls s = some (c.classes.catalog cls, s') ∧ c.Changes s s' := by
  refine ⟨_, ?_, c.changes_catalogOf s cls⟩
  have hfst := catalogOf_fst c.classes cls s.notebook
  rw [hs.look_eq] at hfst
  simp only [Container.catalog, Run.bind_eq, Run.note, hfst]
  cases c.classes.catalog cls <;> rfl

/-- A question about a catalog is answered by the class table. -/
theorem Container.ensures_catalog (c : Container) (cls : ClassPath) :
    c.faithful.Ensures (fun _ => True) (c.catalog cls)
      fun _ cat => c.classes.catalog cls = .ok cat := by
  intro s hs _ r s' h
  have hallows := c.admitsAll_faithful.looks.catalog cls s hs trivial r s' h
  refine ⟨hallows.1, trivial, fun cat hr => ?_⟩
  have hfst := catalogOf_fst c.classes cls s.notebook
  rw [Notebook.Faithful.look_eq hs] at hfst
  subst hr
  rw [← hfst]
  simp only [Container.catalog, Run.bind_eq, Run.note] at h
  revert h
  rcases catalogOf c.classes cls s.notebook with ⟨e | cat', nb⟩
  · intro h; cases h
  · intro h; cases h; rfl

end Wiring
