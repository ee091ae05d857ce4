import Wiring.Proofs.Catalogs

/-!
# How Catalogs Are Sorted

A catalog loses no member and adds none. It has one place for the constructor, one for the members
of objects and one for those of the class itself, and in the last two the fields come first and
the methods after them, each in the order of their declaration. So the order of a member table
matters only within each of these groups.

## Conventions

A group of a member table consists of the members of one kind that are all static or all not;
constructors are a group of their own. A member table is read in one go, which ends at the first
constructor that is optional; how many constructors there are is counted after that.

## Main statements

* `Catalog.build_eq_error_iff`: which tables have no catalog, and why.
* `Catalog.instancePoints_of_build`, `Catalog.staticPoints_of_build`: the order of the points.
* `Catalog.perm_members`: a catalog has the members of its table.
* `Catalog.build_congr`: which order of a table matters.
* `Catalog.build_eq_read`: the catalog comes from reading the table once.
* `Catalog.catalogs_sort_members`: catalogs lose nothing and keep the order of each group.
-/

namespace Wiring

namespace Member

/-- A member belongs to the group of one kind that is static or not. -/
def inGroup (kind : MemberKind) (static : Bool) (m : Member) : Bool :=
  m.kind = kind && m.isStatic == static

theorem isConstructor_iff_kind {m : Member} : m.isConstructor = true ↔ m.kind = .constructor := by
  unfold isConstructor kind
  rcases m.role with _ | ⟨_ | _, path⟩ | ⟨_ | _⟩ <;> simp [Role.kind, Form.kind]

theorem isStatic_of_isConstructor {m : Member} (h : m.isConstructor = true) :
    m.isStatic = false := by
  unfold isConstructor at h
  unfold isStatic
  rcases hr : m.role with _ | ⟨form, path⟩ | form <;> simp [hr] at h ⊢

end Member

namespace Catalog

variable {cls : ClassPath} {ms ms' : List Member} {cat : Catalog}

/-! ### The groups of a table -/

/-- The constructors are a group. -/
theorem filter_isConstructor (ms : List Member) :
    ms.filter Member.isConstructor = ms.filter (Member.inGroup .constructor false) := by
  refine List.filter_congr fun m _ => ?_
  rw [Bool.eq_iff_iff, Member.inGroup, Bool.and_eq_true, beq_iff_eq, decide_eq_true_iff,
    ← Member.isConstructor_iff_kind]
  exact ⟨fun h => ⟨h, Member.isStatic_of_isConstructor h⟩, And.left⟩

/-- What is injected into an object is its fields and then its methods. -/
theorem sortByKind_instancePoints (ms : List Member) :
    sortByKind (ms.filter isInstancePoint) =
      ms.filter (Member.inGroup .field false) ++ ms.filter (Member.inGroup .method false) := by
  rw [sortByKind_eq _ fun m hm => kind_of_isInstancePoint (List.mem_filter.mp hm).2,
    List.filter_filter, List.filter_filter]
  congr 1
  all_goals
    refine List.filter_congr fun m _ => ?_
    unfold isInstancePoint Member.inGroup Member.kind Member.isConstructor Member.isStatic
    rcases m.role with _ | ⟨_ | _, path⟩ | ⟨_ | _⟩ <;> rfl

/-- What is injected into a class is its fields and then its methods. -/
theorem sortByKind_staticPoints (ms : List Member) :
    sortByKind (ms.filter Member.isStatic) =
      ms.filter (Member.inGroup .field true) ++ ms.filter (Member.inGroup .method true) := by
  rw [sortByKind_eq _ fun m hm => kind_of_isStatic (List.mem_filter.mp hm).2,
    List.filter_filter, List.filter_filter]
  congr 1
  all_goals
    refine List.filter_congr fun m _ => ?_
    unfold Member.inGroup Member.kind Member.isStatic
    rcases m.role with _ | ⟨_ | _, path⟩ | ⟨_ | _⟩ <;> rfl

/-- Sorting by kind loses no member. -/
theorem perm_insertByKind (m : Member) (ms : List Member) :
    (insertByKind m ms).Perm (m :: ms) := by
  induction ms with
  | nil => exact .refl _
  | cons n ms ih =>
    unfold insertByKind
    split
    · exact .refl _
    · exact (ih.cons n).trans (.swap m n ms)

theorem perm_sortByKind (ms : List Member) : (sortByKind ms).Perm ms := by
  induction ms with
  | nil => exact .refl _
  | cons m ms ih => exact (perm_insertByKind m (sortByKind ms)).trans (ih.cons m)

/-- Each member is a constructor, is injected into an object, or is static. -/
theorem perm_groups (ms : List Member) :
    ms.Perm (ms.filter Member.isConstructor ++ ms.filter isInstancePoint ++
      ms.filter Member.isStatic) := by
  induction ms with
  | nil => exact .refl _
  | cons m ms ih =>
    rcases hr : m.role with _ | ⟨form, path⟩ | form
    · have hk : m.isConstructor = true := by simp [Member.isConstructor, hr]
      have hs : m.isStatic = false := Member.isStatic_of_isConstructor hk
      simpa [isInstancePoint, hk, hs] using ih
    · have hk : m.isConstructor = false := by simp [Member.isConstructor, hr]
      have hs : m.isStatic = false := by simp [Member.isStatic, hr]
      simp only [List.filter_cons, isInstancePoint, hk, hs, Bool.not_false, Bool.and_self, if_true,
        Bool.false_eq_true, if_false, List.append_assoc, List.cons_append]
      rw [List.append_assoc] at ih
      exact (ih.cons m).trans List.perm_middle.symm
    · have hk : m.isConstructor = false := by simp [Member.isConstructor, hr]
      have hs : m.isStatic = true := by simp [Member.isStatic, hr]
      simp only [List.filter_cons, isInstancePoint, hk, hs, Bool.not_true, Bool.and_false, if_true,
        Bool.false_eq_true, if_false]
      exact (ih.cons m).trans List.perm_middle.symm

/-! ### Constructors -/

/-- Some constructor of a table is optional. -/
def HasOptionalConstructor (ms : List Member) : Prop :=
  ∃ m ∈ ms, m.isConstructor = true ∧ m.optional = true

theorem any_optional_iff :
    (ms.filter Member.isConstructor).any Member.optional = true ↔ HasOptionalConstructor ms := by
  simp [HasOptionalConstructor]

/-- What becomes of the constructors of a table depends on whether one is optional, and then on
their number. -/
theorem soleConstructor_cases (cls : ClassPath) (ms : List Member) :
    (HasOptionalConstructor ms ∧
      soleConstructor cls ms = .error (.optionalConstructor (TypeName.short cls))) ∨
    (¬ HasOptionalConstructor ms ∧ 1 < (ms.filter Member.isConstructor).length ∧
      soleConstructor cls ms = .error (.multipleConstructors (TypeName.short cls)
        (ms.filter Member.isConstructor).length)) ∨
    (¬ HasOptionalConstructor ms ∧ ∃ k : Option Member,
      ms.filter Member.isConstructor = k.toList ∧ soleConstructor cls ms = .ok k) := by
  by_cases hoptional : (ms.filter Member.isConstructor).any Member.optional = true
  · exact .inl ⟨any_optional_iff.mp hoptional, by simp only [soleConstructor, if_pos hoptional]⟩
  · refine .inr ?_
    have hnone : ¬ HasOptionalConstructor ms := fun h => hoptional (any_optional_iff.mpr h)
    simp only [soleConstructor, if_neg hoptional]
    rcases ms.filter Member.isConstructor with _ | ⟨m, _ | ⟨n, rest⟩⟩
    · exact .inr ⟨hnone, none, rfl, rfl⟩
    · exact .inr ⟨hnone, some m, rfl, rfl⟩
    · exact .inl ⟨hnone, by simp, rfl⟩

/-! ### What is in a catalog -/

/-- A table has no catalog if one of its constructors is optional, or else if there are several.
The error tells how many. -/
theorem build_eq_error_iff {e : ConfigurationError} :
    build cls ms = .error e ↔
      (HasOptionalConstructor ms ∧ e = .optionalConstructor (TypeName.short cls)) ∨
      (¬ HasOptionalConstructor ms ∧ 1 < (ms.filter Member.isConstructor).length ∧
        e = .multipleConstructors (TypeName.short cls)
          (ms.filter Member.isConstructor).length) := by
  rcases soleConstructor_cases cls ms with ⟨h, hsole⟩ | ⟨h, hlen, hsole⟩ | ⟨h, k, hk, hsole⟩
  · simp [build, hsole, Except.map, h, eq_comm]
  · simp [build, hsole, Except.map, h, hlen, eq_comm]
  · simp only [build, hsole, Except.map, h, reduceCtorEq, false_and, not_false_eq_true, true_and,
      false_or, false_iff, not_and]
    intro hlen
    rw [hk] at hlen
    exact absurd hlen (by cases k <;> simp)

/-- What is in the catalog of a table. -/
theorem build_eq_ok (h : build cls ms = .ok cat) :
    cat.cls = cls ∧ ms.filter Member.isConstructor = cat.constructor.toList ∧
      cat.instancePoints =
        ms.filter (Member.inGroup .field false) ++ ms.filter (Member.inGroup .method false) ∧
      cat.staticPoints =
        ms.filter (Member.inGroup .field true) ++ ms.filter (Member.inGroup .method true) := by
  rw [← sortByKind_instancePoints, ← sortByKind_staticPoints]
  rcases soleConstructor_cases cls ms with ⟨-, hsole⟩ | ⟨-, -, hsole⟩ | ⟨-, k, hk, hsole⟩
  · simp [build, hsole, Except.map] at h
  · simp [build, hsole, Except.map] at h
  · simp only [build, hsole, Except.map, Except.ok.injEq] at h
    subst h
    exact ⟨rfl, hk, rfl, rfl⟩

/-- A catalog has the members of its table, each as often as the table. -/
theorem perm_members (h : build cls ms = .ok cat) : ms.Perm cat.members := by
  obtain ⟨-, hconstructor, hinstance, hstatic⟩ := build_eq_ok h
  rw [← sortByKind_instancePoints] at hinstance
  rw [← sortByKind_staticPoints] at hstatic
  rw [members, ← hconstructor, hinstance, hstatic]
  exact (perm_groups ms).trans (((perm_sortByKind _).symm.append_left _).append
    (perm_sortByKind _).symm)

/-- Each place of a catalog is for one role. -/
theorem role_of_mem (h : build cls ms = .ok cat) :
    (∀ m ∈ cat.constructor, m.role = .constructor) ∧
      (∀ m ∈ cat.instancePoints, ∃ form path, m.role = .instanceOf form path) ∧
      ∀ m ∈ cat.staticPoints, ∃ form, m.role = .static form := by
  obtain ⟨-, hconstructor, hinstance, hstatic⟩ := build_eq_ok h
  rw [← sortByKind_instancePoints] at hinstance
  rw [← sortByKind_staticPoints] at hstatic
  refine ⟨fun m hm => ?_, fun m hm => ?_, fun m hm => ?_⟩
  · have hmem : m ∈ ms.filter Member.isConstructor := by
      rw [hconstructor]
      exact Option.mem_toList.mpr hm
    have hrole := (List.mem_filter.mp hmem).2
    unfold Member.isConstructor at hrole
    rcases hr : m.role with _ | ⟨form, path⟩ | form <;> simp_all
  · rw [hinstance, (perm_sortByKind _).mem_iff, List.mem_filter] at hm
    have hrole := hm.2
    unfold isInstancePoint Member.isConstructor Member.isStatic at hrole
    rcases hr : m.role with _ | ⟨form, path⟩ | form <;> simp_all
  · rw [hstatic, (perm_sortByKind _).mem_iff, List.mem_filter] at hm
    have hrole := hm.2
    unfold Member.isStatic at hrole
    rcases hr : m.role with _ | ⟨form, path⟩ | form <;> simp_all

/-- Only the order within each group of a table matters. -/
theorem build_congr (h : ∀ kind static,
    ms.filter (Member.inGroup kind static) = ms'.filter (Member.inGroup kind static)) :
    build cls ms = build cls ms' := by
  unfold build soleConstructor
  rw [sortByKind_instancePoints, sortByKind_instancePoints, sortByKind_staticPoints,
    sortByKind_staticPoints, filter_isConstructor, filter_isConstructor]
  simp only [h]

/-! ### Reading a table once -/

/-- The members that were read so far, by what they belong to. -/
structure Gathered where
  /-- The constructors. -/
  constructors : List Member
  /-- The members that are injected into an object. -/
  instancePoints : List Member
  /-- The members that are injected into the class itself. -/
  staticPoints : List Member

/-- Read the rest of a table, up to the first constructor that is optional. -/
def gather (cls : ClassPath) : List Member → Gathered → Except ConfigurationError Gathered
  | [], g => .ok g
  | m :: ms, g =>
    match m.role with
    | .constructor =>
      if m.optional then .error (.optionalConstructor (TypeName.short cls))
      else gather cls ms { g with constructors := g.constructors ++ [m] }
    | .instanceOf _ _ => gather cls ms { g with instancePoints := g.instancePoints ++ [m] }
    | .static _ => gather cls ms { g with staticPoints := g.staticPoints ++ [m] }

/-- The catalog of a table that is read once: the constructors are counted, and the points are
sorted, after all members were read. -/
def read (cls : ClassPath) (ms : List Member) : Except ConfigurationError Catalog :=
  (gather cls ms ⟨[], [], []⟩).bind fun g =>
    if 1 < g.constructors.length then
      .error (.multipleConstructors (TypeName.short cls) g.constructors.length)
    else .ok ⟨cls, g.constructors.getLast?, sortByKind g.instancePoints,
      sortByKind g.staticPoints⟩

/-- What is gathered, if no constructor is optional, is added to what there is. -/
theorem gather_eq (cls : ClassPath) (ms : List Member) (g : Gathered) :
    gather cls ms g =
      if (ms.filter Member.isConstructor).any Member.optional then
        .error (.optionalConstructor (TypeName.short cls))
      else .ok ⟨g.constructors ++ ms.filter Member.isConstructor,
        g.instancePoints ++ ms.filter isInstancePoint,
        g.staticPoints ++ ms.filter Member.isStatic⟩ := by
  induction ms generalizing g with
  | nil => simp [gather]
  | cons m ms ih =>
    unfold gather
    split
    · next hr =>
      have hk : m.isConstructor = true := by simp [Member.isConstructor, hr]
      have hs : m.isStatic = false := Member.isStatic_of_isConstructor hk
      by_cases ho : m.optional = true <;> simp [ho, ih, hk, hs, isInstancePoint]
    · next hr =>
      have hk : m.isConstructor = false := by simp [Member.isConstructor, hr]
      have hs : m.isStatic = false := by simp [Member.isStatic, hr]
      simp [ih, hk, hs, isInstancePoint]
    · next hr =>
      have hk : m.isConstructor = false := by simp [Member.isConstructor, hr]
      have hs : m.isStatic = true := by simp [Member.isStatic, hr]
      simp [ih, hk, hs, isInstancePoint]

/-- The catalog of a table comes from reading the table once. -/
theorem build_eq_read (cls : ClassPath) (ms : List Member) : build cls ms = read cls ms := by
  rw [read, gather_eq, build, soleConstructor]
  dsimp only
  split
  · rfl
  · simp only [List.nil_append, Except.bind]
    rcases ms.filter Member.isConstructor with _ | ⟨m, _ | ⟨n, rest⟩⟩ <;> simp [Except.map]

/-- **Catalogs lose nothing and keep the order of each group.** A member table has no catalog
exactly if one of its constructors is optional, wherever it stands, or if there are several; the
first of the two is what is reported if both is so, and in the second case the number of
constructors is told. A catalog has the constructor of the table, if there is one; what is
injected into an object is its fields and then its methods, and what is injected into the class
its static fields and then its static methods, each in the order of the table. Each member of the
table is in one of the three places, as it stands in the table, and nothing else is. Tables that
agree in the order within each group come to the same, and that is also what comes from reading
the table once. -/
theorem catalogs_sort_members (cls : ClassPath) (ms : List Member) :
    ((∃ e, build cls ms = .error e) ↔
      HasOptionalConstructor ms ∨ 1 < (ms.filter Member.isConstructor).length) ∧
    (∀ e, build cls ms = .error e ↔
      (HasOptionalConstructor ms ∧ e = .optionalConstructor (TypeName.short cls)) ∨
      (¬ HasOptionalConstructor ms ∧ 1 < (ms.filter Member.isConstructor).length ∧
        e = .multipleConstructors (TypeName.short cls)
          (ms.filter Member.isConstructor).length)) ∧
    (∀ cat, build cls ms = .ok cat →
      cat.cls = cls ∧ ms.filter Member.isConstructor = cat.constructor.toList ∧
      cat.instancePoints =
        ms.filter (Member.inGroup .field false) ++ ms.filter (Member.inGroup .method false) ∧
      cat.staticPoints =
        ms.filter (Member.inGroup .field true) ++ ms.filter (Member.inGroup .method true) ∧
      ms.Perm (cat.constructor.toList ++ cat.instancePoints ++ cat.staticPoints) ∧
      (∀ m ∈ cat.constructor, m.role = .constructor) ∧
      (∀ m ∈ cat.instancePoints, ∃ form path, m.role = .instanceOf form path) ∧
      ∀ m ∈ cat.staticPoints, ∃ form, m.role = .static form) ∧
    (∀ ms', (∀ kind static,
        ms.filter (Member.inGroup kind static) = ms'.filter (Member.inGroup kind static)) →
      build cls ms = build cls ms') ∧
    build cls ms = read cls ms := by
  refine ⟨?_, fun e => build_eq_error_iff, fun cat h => ?_, fun ms' h => build_congr h,
    build_eq_read cls ms⟩
  · simp only [build_eq_error_iff]
    constructor
    · rintro ⟨e, ⟨h, -⟩ | ⟨-, h, -⟩⟩
      · exact .inl h
      · exact .inr h
    · intro h
      by_cases hoptional : HasOptionalConstructor ms
      · exact ⟨_, .inl ⟨hoptional, rfl⟩⟩
      · exact ⟨_, .inr ⟨hoptional, h.resolve_left hoptional, rfl⟩⟩
  · obtain ⟨hcls, hconstructor, hinstance, hstatic⟩ := build_eq_ok h
    exact ⟨hcls, hconstructor, hinstance, hstatic, perm_members h, role_of_mem h⟩

/-- The constructor of a clock. -/
def clockmaker : Member := Member.constructor "Clock" (.reading [] none)

/-- The hand of a clock. -/
def clockHand : Member := Member.field "Clock" "hand" (.ofTy .text)

/-- How a clock is wound. -/
def clockwork : Member := (Member.method "Clock" "wind" (.reading [] none)).withOptional true

/-- The time of all clocks. -/
def clockTime : Member := Member.staticField "Clock" "time" (.ofTy .number)

/-- A clock is put together from its parts in whatever order they come; nothing is left over. Two
clockmakers are too many. -/
theorem clock_is_put_together : ∃ cat,
    build "Clock" [clockwork, clockTime, clockHand, clockmaker] = .ok cat ∧
      build "Clock" [clockmaker, clockHand, clockTime, clockwork] = .ok cat ∧
      cat.instancePoints = [clockHand, clockwork] ∧
      [clockwork, clockTime, clockHand, clockmaker].Perm
        ([clockmaker] ++ [clockHand, clockwork] ++ [clockTime]) ∧
      build "Clock" [clockmaker, clockHand, clockmaker] =
        .error (.multipleConstructors "Clock" 2) := by
  obtain ⟨cat, hcat⟩ : ∃ cat,
      build "Clock" [clockwork, clockTime, clockHand, clockmaker] = .ok cat := ⟨_, rfl⟩
  obtain ⟨-, -, hok, hcongr, -⟩ :=
    catalogs_sort_members "Clock" [clockwork, clockTime, clockHand, clockmaker]
  obtain ⟨-, hconstructor, hinstance, hstatic, hperm, -⟩ := hok cat hcat
  have hsame := hcongr [clockmaker, clockHand, clockTime, clockwork] fun kind static => by
    cases kind <;> cases static <;> rfl
  obtain ⟨-, herror, -⟩ := catalogs_sort_members "Clock" [clockmaker, clockHand, clockmaker]
  refine ⟨cat, hcat, hsame ▸ hcat, hinstance, ?_, (herror _).mpr (.inr ⟨?_, by decide, rfl⟩)⟩
  · rw [← hconstructor, hinstance, hstatic] at hperm
    exact hperm
  · rintro ⟨m, hm, hoptional⟩
    have hmem : m = clockmaker ∨ m = clockHand ∨ m = clockmaker := by simpa using hm
    rcases hmem with rfl | rfl | rfl
    · exact absurd hoptional.2 (by decide)
    · exact absurd hoptional.1 (by decide)
    · exact absurd hoptional.2 (by decide)

end Catalog

end Wiring
