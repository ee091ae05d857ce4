import Mathlib.Data.List.Perm.Subperm
import Mathlib.Data.Nat.Find
import Mathlib.Logic.Relation
import Wiring.Proofs.Notebook

/-!
# What Availability Means

Whether a dependency is available is found out by a walk along what has to be constructed for
it. The walk breaks off at classes that are on its path already, so what it answers in its midst
depends on how it came there. The answer at the top does not: a dependency is unavailable exactly
when requirements lead from it to a *dead end*, which is a dependency that is neither bound nor
constructible.

The argument looks at distances. `Lacks n d` says that `n` requirements lead from `d` to a dead
end. If `n` is the least such number and every class on the path is farther than that from any
dead end, then the walk finds one: it cannot be stopped by the path, and what it goes on to is
nearer by one. At the top the path is empty.

The walk comes to an end by itself, for a class on the path has a constructor and so is one of the
declared classes. `Container.walk` is the walk without an answer for the case that its path grows
too long; that case never occurs (`walk_eq_some`).

## Main statements

* `Container.Requires`, `Container.DeadEnd`: the graph behind availability.
* `Container.survey`: the walk as a function of the catalogs in use.
* `survey_eq_false_iff`: the walk says no exactly when requirements lead to a dead end.
* `canResolve_false_iff_reaches_deadEnd`: the same for a container in use, and that the question
  is always answered.
-/

open Relation

namespace Wiring

namespace Container

variable (c : Container) (look : ClassPath → Except ConfigurationError Catalog)

/-! ### The graph -/

/-- A dependency is to be met by a new object of `cls`, which the constructor `m` of the catalog
`cat` creates. -/
structure Constructs (d : Dependency) (cls : ClassPath) (cat : Catalog) (m : Member) : Prop where
  /-- The key is not bound. -/
  unbound : c.registry.contains d.key = false
  /-- The class may be constructed. -/
  allowed : c.justInTime d = some cls
  /-- The class has a catalog. -/
  catalog : look cls = .ok cat
  /-- The catalog has a constructor. -/
  constructor : cat.constructor = some m

/-- An object is to be constructed for `d`, and its constructor or one of its required members
depends on `e`. -/
def Requires (d e : Dependency) : Prop :=
  ∃ cls cat m, c.Constructs look d cls cat m ∧ e ∈ cat.requirements m

/-- A dependency that is not bound, and for which no class may be constructed or only one without
a constructor. -/
def DeadEnd (d : Dependency) : Prop :=
  c.registry.contains d.key = false ∧
    (c.justInTime d = none ∨
      ∃ cls cat, c.justInTime d = some cls ∧ look cls = .ok cat ∧ cat.constructor = none)

/-- A chain of `n` requirements leads from a dependency to a dead end. -/
inductive Lacks : Nat → Dependency → Prop where
  /-- A dead end. -/
  | here {d : Dependency} : c.DeadEnd look d → Lacks 0 d
  /-- One more requirement. -/
  | there {n : Nat} {d e : Dependency} : c.Requires look d e → Lacks n e → Lacks (n + 1) d

/-- Chains of some length are chains. -/
theorem exists_lacks_iff (d : Dependency) :
    (∃ n, c.Lacks look n d) ↔ ∃ e, ReflTransGen (c.Requires look) d e ∧ c.DeadEnd look e := by
  constructor
  · rintro ⟨n, h⟩
    induction h with
    | here hd => exact ⟨_, .refl, hd⟩
    | there hr _ ih =>
      obtain ⟨e, hpath, he⟩ := ih
      exact ⟨e, .head hr hpath, he⟩
  · rintro ⟨e, hpath, he⟩
    induction hpath using ReflTransGen.head_induction_on with
    | refl => exact ⟨0, .here he⟩
    | head hr _ ih =>
      obtain ⟨n, hn⟩ := ih
      exact ⟨n + 1, .there hr hn⟩

/-! ### The walk as a function of the catalogs -/

/-- The answer of the walk, given the catalogs in use. -/
def survey : Nat → List ClassPath → Dependency → Bool
  | depth, path, d =>
    if c.registry.contains d.key then true
    else
      match c.justInTime d with
      | none => false
      | some cls =>
        match look cls with
        | .error _ => true
        | .ok cat =>
          match cat.constructor with
          | none => false
          | some m =>
            if cls ∈ path then true
            else
              match depth with
              | 0 => true
              | depth + 1 => (cat.requirements m).all (survey depth (cls :: path))

/-- One step of the comparison of the check with the walk. -/
theorem availableWithin_step {depth : Nat} {path : List ClassPath} {d : Dependency}
    {nb : Notebook} (hnb : nb.look c.classes = look)
    (hnext : ∀ n path e nb, depth = n + 1 → nb.look c.classes = look →
      (c.availableWithin n path e nb).1 = c.survey look n path e ∧
        (c.availableWithin n path e nb).2.look c.classes = look) :
    (c.availableWithin depth path d nb).1 = c.survey look depth path d ∧
      (c.availableWithin depth path d nb).2.look c.classes = look := by
  rw [availableWithin.eq_def, survey.eq_def]
  dsimp only
  by_cases hc : c.registry.contains d.key = true
  · rw [if_pos hc, if_pos hc]
    exact ⟨rfl, hnb⟩
  rw [if_neg hc, if_neg hc]
  cases c.justInTime d with
  | none => exact ⟨rfl, hnb⟩
  | some cls =>
    have hfst := catalogOf_fst c.classes cls nb
    have hlook := look_catalogOf c.classes cls nb
    rw [hnb] at hfst hlook
    dsimp only
    rw [← hfst]
    generalize catalogOf c.classes cls nb = p at hlook
    obtain ⟨_ | cat, nb'⟩ := p
    · exact ⟨rfl, hlook⟩
    dsimp only at hlook ⊢
    cases cat.constructor with
    | none => exact ⟨rfl, hlook⟩
    | some m =>
      dsimp only
      by_cases hp : cls ∈ path
      · rw [if_pos hp, if_pos hp]
        exact ⟨rfl, hlook⟩
      rw [if_neg hp, if_neg hp]
      cases depth with
      | zero => exact ⟨rfl, hlook⟩
      | succ n => exact Notebook.all_fst (fun e _ nb h => hnext n (cls :: path) e nb rfl h) hlook

/-- The check of a container answers like the walk, and keeps the catalogs in use. -/
theorem availableWithin_fst (depth : Nat) (path : List ClassPath) (d : Dependency)
    {nb : Notebook} (hnb : nb.look c.classes = look) :
    (c.availableWithin depth path d nb).1 = c.survey look depth path d ∧
      (c.availableWithin depth path d nb).2.look c.classes = look := by
  induction depth generalizing path d nb with
  | zero => exact c.availableWithin_step look hnb fun _ _ _ _ h => by cases h
  | succ n ih =>
    refine c.availableWithin_step look hnb fun m path e nb hm h => ?_
    obtain rfl : n = m := by omega
    exact ih path e h

/-! ### The walk and the graph -/

variable {c look}

/-- The walk says no at a dead end. -/
theorem survey_deadEnd {d : Dependency} (h : c.DeadEnd look d) (depth : Nat)
    (path : List ClassPath) : c.survey look depth path d = false := by
  obtain ⟨hb, hj | ⟨cls, cat, hj, hl, hm⟩⟩ := h
  · rw [survey.eq_def]
    simp [hb, hj]
  · rw [survey.eq_def]
    simp [hb, hj, hl, hm]

/-- At a class that is not on its path, the walk goes on to the requirements. -/
theorem survey_succ {d : Dependency} {cls : ClassPath} {cat : Catalog} {m : Member}
    (h : c.Constructs look d cls cat m) {path : List ClassPath} (hp : cls ∉ path) (depth : Nat) :
    c.survey look (depth + 1) path d =
      (cat.requirements m).all (c.survey look depth (cls :: path)) := by
  rw [survey.eq_def]
  simp [h.unbound, h.allowed, h.catalog, h.constructor, hp]

/-- The walk says no for one of two reasons. -/
theorem survey_eq_false_cases {depth : Nat} {path : List ClassPath} {d : Dependency}
    (h : c.survey look depth path d = false) :
    c.DeadEnd look d ∨ ∃ n cls cat m, depth = n + 1 ∧ c.Constructs look d cls cat m ∧
      ∃ e ∈ cat.requirements m, c.survey look n (cls :: path) e = false := by
  rw [survey.eq_def] at h
  dsimp only at h
  by_cases hc : c.registry.contains d.key = true
  · simp [hc] at h
  rw [if_neg hc] at h
  rw [Bool.not_eq_true] at hc
  cases hj : c.justInTime d with
  | none => exact .inl ⟨hc, .inl hj⟩
  | some cls =>
    simp only [hj] at h
    cases hl : look cls with
    | error e => simp [hl] at h
    | ok cat =>
      simp only [hl] at h
      cases hm : cat.constructor with
      | none => exact .inl ⟨hc, .inr ⟨cls, cat, hj, hl, hm⟩⟩
      | some m =>
        simp only [hm] at h
        by_cases hp : cls ∈ path
        · simp [hp] at h
        rw [if_neg hp] at h
        cases depth with
        | zero => simp at h
        | succ n =>
          rw [List.all_eq_false] at h
          obtain ⟨e, he, hs⟩ := h
          rw [Bool.not_eq_true] at hs
          exact .inr ⟨n, cls, cat, m, rfl, ⟨hc, hj, hl, hm⟩, e, he, hs⟩

/-- If the walk says no, requirements lead to a dead end. -/
theorem exists_lacks_of_survey {depth : Nat} {path : List ClassPath} {d : Dependency}
    (h : c.survey look depth path d = false) : ∃ n, c.Lacks look n d := by
  induction depth generalizing path d with
  | zero =>
    rcases survey_eq_false_cases h with hd | ⟨n, _, _, _, hn, _⟩
    · exact ⟨0, .here hd⟩
    · cases hn
  | succ depth ih =>
    rcases survey_eq_false_cases h with hd | ⟨n, cls, cat, m, hn, hc, e, he, hs⟩
    · exact ⟨0, .here hd⟩
    · obtain rfl : depth = n := by omega
      obtain ⟨k, hk⟩ := ih hs
      exact ⟨k + 1, .there ⟨cls, cat, m, hc, he⟩ hk⟩

/-- Only one dependency asks for a given class to be constructed. -/
theorem eq_of_justInTime {d e : Dependency} {cls : ClassPath} (hd : c.justInTime d = some cls)
    (he : c.justInTime e = some cls) : d = e := by
  have key : ∀ d : Dependency, c.justInTime d = some cls → d = .injectable cls := by
    intro d h
    obtain ⟨⟨ty, q⟩, constructible⟩ := d
    unfold justInTime at h
    split at h
    · cases q <;> cases ty <;> cases constructible <;>
        simp_all [Dependency.justInTime, Dependency.declaredClass, Key.isQualified,
          Dependency.injectable, Key.ofTy]
    · cases h
  rw [key d hd, key e he]

/-- Paths of the walk that fit its bound: they consist of declared classes, each once, and the
bound leaves room for all others. -/
structure Fits (c : Container) (depth : Nat) (path : List ClassPath) : Prop where
  /-- No class is on the path twice. -/
  nodup : path.Nodup
  /-- The classes on the path are declared. -/
  declared : path ⊆ c.classes.keys
  /-- There is room for the others. -/
  room : c.classes.size ≤ depth + path.length

/-- The path at the top fits. -/
theorem fits_nil (c : Container) : c.Fits c.classes.size [] := ⟨List.nodup_nil, by simp, by simp⟩

/-- A path that fits can grow by any declared class that is not on it. -/
theorem Fits.cons {depth : Nat} {path : List ClassPath} (h : c.Fits depth path) {cls : ClassPath}
    (hcls : cls ∈ c.classes.keys) (hp : cls ∉ path) :
    ∃ n, depth = n + 1 ∧ c.Fits n (cls :: path) := by
  have hnodup : (cls :: path).Nodup := List.nodup_cons.mpr ⟨hp, h.nodup⟩
  have hsub : cls :: path ⊆ c.classes.keys := List.cons_subset.mpr ⟨hcls, h.declared⟩
  have hlen : (cls :: path).length ≤ c.classes.size := by
    rw [Table.size_eq_length_keys]
    exact (hnodup.subperm hsub).length_le
  have hroom := h.room
  rw [List.length_cons] at hlen
  refine ⟨depth - 1, by omega, hnodup, hsub, ?_⟩
  rw [List.length_cons]
  omega

/-- A class with a constructor is declared. -/
theorem mem_keys_of_constructor {t : ClassTable} {cls : ClassPath} {cat : Catalog} {m : Member}
    (h : t.catalog cls = .ok cat) (hm : cat.constructor = some m) : cls ∈ t.keys := by
  rw [← Table.get?_isSome_iff]
  cases hg : t.get? cls with
  | some decl => rfl
  | none =>
    have hnil : t.members cls = [] := by
      simp [ClassTable.members, ClassTable.decl, hg, ClassDecl.none]
    rw [ClassTable.catalog, hnil] at h
    cases h
    cases hm

/-- If requirements lead to a dead end in `n` steps and no fewer, and all classes on the path are
farther from a dead end, the walk says no. -/
theorem survey_eq_false_of_lacks {n : Nat} {d : Dependency}
    (h : c.Lacks c.classes.catalog n d) (hmin : ∀ k < n, ¬ c.Lacks c.classes.catalog k d)
    {depth : Nat} {path : List ClassPath} (hfits : c.Fits depth path)
    (hpath : ∀ e cls, cls ∈ path → c.justInTime e = some cls →
      ∀ k ≤ n, ¬ c.Lacks c.classes.catalog k e) :
    c.survey c.classes.catalog depth path d = false := by
  induction h generalizing depth path with
  | here hd => exact survey_deadEnd hd depth path
  | @there n d e hr he ih =>
    obtain ⟨cls, cat, m, hc, hmem⟩ := hr
    have hd : c.Lacks c.classes.catalog (n + 1) d := .there ⟨cls, cat, m, hc, hmem⟩ he
    have hp : cls ∉ path := fun hp => hpath d cls hp hc.allowed (n + 1) (Nat.le_refl _) hd
    obtain ⟨depth, rfl, hfits'⟩ :=
      hfits.cons (mem_keys_of_constructor hc.catalog hc.constructor) hp
    rw [survey_succ hc hp, List.all_eq_false]
    refine ⟨e, hmem, ?_⟩
    rw [Bool.not_eq_true]
    refine ih (fun k hk hlk => ?_) hfits' fun e' cls' hmem' hj k hk => ?_
    · exact hmin (k + 1) (by omega) (.there ⟨cls, cat, m, hc, hmem⟩ hlk)
    · -- the class that the walk has just left is as far as `d`, the others are farther
      rcases List.mem_cons.mp hmem' with rfl | hmem'
      · rw [eq_of_justInTime hj hc.allowed]
        exact hmin k (by omega)
      · exact hpath e' cls' hmem' hj k (by omega)

/-- The walk says no exactly when requirements lead to a dead end. -/
theorem survey_eq_false_iff (c : Container) (d : Dependency) :
    c.survey c.classes.catalog c.classes.size [] d = false ↔
      ∃ n, c.Lacks c.classes.catalog n d := by
  classical
  constructor
  · exact exists_lacks_of_survey
  · intro h
    exact survey_eq_false_of_lacks (Nat.find_spec h) (fun k hk => Nat.find_min h hk) (fits_nil c)
      (by simp)

/-! ### The walk ends -/

/-- Ask a question, which may come to nothing, of the elements of a list up to the first of which
the answer is no. -/
def askAll? {α : Type} (f : α → Notebook → Option (Bool × Notebook)) :
    List α → Notebook → Option (Bool × Notebook)
  | [], nb => some (true, nb)
  | a :: as, nb =>
    match f a nb with
    | none => none
    | some (true, nb) => askAll? f as nb
    | some (false, nb) => some (false, nb)

/-- The check of availability without its way out: when the path would grow by more than `depth`
classes, there is no answer. -/
def walk (c : Container) : Nat → List ClassPath → Dependency → Notebook → Option (Bool × Notebook)
  | depth, path, d, nb =>
    if c.registry.contains d.key then some (true, nb)
    else
      match c.justInTime d with
      | none => some (false, nb)
      | some cls =>
        match catalogOf c.classes cls nb with
        | (.error _, nb) => some (true, nb)
        | (.ok cat, nb) =>
          match cat.constructor with
          | none => some (false, nb)
          | some m =>
            if cls ∈ path then some (true, nb)
            else
              match depth with
              | 0 => none
              | depth + 1 => askAll? (c.walk depth (cls :: path)) (cat.requirements m) nb

/-- If a question comes to an answer for each element, it does for the list. -/
theorem askAll?_eq_some {α : Type} {f : α → Notebook → Option (Bool × Notebook)}
    {g : α → Notebook → Bool × Notebook} {t : ClassTable} {as : List α}
    (hf : ∀ a ∈ as, ∀ nb : Notebook, nb.Faithful t →
      f a nb = some (g a nb) ∧ (g a nb).2.Faithful t)
    {nb : Notebook} (hnb : nb.Faithful t) : askAll? f as nb = some (Notebook.all g as nb) := by
  induction as generalizing nb with
  | nil => rfl
  | cons a as ih =>
    obtain ⟨h1, h2⟩ := hf a (by simp) nb hnb
    rw [askAll?, Notebook.all, h1]
    generalize g a nb = p at h2
    obtain ⟨_ | _, nb'⟩ := p
    · rfl
    · exact ih (fun a' ha' => hf a' (by simp [ha'])) h2

/-- The check leaves a faithful notebook. -/
theorem faithful_availableWithin (c : Container) (depth : Nat) (path : List ClassPath)
    (d : Dependency) {nb : Notebook} (hnb : nb.Faithful c.classes) :
    (c.availableWithin depth path d nb).2.Faithful c.classes := by
  rw [Notebook.faithful_iff]
  exact (c.availableWithin_fst c.classes.catalog depth path d hnb.look_eq).2

/-- One step of the comparison of the walk without a way out with the check. -/
theorem walk_step (c : Container) {depth : Nat} {path : List ClassPath}
    (hfits : c.Fits depth path) {d : Dependency} {nb : Notebook} (hnb : nb.Faithful c.classes)
    (hnext : ∀ n path e nb, depth = n + 1 → c.Fits n path → nb.Faithful c.classes →
      c.walk n path e nb = some (c.availableWithin n path e nb)) :
    c.walk depth path d nb = some (c.availableWithin depth path d nb) := by
  rw [walk.eq_def, availableWithin.eq_def]
  dsimp only
  split
  · rfl
  cases c.justInTime d with
  | none => rfl
  | some cls =>
    have hlook := catalogOf_fst c.classes cls nb
    have hnb' := hnb.catalogOf cls
    rw [hnb.look_eq] at hlook
    dsimp only
    generalize catalogOf c.classes cls nb = p at hlook hnb'
    obtain ⟨_ | cat, nb'⟩ := p
    · rfl
    cases hm : cat.constructor with
    | none => simp only [hm]
    | some m =>
      simp only [hm]
      split
      · rfl
      · -- a class that is not on the path has room on it, so the bound is not met
        rename_i hp
        obtain ⟨n, rfl, hfits'⟩ := hfits.cons (mem_keys_of_constructor hlook.symm hm) hp
        exact askAll?_eq_some (fun e _ nb h =>
          ⟨hnext n _ e nb rfl hfits' h, c.faithful_availableWithin n (cls :: path) e h⟩) hnb'

/-- On a path that fits, the walk comes to the answer of the check. -/
theorem walk_eq_some (c : Container) {depth : Nat} {path : List ClassPath}
    (hfits : c.Fits depth path) (d : Dependency) {nb : Notebook} (hnb : nb.Faithful c.classes) :
    c.walk depth path d nb = some (c.availableWithin depth path d nb) := by
  induction depth generalizing path d nb with
  | zero => exact c.walk_step hfits hnb fun _ _ _ _ h => by cases h
  | succ n ih =>
    refine c.walk_step hfits hnb fun m path e nb hm hfits h => ?_
    obtain rfl : n = m := by omega
    exact ih hfits e h

/-! ### The answers of a container -/

/-- Whether a dependency is available, whatever catalogs are kept. -/
def isAvailable (c : Container) (d : Dependency) : Bool := (c.available d ⟨∅, #[]⟩).1

/-- A container that keeps only catalogs of its classes answers as if it kept none. -/
theorem available_fst (c : Container) (d : Dependency) {nb : Notebook}
    (hnb : nb.Faithful c.classes) : (c.available d nb).1 = c.isAvailable d := by
  have hnone : Notebook.Faithful ⟨∅, #[]⟩ c.classes := by
    intro cls cat h
    simp [EmptyCollection.emptyCollection] at h
  have h := (c.availableWithin_fst c.classes.catalog c.classes.size [] d hnb.look_eq).1
  have h' := (c.availableWithin_fst c.classes.catalog c.classes.size [] d hnone.look_eq).1
  exact h.trans h'.symm

/-- A dependency is not available exactly when requirements lead to a dead end. -/
theorem isAvailable_eq_false_iff (c : Container) (d : Dependency) :
    c.isAvailable d = false ↔ ∃ n, c.Lacks c.classes.catalog n d := by
  have hnone : Notebook.look ⟨∅, #[]⟩ c.classes = c.classes.catalog := rfl
  rw [isAvailable, available, (c.availableWithin_fst c.classes.catalog _ [] d hnone).1,
    survey_eq_false_iff]

/-- What is available is bound, or its class may be constructed. -/
theorem reach_of_isAvailable {d : Dependency} (hd : c.isAvailable d = true) :
    (c.registry.contains d.key || (c.justInTime d).isSome) = true := by
  by_contra h
  rw [Bool.not_eq_true, Bool.or_eq_false_iff, Option.isSome_eq_false_iff,
    Option.isNone_iff_eq_none] at h
  have hlacks : ∃ n, c.Lacks c.classes.catalog n d := ⟨0, .here ⟨h.1, .inl h.2⟩⟩
  rw [← isAvailable_eq_false_iff, hd] at hlacks
  cases hlacks

/-- The first of some dependencies that is not available, as a container finds it. -/
theorem firstUnavailable_eq (c : Container) (ds : List Dependency) {s : State}
    (hs : s.Faithful c) :
    ∃ nb : Notebook, nb.Faithful c.classes ∧ c.firstUnavailable ds s =
      some (.ok (ds.find? (!c.isAvailable ·)), s.withNotebook nb) := by
  have hasked : (Notebook.firstFailing c.available ds s.notebook).1 =
      ds.find? (!c.isAvailable ·) ∧
        (Notebook.firstFailing c.available ds s.notebook).2.look c.classes = c.classes.catalog := by
    refine Notebook.firstFailing_fst (fun d _ nb hnb => ?_) hs.look_eq
    have hfaithful := Notebook.faithful_of_look_eq hnb
    exact ⟨c.available_fst d hfaithful,
      (c.faithful_availableWithin c.classes.size [] d hfaithful).look_eq⟩
  refine ⟨_, Notebook.faithful_of_look_eq hasked.2, ?_⟩
  rw [← hasked.1]
  rfl

/-- **Availability is reachability.** The question whether a dependency can be resolved always
comes to an answer, without its bound on paths ever being met. The answer is no exactly when a
finite chain of requirements leads from the dependency to a dead end. -/
theorem canResolve_false_iff_reaches_deadEnd (c : Container) (d : Dependency) {s : State}
    (hs : s.Faithful c) :
    c.walk c.classes.size [] d s.notebook = some (c.available d s.notebook) ∧
      c.canResolve d s = some (.ok (c.available d s.notebook).1,
        s.withNotebook (c.available d s.notebook).2) ∧
      ((c.available d s.notebook).1 = false ↔
        ∃ e, ReflTransGen (c.Requires c.classes.catalog) d e ∧
          c.DeadEnd c.classes.catalog e) := by
  refine ⟨c.walk_eq_some (fits_nil c) d hs, rfl, ?_⟩
  rw [c.available_fst d hs, isAvailable_eq_false_iff, exists_lacks_iff]

/-- A container for two classes that need each other, the second of which also needs a text. -/
def knot : Container :=
  { config := .standard
    registry := .empty
    staticTargets := []
    classes := .ofList
      [("A", ⟨[(Member.constructor "A" (.reading [] none)).requiring [.injectable "B"]], [],
          .fresh fun _ => none⟩),
        ("B", ⟨[(Member.method "B" "m" (.reading [] none)).requiring
            [.injectable "A", .ofTy .text],
          Member.constructor "B" (.reading [] none)], [], .fresh fun _ => none⟩)] }

/-- The circle between the two classes does not hide the text that is missing. -/
theorem knot_reaches_deadEnd :
    State.Faithful ⟨knot.initialMemory, .new⟩ knot ∧
      ∃ e, ReflTransGen (knot.Requires knot.classes.catalog) (.injectable "A") e ∧
        knot.DeadEnd knot.classes.catalog e := by
  have hs := knot.faithful_initial .new
  obtain ⟨-, -, hiff⟩ := knot.canResolve_false_iff_reaches_deadEnd (.injectable "A") hs
  exact ⟨hs, hiff.mp (by decide)⟩

end Container

end Wiring
