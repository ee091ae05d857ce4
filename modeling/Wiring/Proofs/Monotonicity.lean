import Wiring.Proofs.Locality
import Wiring.Proofs.Points

/-!
# What More Bindings Make Available

A container extends another if it has all the other has: the same classes, a binding for each key
that is bound in the other, and objects that are constructed just in time if the other has them.
What is available in a container is available in each that extends it.

The two containers do not look for the same. Where a key is bound in one of them only, the other
goes on to what the class of the key requires, and has other classes on its path from then on. So
it is not the walk that is compared but what it finds. What is not available leads to a dead end. A
dead end of the larger container is one of the smaller, too, and a requirement in the larger is
either one in the smaller, or the smaller has its dead end there already, because it may not
construct anything.

## Main statements

* `Container.Extends`: a container has all that another has.
* `Container.Extends.lacks`: what is missing in the larger container is missing in the smaller.
* `Container.Extends.isAvailable`, `Container.Extends.runs`: what is available and runs.
* `Container.extends_install`: more modules extend a container.
* `Container.availability_monotone`: nothing becomes unavailable by more bindings.
-/

namespace Wiring

namespace Container

/-- A container reads the same classes as another, binds all keys that are bound there, and
constructs classes just in time if the other does. Bindings may be others, and there may be more. -/
structure Extends (c' c : Container) : Prop where
  /-- Both read the same classes. -/
  classes : c'.classes = c.classes
  /-- What is bound in the other is bound. -/
  bound : ∀ key, c.registry.contains key = true → c'.registry.contains key = true
  /-- What the other may construct may be constructed. -/
  jit : c.config.jitBindings = true → c'.config.jitBindings = true

namespace Extends

variable {c c' : Container} (h : c'.Extends c) {d : Dependency}
include h

/-- What is not bound in the larger container is not bound in the smaller. -/
theorem unbound {key : Key} (hkey : c'.registry.contains key = false) :
    c.registry.contains key = false := by
  by_contra hbound
  rw [h.bound key (by simpa using hbound)] at hkey
  cases hkey

/-- The smaller container constructs the same class for a dependency, or none. -/
theorem justInTime (d : Dependency) :
    c.justInTime d = none ∨ c.justInTime d = c'.justInTime d := by
  unfold Container.justInTime
  cases hjit : c.config.jitBindings with
  | false => exact .inl rfl
  | true =>
    rw [h.jit hjit]
    exact .inr rfl

/-- A dead end in the larger container is one in the smaller. -/
theorem deadEnd (hd : c'.DeadEnd c'.classes.catalog d) : c.DeadEnd c.classes.catalog d := by
  obtain ⟨hunbound, hclass⟩ := hd
  refine ⟨h.unbound hunbound, ?_⟩
  rcases h.justInTime d with hnone | hsame
  · exact .inl hnone
  · rwa [hsame, ← h.classes]

/-- What the larger container requires is required in the smaller, unless that has its dead end
there. -/
theorem deadEnd_or_requires {e : Dependency} (hd : c'.Requires c'.classes.catalog d e) :
    c.DeadEnd c.classes.catalog d ∨ c.Requires c.classes.catalog d e := by
  obtain ⟨cls, cat, m, hconstructs, he⟩ := hd
  have hunbound := h.unbound hconstructs.unbound
  rcases h.justInTime d with hnone | hsame
  · exact .inl ⟨hunbound, .inl hnone⟩
  · rw [h.classes] at hconstructs
    exact .inr ⟨cls, cat, m, ⟨hunbound, hsame.trans hconstructs.allowed, hconstructs.catalog,
      hconstructs.constructor⟩, he⟩

/-- What is missing in the larger container is missing in the smaller, and not farther away. -/
theorem lacks {n : Nat} (hd : c'.Lacks c'.classes.catalog n d) :
    ∃ k ≤ n, c.Lacks c.classes.catalog k d := by
  induction hd with
  | here hdead => exact ⟨0, Nat.le_refl 0, .here (h.deadEnd hdead)⟩
  | @there n d e hde _ ih =>
    rcases h.deadEnd_or_requires hde with hdead | hrequires
    · exact ⟨0, Nat.zero_le _, .here hdead⟩
    · obtain ⟨k, hk, hlacks⟩ := ih
      exact ⟨k + 1, Nat.succ_le_succ hk, .there hrequires hlacks⟩

/-- What is available in the smaller container is available in the larger. -/
theorem isAvailable (hd : c.isAvailable d = true) : c'.isAvailable d = true := by
  by_contra hnot
  rw [Bool.not_eq_true, isAvailable_eq_false_iff] at hnot
  obtain ⟨n, hn⟩ := hnot
  obtain ⟨k, -, hk⟩ := h.lacks hn
  rw [(c.isAvailable_eq_false_iff d).mpr ⟨k, hk⟩] at hd
  cases hd

/-- A member that runs in the smaller container runs in the larger. -/
theorem runs {m : Member} (hm : c.runs m = true) : c'.runs m = true := by
  rw [Container.runs, Bool.or_eq_true, List.all_eq_true] at hm ⊢
  exact hm.imp_right fun hall d hd => h.isAvailable (hall d hd)

/-- The members that are injected in the smaller container are injected in the larger, in the same
order. -/
theorem sublist_runs (cls : ClassPath) :
    ((c.classes.instancePoints cls).filter c.runs).Sublist
      ((c'.classes.instancePoints cls).filter c'.runs) := by
  rw [h.classes]
  exact List.monotone_filter_right _ fun _ => h.runs

end Extends

/-! ### Ways to extend a container -/

/-- Another binding extends a container, whether it is added or replaces one. -/
theorem extends_register (c : Container) (b : Binding) : (c.register b).Extends c := by
  refine ⟨rfl, fun key hkey => ?_, id⟩
  rw [Registry.contains_eq_isSome_lookup] at hkey ⊢
  rw [register, Registry.lookup_register]
  split
  · rfl
  · exact hkey

/-- Just-in-time construction extends a container. -/
theorem extends_justInTime (c : Container) :
    { c with config := { c.config with jitBindings := true } }.Extends c :=
  ⟨rfl, fun _ => id, fun _ => rfl⟩

/-- More modules extend the container of a builder. -/
theorem extends_install (b : Builder) (ss : List Statement) (classes : ClassTable) (w : World) :
    ((b.install ss w).1.container classes).Extends (b.container classes) := by
  refine ⟨rfl, fun key hkey => ?_, id⟩
  obtain ⟨more, hmore, -⟩ := Draft.definitions_configureAll ss b.draft w
  have hafter : ((b.install ss w).1.container classes).registry =
      .ofDefinitions (b.draft.definitions ++ more) := congrArg Registry.ofDefinitions hmore
  have hbefore : (b.container classes).registry = .ofDefinitions b.draft.definitions := rfl
  rw [hbefore, Registry.contains_iff, Registry.keys_ofDefinitions, List.mem_eraseDups] at hkey
  rw [hafter, Registry.contains_iff, Registry.keys_ofDefinitions, List.mem_eraseDups,
    List.map_append, List.mem_append]
  exact .inl hkey

/-- **Nothing becomes unavailable by more bindings.** If a container extends another, then all that
can be resolved in the other can be resolved in it, in whatever states the two are. A member that it
skips is skipped by the other, and so it injects all members that the other injects. A container is
extended by installing more modules, by adding a binding or replacing one, and by allowing
just-in-time construction. -/
theorem availability_monotone :
    (∀ c c' : Container, c'.Extends c →
      (∀ d s t s', s.Faithful c → t.Faithful c' → c.canResolve d s = some (.ok true, s') →
        ∃ t', c'.canResolve d t = some (.ok true, t')) ∧
      (∀ (m : Member) name self self' s t t', s.Faithful c → t.Faithful c' →
        c'.argumentsFor self' name m.dependencies m.optional t = some (.ok none, t') →
        ∃ s', c.argumentsFor self name m.dependencies m.optional s = some (.ok none, s')) ∧
      ∀ cls, ((c.classes.instancePoints cls).filter c.runs).Sublist
        ((c'.classes.instancePoints cls).filter c'.runs)) ∧
    (∀ (b : Builder) (ss : List Statement) (classes : ClassTable) (w : World),
      ((b.install ss w).1.container classes).Extends (b.container classes)) ∧
    (∀ (c : Container) (b : Binding), (c.register b).Extends c) ∧
    ∀ c : Container, { c with config := { c.config with jitBindings := true } }.Extends c := by
  refine ⟨fun c c' h => ⟨fun d s t s' hs ht hrun => ?_,
    fun m name self self' s t t' hs ht hrun => ?_, h.sublist_runs⟩,
    extends_install, extends_register, extends_justInTime⟩
  · have hd : c.isAvailable d = true := (c.canResolve_eq_true_iff d hs).mp ⟨s', hrun⟩
    exact (c'.canResolve_eq_true_iff d ht).mpr (h.isAvailable hd)
  · have hskipped := (exists_skipped_iff self' name ht m).mp ⟨t', hrun⟩
    refine (exists_skipped_iff self name hs m).mpr (Bool.eq_false_iff.mpr fun hruns => ?_)
    rw [h.runs hruns] at hskipped
    cases hskipped

/-- A harbour for ships, where a name is bound. -/
def harbour : List Statement := [.bind .text none [] [] (.value "Ariel")]

/-- A new harbour master hires a crew, and has another name for the ship. -/
def harbourMaster : List Statement :=
  [.install [.bind (.component "Crew") none [] [.inScope .singleton] .injectableInstance],
    .bind .text none [] [] (.provider "Puck" fun _ => none)]

/-- A ship needs its crew and the crew needs its ship. A ship is moored at the pier under its name,
if there is one. -/
def harbourClasses : ClassTable := .ofList
  [("Ship", ⟨[(Member.constructor "Ship" (.reading [.component "Crew"] none)).requiring
        [.injectable "Crew"]], [], .fresh fun _ => none⟩),
    ("Crew", ⟨[.constructor "Crew" (.reading [] none),
        .field "Crew" "ship" (.injectable "Ship")], [], .fresh fun _ => none⟩),
    ("Pier", ⟨[((Member.method "Pier" "moor" (.reading [.component "Ship", .text] none)).requiring
        [.injectable "Ship", .ofTy .text]).withOptional true], [], .fresh fun _ => none⟩)]

/-- Ships that could be moored before can be moored under the new harbour master, who has a crew for
them that need not be constructed. -/
theorem harbour_keeps_mooring :
    let b := ((Builder.ofConfig .standard).install harbour .new).1
    let c := b.container harbourClasses
    let c' := (b.install harbourMaster .new).1.container harbourClasses
    c'.Extends c ∧
      (∃ s', c.canResolve (.injectable "Ship") ⟨c.initialMemory, .new⟩ = some (.ok true, s')) ∧
      (∃ t', c'.canResolve (.injectable "Ship") ⟨c'.initialMemory, .new⟩ = some (.ok true, t')) ∧
      ((c.classes.instancePoints "Pier").filter c.runs).map Member.name = ["moor"] ∧
      ((c.classes.instancePoints "Pier").filter c.runs).Sublist
        ((c'.classes.instancePoints "Pier").filter c'.runs) := by
  intro b c c'
  obtain ⟨hmonotone, hinstall, -⟩ := availability_monotone
  have hextends : c'.Extends c := hinstall b harbourMaster harbourClasses .new
  obtain ⟨hresolve, -, hsublist⟩ := hmonotone c c' hextends
  have hship : (c.canResolve (.injectable "Ship") ⟨c.initialMemory, .new⟩).map Prod.fst =
      some (.ok true) := by
    decide +kernel
  obtain ⟨⟨r, s'⟩, hrun, rfl⟩ := Option.map_eq_some_iff.mp hship
  exact ⟨hextends, ⟨s', hrun⟩, hresolve _ _ _ s' (c.faithful_initial .new)
    (c'.faithful_initial .new) hrun, by decide +kernel, hsublist "Pier"⟩

end Container

end Wiring
