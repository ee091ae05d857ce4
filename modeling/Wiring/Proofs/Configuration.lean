import Mathlib.Data.List.Induction
import Wiring.Container.Builder

/-!
# What Modules Configure

Modules may install modules, but what they configure is told by the list of their statements once
all modules are written out: a draft holds one definition for each binding statement, and one
request for each class whose static injection is requested, in the order of the list. In a
container, keys are listed in the order in which they were first bound.

## Main statements

* `configureAll_induct`: what each statement preserves is preserved by modules.
* `Registry.keys_ofDefinitions`: the keys of a registry.
* `Draft.collects_configureAll`: what modules configure.
* `Builder.build_eq_ok_iff`, `Builder.build_eq_error_iff`: what a build comes to.
-/

namespace Wiring

/-- A list with one more element, without repetitions. -/
theorem eraseDups_concat {α : Type} [DecidableEq α] (as : List α) (a : α) :
    (as ++ [a]).eraseDups = if a ∈ as then as.eraseDups else as.eraseDups ++ [a] := by
  rw [List.eraseDups_append]
  split
  · next ha =>
    have hnone : [a].removeAll as = [] := by simp [List.removeAll, ha]
    rw [hnone, List.eraseDups_nil, List.append_nil]
  · next ha =>
    have hone : [a].removeAll as = [a] := by simp [List.removeAll, ha]
    rw [hone]
    rfl

/-- No element is left twice. -/
theorem nodup_eraseDups {α : Type} [DecidableEq α] (as : List α) : as.eraseDups.Nodup := by
  induction as using List.reverseRecOn with
  | nil => exact List.nodup_nil
  | append_singleton as a ih =>
    rw [eraseDups_concat]
    split
    · exact ih
    · next ha =>
      refine List.nodup_append.mpr ⟨ih, List.pairwise_singleton _ a, fun b hb b' hb' heq => ha ?_⟩
      rw [← List.mem_singleton.mp hb', ← heq]
      exact List.mem_eraseDups.mp hb

/-! ### Statements written out -/

mutual

/-- A statement that is written out installs nothing. -/
theorem Statement.install_notMem_flatten (s : Statement) (ts : List Statement) :
    .install ts ∉ s.flatten := by
  cases s with
  | install ss =>
    rw [Statement.flatten]
    exact install_notMem_flattenAll ss ts
  | _ => simp [Statement.flatten]

/-- Statements that are written out install nothing. -/
theorem install_notMem_flattenAll (ss ts : List Statement) : .install ts ∉ flattenAll ss := by
  cases ss with
  | nil => exact List.not_mem_nil
  | cons s rest =>
    rw [flattenAll, List.mem_append]
    exact fun h => h.elim (s.install_notMem_flatten ts) (install_notMem_flattenAll rest ts)

end

/-- What holds of a draft and a world after the statements so far, and is preserved by each
statement, holds after all statements. Installing is done by the installed statements. -/
theorem configureAll_induct {P : List Statement → Draft × World → Prop} {dw : Draft × World}
    (hstart : P [] dw) (ss : List Statement)
    (hstep : ∀ pre s dw, (∀ ts, s ≠ .install ts) → s ∈ flattenAll ss → P pre dw →
      P (pre ++ [s]) (s.configure dw)) : P (flattenAll ss) (configureAll ss dw) := by
  have hlist : ∀ (flat pre : List Statement) (dw : Draft × World), pre ++ flat = flattenAll ss →
      P pre dw → P (pre ++ flat) (configureAll flat dw) := by
    intro flat
    induction flat with
    | nil =>
      intro pre dw _ h
      rw [List.append_nil]
      exact h
    | cons s rest ih =>
      intro pre dw heq h
      have hmem : s ∈ flattenAll ss := by
        rw [← heq]
        exact List.mem_append_right _ List.mem_cons_self
      have hinstall : ∀ ts, s ≠ .install ts := fun ts hs =>
        install_notMem_flattenAll ss ts (hs ▸ hmem)
      have hnext := ih (pre ++ [s]) (s.configure dw) (by rw [← heq, List.append_assoc]; rfl)
        (hstep pre s dw hinstall hmem h)
      rw [List.append_assoc] at hnext
      exact hnext
  rw [configureAll_eq_flatten]
  exact hlist (flattenAll ss) [] dw rfl hstart

namespace Statement

/-- The key that a statement binds. -/
def key? : Statement → Option Key
  | bind ty viaKey qualifiers _ _ => some (statedKey ty viaKey qualifiers)
  | define key _ _ _ => some key
  | injectStatic _ | install _ => none

/-- The class of which a statement requests static injection. -/
def static? : Statement → Option ClassPath
  | injectStatic cls => some cls
  | _ => none

end Statement

/-- The keys that statements bind, in the order of the statements. -/
def boundKeys (ss : List Statement) : List Key := (flattenAll ss).filterMap Statement.key?

/-- The classes of which statements request static injection, in the order of the statements. -/
def requestedClasses (ss : List Statement) : List ClassPath :=
  (flattenAll ss).filterMap Statement.static?

/-! ### Registries and drafts -/

/-- Keys are listed in the order in which they are first bound. -/
theorem Registry.keys_ofDefinitions (bs : List Binding) :
    (ofDefinitions bs).keys = (bs.map Binding.key).eraseDups := by
  induction bs using List.reverseRecOn with
  | nil => rfl
  | append_singleton bs b ih =>
    have hregister : ofDefinitions (bs ++ [b]) = (ofDefinitions bs).register b := by
      simp [ofDefinitions]
    rw [hregister, keys_register, ih, List.map_append, List.map_singleton, eraseDups_concat]
    simp only [List.mem_eraseDups]

namespace Draft

/-- A draft without repeated requests has definitions for some keys and requests for some
classes. -/
structure Collects (d : Draft) (keys : List Key) (classes : List ClassPath) : Prop where
  /-- Repeated requests are dropped. -/
  distinct : d.distinct = true
  /-- The definitions are for these keys. -/
  keys : d.definitions.map Binding.key = keys
  /-- The requests are for these classes, but not repeated. -/
  classes : d.staticTargets = classes.eraseDups

/-- A definition adds its key. -/
theorem Collects.define {d : Draft} {keys : List Key} {classes : List ClassPath}
    (h : d.Collects keys classes) (b : Binding) :
    (d.define b).Collects (keys ++ [b.key]) classes where
  distinct := h.distinct
  keys := by
    rw [Draft.define, List.map_append, h.keys]
    rfl
  classes := h.classes

/-- A request for static injection adds its class, unless it is there. -/
theorem Collects.requestStatic {d : Draft} {keys : List Key} {classes : List ClassPath}
    (h : d.Collects keys classes) (w : World) (cls : ClassPath) :
    (d.requestStatic w cls).1.Collects keys (classes ++ [cls]) := by
  have hmem : cls ∈ d.staticTargets ↔ cls ∈ classes := by rw [h.classes, List.mem_eraseDups]
  unfold Draft.requestStatic
  rw [h.distinct, Bool.true_and]
  by_cases hcls : cls ∈ classes
  · rw [if_pos (decide_eq_true (hmem.mpr hcls))]
    exact ⟨h.distinct, h.keys, by rw [eraseDups_concat, if_pos hcls, h.classes]⟩
  · rw [if_neg (by simp [hmem, hcls])]
    exact ⟨rfl, h.keys, by rw [eraseDups_concat, if_neg hcls, h.classes]⟩

/-- What modules configure is told by their statements. -/
theorem collects_configureAll (ss : List Statement) (w : World) :
    (configureAll ss (.empty true, w)).1.Collects (boundKeys ss) (requestedClasses ss) := by
  refine configureAll_induct (P := fun flat dw =>
    dw.1.Collects (flat.filterMap Statement.key?) (flat.filterMap Statement.static?))
    ⟨rfl, rfl, rfl⟩ ss fun pre s dw hinstall _ h => ?_
  rw [List.filterMap_append, List.filterMap_append]
  cases s with
  | bind ty viaKey qualifiers scopes source =>
    rw [List.filterMap_cons_none (f := Statement.static?) rfl, List.filterMap_nil,
      List.append_nil]
    exact h.define _
  | define key source scope eager =>
    rw [List.filterMap_cons_none (f := Statement.static?) rfl, List.filterMap_nil,
      List.append_nil]
    exact h.define _
  | injectStatic cls =>
    rw [List.filterMap_cons_none (f := Statement.key?) rfl, List.filterMap_nil, List.append_nil]
    exact h.requestStatic _ cls
  | install ts => exact absurd rfl (hinstall ts)

end Draft

/-! ### Builders -/

namespace Builder

/-- The container that a builder builds. -/
def container (b : Builder) (classes : ClassTable) : Container := b.draft.container b.config classes

/-- The state in which a builder begins to build: nothing is remembered, and the registrations have
been written to the log. -/
def opening (b : Builder) (classes : ClassTable) (w : World) : State :=
  ⟨(b.container classes).initialMemory,
    (Registry.announced b.draft.definitions).2.foldl World.log w⟩

/-- A build is what its container does from the opening state. -/
theorem build_eq (b : Builder) (classes : ClassTable) (w : World) :
    b.build classes w = ((b.container classes).start (b.opening classes w)).map fun (r, s) =>
      (r.map fun _ => ⟨b.container classes, s.memory⟩, s.world) := rfl

/-- A build comes to a result exactly when the container does. -/
theorem build_eq_some_iff {b : Builder} {classes : ClassTable} {w w' : World}
    {r : Except ConfigurationError RunningContainer} :
    b.build classes w = some (r, w') ↔
      ∃ r' s, (b.container classes).start (b.opening classes w) = some (r', s) ∧
        r = r'.map (fun _ => ⟨b.container classes, s.memory⟩) ∧ w' = s.world := by
  rw [build_eq, Option.map_eq_some_iff]
  constructor
  · rintro ⟨⟨r', s⟩, hrun, heq⟩
    cases heq
    exact ⟨r', s, hrun, rfl, rfl⟩
  · rintro ⟨r', s, hrun, rfl, rfl⟩
    exact ⟨(r', s), hrun, rfl⟩

/-- A build succeeds as its container does. -/
theorem build_eq_ok_iff {b : Builder} {classes : ClassTable} {w w' : World}
    {r : RunningContainer} :
    b.build classes w = some (.ok r, w') ↔
      r.container = b.container classes ∧
        (b.container classes).start (b.opening classes w) = some (.ok (), ⟨r.memory, w'⟩) := by
  rw [build_eq_some_iff]
  constructor
  · rintro ⟨r' | ⟨⟨⟩⟩, s, hstart, heq, rfl⟩
    · cases heq
    · cases heq
      exact ⟨rfl, hstart⟩
  · obtain ⟨c, m⟩ := r
    rintro ⟨rfl, hstart⟩
    exact ⟨.ok (), _, hstart, rfl, rfl⟩

/-- A build fails as its container does. -/
theorem build_eq_error_iff {b : Builder} {classes : ClassTable} {w w' : World}
    {e : ConfigurationError} :
    b.build classes w = some (.error e, w') ↔
      ∃ s, (b.container classes).start (b.opening classes w) = some (.error e, s) ∧
        w' = s.world := by
  rw [build_eq_some_iff]
  constructor
  · rintro ⟨r' | _, s, hstart, heq, rfl⟩
    · cases heq
      exact ⟨s, hstart, rfl⟩
    · cases heq
  · rintro ⟨s, hstart, rfl⟩
    exact ⟨.error e, s, hstart, rfl, rfl⟩

variable (config : ContainerConfig) (ss : List Statement) (classes : ClassTable) (w : World)

/-- The keys of a container come in the order in which they are first bound. -/
theorem keys_container :
    (((ofConfig config).install ss w).1.container classes).registry.keys =
      (boundKeys ss).eraseDups := by
  have hkeys := (Draft.collects_configureAll ss w).keys
  rw [← hkeys]
  exact Registry.keys_ofDefinitions _

/-- The static targets of a container come in the order in which they are first requested. -/
theorem staticTargets_container :
    (((ofConfig config).install ss w).1.container classes).staticTargets =
      (requestedClasses ss).eraseDups := (Draft.collects_configureAll ss w).classes

end Builder

end Wiring
