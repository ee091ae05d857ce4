import Wiring.Proofs.Agreement
import Wiring.Proofs.Settling

/-!
# Optional Members Are Decided by Availability

A container does the same as the container with its optional members settled: the same results and
errors, the same calls with the same arguments in the same order, and the same instances kept
everywhere. Only the catalogs that are kept differ, and with them the entries in the journal that
member tables are read and what is written to the log.

The two run in lockstep. Where one checks an optional member and skips it, the other has no such
member. Where one checks it and goes on, the other does not check.

## Main statements

* `Container.Corresponds`: states of a container and of the settled one.
* `Container.inStep_settled`: the two do the same as long as they resolve to the same.
* `Container.settled_same`: the two do the same.
-/

namespace Wiring

namespace Container

variable {c : Container}

/-- A state of a container and a state of the settled one: they are the same but for the catalogs
and the asides in the journal. -/
structure Corresponds (c : Container) (s t : State) : Prop where
  /-- The same singletons are kept. -/
  slots : s.memory.slots = t.memory.slots
  /-- Deferred bindings are equally far. -/
  deferred : s.memory.deferred = t.memory.deferred
  /-- Providers were called equally often. -/
  calls : s.memory.calls = t.memory.calls
  /-- The worlds are the same but for asides. -/
  world : World.Alike Event.isTelling s.world t.world
  /-- The container keeps catalogs of its classes. -/
  faithful : s.Faithful c
  /-- The settled container keeps catalogs of the settled classes. -/
  faithful_settled : t.Faithful c.settled

/-- Looking at classes on one side keeps the correspondence. -/
theorem Corresponds.look_left {s s' t : State} (h : c.Corresponds s t) (hstep : quiet.Step s s')
    (hs' : s'.Faithful c) : c.Corresponds s' t := by
  obtain ⟨hm, hw⟩ := hstep
  refine ⟨?_, ?_, ?_, ⟨hw.core.symm.trans h.world.core, hw.journal.symm.trans h.world.journal⟩, hs',
    h.faithful_settled⟩
  · rw [hm]
    exact h.slots
  · rw [hm]
    exact h.deferred
  · rw [hm]
    exact h.calls

/-- Looking at classes on the other side keeps the correspondence. -/
theorem Corresponds.look_right {s t t' : State} (h : c.Corresponds s t) (hstep : quiet.Step t t')
    (ht' : t'.Faithful c.settled) : c.Corresponds s t' := by
  obtain ⟨hm, hw⟩ := hstep
  refine ⟨?_, ?_, ?_, ⟨h.world.core.trans hw.core, h.world.journal.trans hw.journal⟩, h.faithful,
    ht'⟩
  · rw [hm]
    exact h.slots
  · rw [hm]
    exact h.deferred
  · rw [hm]
    exact h.calls

theorem likeness_corresponds (c : Container) : Likeness c.Corresponds where
  world hf s t h := by
    obtain ⟨h1, h2⟩ := h.world.act hf
    exact ⟨h1, h.slots, h.deferred, h.calls, h2, h.faithful, h.faithful_settled⟩

theorem shares_corresponds (c : Container) (key : Key) : Shares c.Corresponds key where
  slot h := by rw [h.slots]
  setSlot cell h := ⟨congrArg (·.insert key cell) h.slots, h.deferred, h.calls, h.world, h.faithful,
    h.faithful_settled⟩
  readiness h := by rw [Memory.readiness, h.deferred]; rfl
  setReadiness r h := ⟨h.slots, congrArg (·.insert key r) h.deferred, h.calls, h.world, h.faithful,
    h.faithful_settled⟩
  callCount h := by rw [Memory.callCount, h.calls]; rfl
  countCall {s t} h := by
    refine ⟨h.slots, h.deferred, ?_, h.world, h.faithful, h.faithful_settled⟩
    simp only [Memory.countCall, Memory.callCount, h.calls]

/-- The log may say different things on both sides. -/
theorem Corresponds.log {s t : State} (h : c.Corresponds s t) (n n' : Notice) :
    c.Corresponds (s.inWorld (s.world.log n)) (t.inWorld (t.world.log n')) := by
  refine ⟨h.slots, h.deferred, h.calls, ⟨h.world.core, ?_⟩, h.faithful, h.faithful_settled⟩
  simp only [State.inWorld, World.log, World.emit, Array.toList_push, List.filter_append,
    h.world.journal]
  rfl

/-- Every state corresponds to itself with its catalogs forgotten. -/
theorem corresponds_forget {s : State} (hs : s.Faithful c) :
    c.Corresponds s { s with memory := { s.memory with catalogs := ∅ } } :=
  ⟨rfl, rfl, rfl, ⟨rfl, rfl⟩, hs, c.settled.faithful_initial s.world⟩

/-- A new container corresponds to a new settled one. -/
theorem corresponds_initial (c : Container) (w : World) :
    c.Corresponds ⟨c.initialMemory, w⟩ ⟨c.settled.initialMemory, w⟩ :=
  corresponds_forget (c.faithful_initial w)

/-! ### Looking at classes on both sides -/

/-- The correspondence does not mind that either side looks at classes. -/
theorem oblivious_corresponds (c : Container) : Oblivious c c.settled c.Corresponds where
  faithful h := h.faithful
  faithful' h := h.faithful_settled
  left h hstep hs := h.look_left (quiet_of_reading hstep) hs
  right h hstep ht := h.look_right (quiet_of_reading hstep) ht

/-- Both containers answer alike whether a dependency can be resolved. -/
theorem canResolve_follows (c : Container) (d : Dependency) :
    Follows True c.Corresponds (c.canResolve d) (c.settled.canResolve d) :=
  (oblivious_corresponds c).canResolve (isAvailable_settled c d).symm

/-- Both containers find the catalogs of a class, or the same error. -/
theorem catalog_follows (c : Container) (cls : ClassPath) :
    FollowsUpTo (fun cat cat' => c.classes.catalog cls = .ok cat ∧ cat' = c.settleCatalog cat) True
      c.Corresponds (c.catalog cls) (c.settled.catalog cls) :=
  (oblivious_corresponds c).catalog (catalog_settled c cls)

/-! ### Members -/

variable {self self' : Dependency → Run Instance}

/-- The arguments of an optional member that is not skipped are those of the required one. -/
theorem argumentsFor_follows_settled
    (hself : ∀ d, Follows True c.Corresponds (self d) (self' d)) (member : String)
    {ds : List Dependency} (hds : ∀ d ∈ ds, c.isAvailable d = true) :
    Follows True c.Corresponds (c.argumentsFor self member ds true)
      (c.settled.argumentsFor self' member ds false) := by
  have hrequired : Follows True c.Corresponds (c.argumentsFor self member ds false)
      (c.settled.argumentsFor self' member ds false) :=
    Likeness.argumentsFor_required (fun _ => rfl) hself member ds
  intro s t h
  obtain ⟨nb, hnb, hfound⟩ := c.firstUnavailable_eq ds h.faithful
  have hquiet := (admitsLooks_quiet c).firstUnavailable ds s trivial trivial _ _ hfound
  have hnone : ds.find? (!c.isAvailable ·) = none := by
    rw [List.find?_eq_none]
    intro d hd
    simp [hds d hd]
  have hargs : c.argumentsFor self member ds true s =
      c.argumentsFor self member ds false (s.withNotebook nb) := by
    rw [argumentsFor_optional, Run.bind_eq, hfound, hnone]
  rw [hargs]
  exact hrequired _ t (h.look_left hquiet.2.1 hnb)

/-- An optional member that is skipped gets no arguments. -/
theorem argumentsFor_follows_skipped (self : Dependency → Run Instance) (member : String)
    {ds : List Dependency} (hds : ¬ ∀ d ∈ ds, c.isAvailable d = true) :
    FollowsUpTo (fun values _ => values = none) True c.Corresponds
      (c.argumentsFor self member ds true) (Run.succeed ()) := by
  intro s t h
  obtain ⟨nb, hnb, hfound⟩ := c.firstUnavailable_eq ds h.faithful
  have hquiet := (admitsLooks_quiet c).firstUnavailable ds s trivial trivial _ _ hfound
  cases hfind : ds.find? (!c.isAvailable ·) with
  | none =>
    refine absurd (fun d hd => ?_) hds
    simpa using List.find?_eq_none.mp hfind d hd
  | some d =>
    rw [argumentsFor_optional]
    simp only [Run.bind_eq, hfound, hfind]
    refine ⟨(), t, rfl, rfl, ?_⟩
    have hlog := (admitsLooks_quiet c).emit (s := s.withNotebook nb) trivial
      (.logged (.skipped member d.key)) rfl rfl
    exact (h.look_left hquiet.2.1 hnb).look_left hlog.2 hnb

/-- A member that is kept and no constructor is required, and if it was optional then its
dependencies are available. -/
theorem eq_of_settleMember {m m' : Member} (hm : m.isConstructor = false)
    (h : c.settleMember m = some m') :
    m' = m.withOptional false ∧
      (m.optional = true → ∀ d ∈ m.dependencies, c.isAvailable d = true) := by
  unfold settleMember at h
  rw [if_neg (by simp [hm])] at h
  split at h
  · cases h
  · rename_i hkept
    cases h
    refine ⟨rfl, fun hopt => ?_⟩
    simpa [hopt] using hkept

/-- A member that is not kept is optional, and not all of its dependencies are available. -/
theorem unavailable_of_settleMember {m : Member} (h : c.settleMember m = none) :
    m.optional = true ∧ ¬ ∀ d ∈ m.dependencies, c.isAvailable d = true := by
  unfold settleMember at h
  split at h
  · cases h
  · split at h
    · rename_i hdropped
      rw [Bool.and_eq_true, Bool.not_eq_true', List.all_eq_false] at hdropped
      obtain ⟨hopt, d, hd, hna⟩ := hdropped
      exact ⟨hopt, fun hall => hna (hall d hd)⟩
    · cases h

/-- A member that is kept gets the same arguments. -/
theorem argumentsFor_follows_kept
    (hself : ∀ d, Follows True c.Corresponds (self d) (self' d)) {m : Member}
    (hm : m.optional = true → ∀ d ∈ m.dependencies, c.isAvailable d = true) (name : String) :
    Follows True c.Corresponds (c.argumentsFor self name m.dependencies m.optional)
      (c.settled.argumentsFor self' name m.dependencies false) := by
  cases hopt : m.optional with
  | false => exact Likeness.argumentsFor_required (fun _ => rfl) hself name m.dependencies
  | true => exact argumentsFor_follows_settled hself name (hm hopt)

/-- Catalogs lead to the same injections as the settled ones. -/
theorem sameInjections_settled (hself : ∀ d, Follows True c.Corresponds (self d) (self' d))
    {cls : ClassPath} {cat : Catalog} (hcat : c.classes.catalog cls = .ok cat) :
    SameInjections .everything True c.Corresponds c c.settled self self' cls cat
      (c.settleCatalog cat) where
  cls := rfl
  constructor := rfl
  needs _ _ _ _ _ := trivial
  points _ target id := by
    have hkind : ∀ m ∈ cat.instancePoints, m.isConstructor = false := fun m hm => by
      obtain ⟨form, path, hrole⟩ := ClassTable.role_of_mem_instancePoints hcat hm
      unfold Member.isConstructor
      rw [hrole]
    refine Follows.each_filterMap (fun m hm m' hsettle => ?_) fun m hm hsettle => ?_
    · obtain ⟨rfl, hall⟩ := eq_of_settleMember (hkind m hm) hsettle
      exact (likeness_corresponds c).injectPoint rfl (argumentsFor_follows_kept hself hall _)
        target id
    · obtain ⟨hopt, hna⟩ := unavailable_of_settleMember hsettle
      unfold injectPoint
      rw [hopt]
      cases m.role with
      | constructor => exact Follows.succeed ()
      | static form => exact Follows.succeed ()
      | instanceOf form path =>
        refine (argumentsFor_follows_skipped self _ hna).bind (g := fun _ => Run.succeed ()) ?_
        rintro _ _ rfl
        exact Follows.succeed ()
  statics _ := by
    have hkind : ∀ m ∈ cat.staticPoints, m.isConstructor = false := fun m hm => by
      have hstatic := ClassTable.isStatic_of_mem_staticPoints hcat hm
      unfold Member.isStatic at hstatic
      unfold Member.isConstructor
      cases hrole : m.role with
      | constructor => simp [hrole] at hstatic
      | instanceOf form path => rfl
      | static form => rfl
    refine Follows.each_filterMap (fun m hm m' hsettle => ?_) fun m hm hsettle => ?_
    · obtain ⟨rfl, hall⟩ := eq_of_settleMember (hkind m hm) hsettle
      exact (likeness_corresponds c).injectStaticPoint rfl (argumentsFor_follows_kept hself hall _)
    · obtain ⟨hopt, hna⟩ := unavailable_of_settleMember hsettle
      unfold injectStaticPoint
      rw [hopt]
      refine (argumentsFor_follows_skipped self _ hna).bind (g := fun _ => Run.succeed ()) ?_
      rintro _ _ rfl
      exact Follows.succeed ()

/-! ### The whole -/

/-- The containers do the same as long as they resolve to the same. -/
theorem inStep_settled (hself : ∀ d, Follows True c.Corresponds (self d) (self' d)) :
    InStep True c.Corresponds c c.settled self self' where
  like := likeness_corresponds c
  shares key _ := shares_corresponds c key
  along d _ := hself d
  reach _ _ := rfl
  supply cls := by rw [decl_settled]; rfl
  catalog cls := by
    intro s t h
    have hcat := catalog_follows c cls s t h
    revert hcat
    rcases c.catalog cls s with _ | ⟨_ | cat, s'⟩
    · exact id
    · exact id
    · rintro ⟨cat', t', ht, ⟨hcat, rfl⟩, h'⟩
      exact ⟨_, t', ht, sameInjections_settled hself hcat, h'⟩

theorem resolveWithin_follows_settled (c : Container) (n : Nat) (d : Dependency) :
    Follows True c.Corresponds (c.resolveWithin n d) (c.settled.resolveWithin n d) := by
  induction n generalizing d with
  | zero => exact Follows.stuck
  | succ n ih => exact (inStep_settled ih).resolveStep rfl (fun _ => rfl) d

theorem resolve_follows_settled (c : Container) (d : Dependency) :
    Follows True c.Corresponds (c.resolve d) (c.settled.resolve d) := by
  unfold resolve
  rw [depthBound_settled]
  exact c.resolveWithin_follows_settled c.depthBound d

theorem start_follows_settled (c : Container) :
    Follows True c.Corresponds c.start c.settled.start :=
  BuiltAlike.start
    { steps := inStep_settled c.resolve_follows_settled
      registry := rfl
      config := rfl
      targets := rfl
      built := fun h => h.log _ _ }

/-- Building a draft with settled classes comes to the same end. -/
theorem build_settled (draft : Draft) (config : ContainerConfig) (classes : ClassTable)
    (w : World) :
    (∀ e v, draft.build config classes w = some (.error e, v) →
      ∃ v', draft.build config (draft.container config classes).settled.classes w =
        some (.error e, v') ∧ World.Alike Event.isTelling v v') ∧
    (∀ r v, draft.build config classes w = some (.ok r, v) →
      ∃ r' v', draft.build config (draft.container config classes).settled.classes w =
        some (.ok r', v') ∧ r.container = draft.container config classes ∧
          r'.container = r.container.settled ∧
          r.container.Corresponds ⟨r.memory, v⟩ ⟨r'.memory, v'⟩) ∧
    (draft.build config classes w = none →
      draft.build config (draft.container config classes).settled.classes w = none) := by
  let c := draft.container config classes
  let w₀ := (Registry.announced draft.definitions).2.foldl World.log w
  have hstart := c.start_follows_settled.sameOutcome (c.corresponds_initial w₀)
  have hbuild : draft.build config classes w = (c.start ⟨c.initialMemory, w₀⟩).map
      fun p => (p.1.map fun _ => ⟨c, p.2.memory⟩, p.2.world) := rfl
  have hbuild' : draft.build config c.settled.classes w =
      (c.settled.start ⟨c.settled.initialMemory, w₀⟩).map
        fun p => (p.1.map fun _ => ⟨c.settled, p.2.memory⟩, p.2.world) := rfl
  rw [hbuild, hbuild']
  rcases hrun : c.start ⟨c.initialMemory, w₀⟩ with _ | ⟨e | _, s⟩
  · rw [hstart.2 hrun]
    exact ⟨fun _ _ h => (by cases h), fun _ _ h => (by cases h), fun _ => rfl⟩
  · obtain ⟨t, ht, hst⟩ := hstart.1 _ _ hrun
    rw [ht]
    refine ⟨fun e' v h => ?_, fun _ _ h => (by cases h), fun h => (by cases h)⟩
    cases h
    exact ⟨_, rfl, hst.world⟩
  · obtain ⟨t, ht, hst⟩ := hstart.1 _ _ hrun
    rw [ht]
    refine ⟨fun _ _ h => (by cases h), fun r v h => ?_, fun h => (by cases h)⟩
    cases h
    exact ⟨_, _, rfl, rfl, rfl, hst⟩

/-- **Optionality is decided by availability.** A container and the container with its optional
members settled come to the same ends from corresponding states, such as a state and the same state
with its catalogs forgotten: whether they are asked if a dependency can be resolved, resolve it,
inject members into an object, or are built. The states that they come to correspond again. A draft
is built in the same way with settled classes. -/
theorem settled_same :
    (∀ (c : Container) (s : State), s.Faithful c →
      c.Corresponds s { s with memory := { s.memory with catalogs := ∅ } }) ∧
    (∀ (c : Container) (s t : State), c.Corresponds s t →
      (∀ d, SameOutcome c.Corresponds (c.canResolve d s) (c.settled.canResolve d t)) ∧
      (∀ d, SameOutcome c.Corresponds (c.resolve d s) (c.settled.resolve d t)) ∧
      (∀ cls target id, SameOutcome c.Corresponds (c.injectMembers cls target id s)
        (c.settled.injectMembers cls target id t)) ∧
      SameOutcome c.Corresponds (c.start s) (c.settled.start t)) ∧
    (∀ (draft : Draft) (config : ContainerConfig) (classes : ClassTable) (w : World),
      let settled := (draft.container config classes).settled.classes
      (∀ e v, draft.build config classes w = some (.error e, v) →
        ∃ v', draft.build config settled w = some (.error e, v') ∧
          World.Alike Event.isTelling v v') ∧
      (∀ r v, draft.build config classes w = some (.ok r, v) →
        ∃ r' v', draft.build config settled w = some (.ok r', v') ∧
          r.container = draft.container config classes ∧ r'.container = r.container.settled ∧
          r.container.Corresponds ⟨r.memory, v⟩ ⟨r'.memory, v'⟩) ∧
      (draft.build config classes w = none → draft.build config settled w = none)) := by
  refine ⟨fun c s => corresponds_forget, fun c s t h => ?_, build_settled⟩
  refine ⟨fun d => ?_, fun d => ?_, fun cls target id => ?_, ?_⟩
  · exact (c.canResolve_follows d).sameOutcome h
  · exact (c.resolve_follows_settled d).sameOutcome h
  · exact ((inStep_settled c.resolve_follows_settled).injectObject cls target id).sameOutcome h
  · exact c.start_follows_settled.sameOutcome h

/-- A container in which a text is bound, for a class with two optional members: one that takes a
number, and a static one that takes a text. -/
def radioShop : Container :=
  { config := .standard
    registry := .ofDefinitions [⟨.ofTy .text, .given ⟨0, .text "radio"⟩, .unscoped, false⟩]
    staticTargets := ["Radio"]
    classes := .ofList
      [("Radio", ⟨[Member.constructor "Radio" (.reading [] none),
        ((Member.method "Radio" "tune" (.reading [.number] none)).requiring
          [.ofTy .number]).withOptional true,
        ((Member.staticMethod "Radio" "announce" (.reading [.text] none)).requiring
          [.ofTy .text]).withOptional true], [], .fresh fun _ => none⟩)] }

/-- Radios cannot be tuned, but they are announced. -/
example : (radioShop.settled.classes.members "Radio").map (fun m => (m.name, m.optional)) =
    [("<init>", false), ("announce", false)] := by decide

/-- Radios are made in the same way when the class is settled. -/
theorem radioShop_settled_same :
    SameOutcome radioShop.Corresponds
      (radioShop.resolve (.injectable "Radio") ⟨radioShop.initialMemory, .new⟩)
      (radioShop.settled.resolve (.injectable "Radio")
        ⟨radioShop.settled.initialMemory, .new⟩) := by
  obtain ⟨hforget, hsame, -⟩ := settled_same
  exact (hsame radioShop _ _ (hforget radioShop _ (radioShop.faithful_initial .new))).2.1 _

end Container

end Wiring
