import Wiring.Proofs.Likeness
import Wiring.Proofs.Preparation
import Wiring.Proofs.Termination

/-!
# How Deep Resolutions Go

Without circles, dependencies nest no deeper than the longest chain of them: whatever is done with
a container comes to an end, and to the same end if deeper dependencies could not be resolved at
all. Nothing that is done once is entered while it is being done. A resolution that entered a busy
slot, or a deferred binding whose object is being injected, would never come to an end, and the
journal tells in so many words that the creation of a singleton is not announced again before it
has come to something, and neither is the injection of an object.

## Conventions

A depth is a number of dependencies, the one that is asked for included. `Container.startBy` is a
build in which dependencies are resolved in a given way, such as within some depth.

## Main statements

* `Container.startBy_follows`: builds that resolve dependencies to the same do the same.
* `InTurn`: what begins has ended before it begins again.
* `Container.EndsInTurn`: what is done with a container ends, and nothing is entered twice.
* `Container.InUse.atRest`: between operations, nothing is being created.
* `Container.acyclic_ends_in_turn`: containers without circles.
-/

namespace Wiring

/-! ### Depths -/

namespace Container

variable {c : Container} {s t : State} {α : Type}

/-- A build, where dependencies are resolved by `self`. -/
def startBy (c : Container) (self : Dependency → Run Instance) : Run Unit := do
  Run.each (fun step => .mapError step.blame (c.runBy self step)) c.buildSteps
  .log (.built (← .read fun s => c.stats s.memory))

theorem startBy_resolve (c : Container) : c.startBy c.resolve = c.start := by
  rw [start_eq]
  simp only [startBy, runBy_resolve]
  rfl

section

variable {lockstep : Prop} {self self' : Dependency → Run Instance}

/-- Steps that resolve dependencies to the same do the same. -/
theorem runBy_follows {c' : Container} (h : InStep lockstep Eq c c' self self')
    (step : BuildStep) : Follows lockstep Eq (c.runBy self step) (c'.runBy self' step) := by
  cases step with
  | prepare b d =>
    exact (InStepOn.force h trivial fun _ _ => trivial).bind fun _ => Follows.succeed ()
  | inject cls => exact InStepOn.injectStatics h fun _ _ => trivial
  | announce n => exact h.like.log _
  | create b =>
    refine (h.like.log _).bind fun _ => ?_
    exact (InStepOn.resolveBinding h trivial fun _ _ => trivial).bind fun _ => Follows.succeed ()

/-- Builds that resolve dependencies to the same do the same. -/
theorem startBy_follows (h : InStep lockstep Eq c c self self') :
    Follows lockstep Eq (c.startBy self) (c.startBy self') := by
  refine (Follows.each fun step _ => (runBy_follows h step).mapError _).bind fun _ => ?_
  exact Follows.refl _

end

theorem resolve_eq_resolveWithin (c : Container) : c.resolve = c.resolveWithin c.depthBound :=
  funext fun _ => rfl

theorem exists_depthBound_eq (c : Container) : ∃ n, c.depthBound = n + 1 := by
  have hpos : c.depthBound ≠ 0 := by
    unfold depthBound
    omega
  exact Nat.exists_eq_succ_of_ne_zero hpos

/-- A resolution leaves what is needed along the way to the depth below its bound. -/
theorem resolve_eq_resolveStep {n : Nat} (hn : c.depthBound = n + 1) :
    c.resolve = c.resolveStep (c.resolveWithin n) := by
  rw [resolve_eq_resolveWithin, hn]
  rfl

/-- A resolution leaves what is needed along the way to a smaller depth. -/
theorem exists_resolve_eq_resolveStep (c : Container) :
    ∃ n, c.resolve = c.resolveStep (c.resolveWithin n) := by
  obtain ⟨n, hn⟩ := c.exists_depthBound_eq
  exact ⟨n, resolve_eq_resolveStep hn⟩

/-- What comes to an end within some depth comes to the same end in general, if it does come to one
and a greater depth makes no difference. -/
theorem same_of_ends {F : (Dependency → Run Instance) → Run α}
    (hF : ∀ {n m}, n ≤ m → Follows False Eq (F (c.resolveWithin n)) (F (c.resolveWithin m)))
    {n : Nat} (hn : ∃ r t, F (c.resolveWithin n) s = some (r, t))
    (h : ∃ r t, F c.resolve s = some (r, t)) : F (c.resolveWithin n) s = F c.resolve s := by
  rw [resolve_eq_resolveWithin] at h ⊢
  obtain ⟨r, t, hn⟩ := hn
  obtain ⟨r', t', h⟩ := h
  rcases Nat.le_total n c.depthBound with hle | hle
  · obtain ⟨_, heq, rfl⟩ := (hF hle).eq_some rfl hn
    rw [hn, heq]
  · obtain ⟨_, heq, rfl⟩ := (hF hle).eq_some rfl h
    rw [h, heq]

end Container

/-! ### What is done once -/

/-- Between two entries that begin something, there is one that ends it. -/
def InTurn (begins ends : Event → Prop) (es : List Event) : Prop :=
  ∀ pre a mid b post, es = pre ++ a :: (mid ++ b :: post) → begins a → begins b → ∃ e ∈ mid, ends e

namespace Phase

variable {key : Key} {p q : Phase} {e : Event} {es : List Event}

/-- The creation of a singleton is announced only if there is no instance and none underway. -/
theorem eq_empty_of_creating (h : p.next key (.logged (.creatingSingleton key)) = some q) :
    p = empty ∧ q = announced := by
  simp only [next, if_true] at h
  split at h
  · next hp => exact ⟨hp, (Option.some.inj h).symm⟩
  · cases h

/-- A slot is busy until the binding comes to something. -/
theorem busy_of_next (h : p.next key e = some q) (he : ∀ r, e ≠ .supplied key r)
    (hp : p.cell = .busy) : q.cell = .busy := by
  unfold next at h
  split at h
  · split at h
    · split at h
      · cases h
        rfl
      · cases h
    · cases h
      exact hp
  · split at h
    · split at h
      · cases h
        rfl
      · cases h
    · cases h
      exact hp
  · split at h
    · next k r hk =>
      subst hk
      exact absurd rfl (he r)
    · cases h
      exact hp
  · split at h
    · split at h
      · cases h
        exact hp
      · cases h
    · cases h
      exact hp
  · cases h
    exact hp

theorem busy_of_replay (h : p.replay key es = some q) (hes : ∀ e ∈ es, ∀ r, e ≠ .supplied key r)
    (hp : p.cell = .busy) : q.cell = .busy := by
  induction es generalizing p with
  | nil =>
    cases h
    exact hp
  | cons e es ih =>
    obtain ⟨p', hnext, hrest⟩ := Option.bind_eq_some_iff.mp h
    have hp' := busy_of_next hnext (hes e List.mem_cons_self) hp
    exact ih hrest (fun e he => hes e (List.mem_cons_of_mem _ he)) hp'

/-- The creation of a singleton is not announced again before it has come to something. -/
theorem inTurn_of_replay (h : p.replay key es = some q) :
    InTurn (· = .logged (.creatingSingleton key)) (fun e => ∃ r, e = .supplied key r) es := by
  rintro pre _ mid _ post rfl rfl rfl
  by_contra hnone
  push Not at hnone
  obtain ⟨_, p₁, -, ha, hrest⟩ := replay_split h
  obtain ⟨p₂, _, hmid, hb, -⟩ := replay_split hrest
  obtain ⟨-, rfl⟩ := eq_empty_of_creating ha
  obtain ⟨rfl, -⟩ := eq_empty_of_creating hb
  cases busy_of_replay hmid hnone rfl

end Phase

/-- The injection of an object does not begin again. -/
theorem Readiness.inTurn_of_replay {key : Key} {p q : Readiness} {es : List Event}
    (h : p.replay key es = some q) :
    InTurn (· = .preparing key) (fun e => ∃ r, e = .forced key r) es := by
  rintro pre _ mid _ post rfl rfl rfl
  have hle := countP_prepares_le h
  have hbegins : Event.prepares key (.preparing key) = true := Event.prepares_iff.mpr rfl
  simp only [List.countP_append, List.countP_cons, hbegins, if_true] at hle
  split at hle <;> omega

/-! ### Containers without circles -/

namespace Container

variable {c : Container} {s t : State} {α : Type}

/-- The creation of each singleton and the injection of each deferred binding has come to something
before it begins again. -/
structure EntersInTurn (c : Container) (es : List Event) : Prop where
  /-- Singletons. -/
  singletons : ∀ key, c.IsSingleton key →
    InTurn (· = .logged (.creatingSingleton key)) (fun e => ∃ r, e = .supplied key r) es
  /-- Deferred bindings. -/
  deferred : ∀ key, InTurn (· = .preparing key) (fun e => ∃ r, e = .forced key r) es

/-- Nothing is being created. -/
structure AtRest (c : Container) (s : State) : Prop where
  /-- No slot is busy, and no deferred binding is running. -/
  resting : c.resting.Inv s
  /-- There is a slot for each singleton, and no others. -/
  slots : c.sharing.Inv s

/-- Two runs come to the same end from a state. Afterwards nothing is being created, and meanwhile
nothing was begun again that had not ended. -/
def EndsInTurn (c : Container) (s : State) (x y : Run α) : Prop :=
  ∃ r t es, x s = some (r, t) ∧ y s = some (r, t) ∧ c.AtRest t ∧ s.Entered t es ∧
    c.EntersInTurn es

/-- What is entered by a run that shares singletons and prepares deferred bindings once. -/
theorem entersInTurn {es : List Event} (hshares : c.sharing.Moves s t)
    (hprepares : c.preparation.Moves s t) (hes : s.Entered t es) (hs : c.AtRest s) :
    c.EntersInTurn es := by
  obtain ⟨-, es', hes', hadvances⟩ := hshares
  obtain ⟨-, es'', hes'', hprepared⟩ := hprepares
  obtain rfl := hes.unique hes'
  obtain rfl := hes.unique hes''
  refine ⟨fun key hkey => ?_, fun key => Readiness.inTurn_of_replay (hprepared.replay key)⟩
  obtain ⟨cell, hcell⟩ := get?_slots hs.slots hkey
  obtain ⟨p, rfl⟩ : ∃ p : Phase, p.cell = cell := by
    cases cell with
    | empty => exact ⟨.empty, rfl⟩
    | busy => exact ⟨.announced, rfl⟩
    | full i => exact ⟨.full i, rfl⟩
  obtain ⟨q, -, hreplay, -⟩ := hadvances key hkey p hcell
  exact Phase.inTurn_of_replay hreplay

/-- What comes to an end, shares singletons and prepares deferred bindings once, ends in turn. -/
theorem endsInTurn {x y : Run α} (hends : c.resting.Allows x) (hshares : c.sharing.Allows x)
    (hprepares : c.preparation.Allows x) (hs : c.AtRest s) (hsame : y s = x s) :
    c.EndsInTurn s x y := by
  obtain ⟨r, t, hrun⟩ := hends.ends trivial hs.resting trivial
  have hresting := hends.moves hs.resting trivial hrun
  have hprepared := hprepares.moves hs.resting.1 trivial hrun
  obtain ⟨hslots, hstep, -⟩ := hshares s hs.slots trivial r t hrun
  have hmoves : c.sharing.Moves s t := ⟨hslots, hstep⟩
  obtain ⟨es, hes, -⟩ := hstep
  exact ⟨r, t, es, hrun, hsame.trans hrun, ⟨hresting.1, hslots⟩, hes,
    entersInTurn hmoves hprepared hes hs⟩

section

variable {self : Dependency → Run Instance}

/-- The injection of members comes to an end if what it needs does. -/
theorem injectObject_ends {cls : ClassPath}
    (hself : ∀ e, c.InjectionNeeds cls e → c.Terminates self e) (target : ClassPath) (id : Nat) :
    c.resting.Allows (c.injectObject self cls target id) :=
  Contract.Compliance.injectObject (c.governs_terminating _ _) (fun e he => (hself e he).rests)
    (fun _ => trivial) id

/-- A build comes to an end if what it needs does. -/
theorem startBy_ends (hc : ∀ d, c.Acyclic d) (hself : ∀ d, c.Terminates self d) :
    c.resting.Allows (c.startBy self) := by
  refine Contract.Meets.bind (V := fun _ _ => True) (Contract.Meets.each fun step hstep => ?_)
    fun _ => ?_
  · refine Contract.Meets.mapError (E := fun _ => True) ?_ fun _ _ => trivial
    exact terminates_runBy hc hself (does_of_mem hstep)
  · exact Contract.Meets.bind (V := fun _ _ => True) (Contract.Meets.read fun _ _ _ => trivial)
      fun _ => terminating_emit _

end

/-- A resolution without circles ends in turn, and within the length of chains. -/
theorem resolve_endsInTurn {n : Nat} {d : Dependency} (hd : c.Shallow n d) (hs : c.AtRest s) :
    c.EndsInTurn s (c.resolve d) (c.resolveWithin n d) := by
  have hends := (terminates_resolve hd.acyclic).rests
  have hwithin := (terminates_resolveWithin hd).rests
  refine endsInTurn hends.allows (gives_resolve d).allows
    (c.governsAll_preparation.resolve d).allows hs ?_
  exact same_of_ends (F := fun self => self d) (fun hnm => c.resolveWithin_follows hnm d)
    (hwithin.ends trivial hs.resting trivial) (hends.ends trivial hs.resting trivial)

/-- So does the injection of members. -/
theorem injectMembers_endsInTurn {n : Nat} {cls : ClassPath}
    (hcls : ∀ e, c.InjectionNeeds cls e → c.Shallow n e) (target : ClassPath) (id : Nat)
    (hs : c.AtRest s) :
    c.EndsInTurn s (c.injectMembers cls target id)
      (c.injectObject (c.resolveWithin n) cls target id) := by
  have hends := injectObject_ends (fun e he => terminates_resolve (hcls e he).acyclic) target id
  have hwithin := injectObject_ends (fun e he => terminates_resolveWithin (hcls e he)) target id
  have hshares := Discipline.Conduct.injectObject c.admits_sharing gives_resolve cls target id
  have hprepares := Contract.Compliance.injectAny c.governsAll_preparation.toGoverns
    (fun _ _ => trivial) c.governsAll_preparation.resolve cls target id
  refine endsInTurn hends hshares hprepares hs ?_
  exact same_of_ends (F := fun self => c.injectObject self cls target id)
    (fun hnm => (c.inStep (c.resolveWithin_follows hnm)).injectObject cls target id)
    (hwithin.ends trivial hs.resting trivial) (hends.ends trivial hs.resting trivial)

/-- So do builds. -/
theorem start_endsInTurn {n : Nat} (hc : ∀ d, c.Shallow n d) (hs : c.AtRest s) :
    c.EndsInTurn s c.start (c.startBy (c.resolveWithin n)) := by
  have hacyclic := fun d => (hc d).acyclic
  have hends := startBy_ends hacyclic fun d => terminates_resolve (hacyclic d)
  have hwithin := startBy_ends hacyclic fun d => terminates_resolveWithin (hc d)
  have hprepares : c.preparation.Allows c.start :=
    c.governsAll_preparation.start fun _ _ _ => trivial
  have hsame := same_of_ends (F := c.startBy)
    (fun hnm => startBy_follows (c.inStep (c.resolveWithin_follows hnm)))
    (hwithin.ends trivial hs.resting trivial) (hends.ends trivial hs.resting trivial)
  rw [startBy_resolve] at hends hsame
  exact endsInTurn hends c.shares_start hprepares hs hsame

/-- Between operations of a container without circles, nothing is being created. -/
theorem InUse.atRest (h : c.InUse s) (hc : ∀ d, c.Acyclic d) : c.AtRest s := by
  induction h with
  | new w => exact ⟨c.resting_initial w, c.slots_initialMemory.1⟩
  | start _ hrun ih =>
    obtain ⟨r, t, _, hends, -, ht, -⟩ := start_endsInTurn (fun d => (hc d).shallow) ih
    cases hends.symm.trans hrun
    exact ht
  | @resolve _ _ d _ _ hrun ih =>
    obtain ⟨r, t, _, hends, -, ht, -⟩ := resolve_endsInTurn (hc d).shallow ih
    cases hends.symm.trans hrun
    exact ht
  | @inject _ _ cls target id _ _ hrun ih =>
    obtain ⟨r, t, _, hends, -, ht, -⟩ :=
      injectMembers_endsInTurn (fun e _ => (hc e).shallow) target id ih
    cases hends.symm.trans hrun
    exact ht
  | @ask _ _ d _ _ hrun ih =>
    have hresting := ((c.governs_terminating _ _).canResolve d).moves ih.resting trivial hrun
    exact ⟨hresting.1, (c.admits_sharing.looks.canResolve d _ ih.slots trivial _ _ hrun).1⟩
  | elsewhere w _ ih => exact ⟨ih.resting, ih.slots⟩

/-- **Resolutions end, and nothing is entered while it is being created.** In a container without
circles, chains of dependencies have bounded lengths. A resolution, the injection of members and a
build all come to an end, and to the same end if dependencies could not nest deeper than the chains
that they start: they never enter a slot that is busy or a deferred binding whose object is being
injected, from which they would not come back, and what they enter in the journal announces no
creation and no injection again before it has come to something. -/
theorem acyclic_ends_in_turn (c : Container) (hc : ∀ d, c.Acyclic d) :
    (∀ d, c.Shallow (c.registry.size + c.classes.size + 1) d) ∧
    (∀ (create : Run Instance) key s, s.memory.slots.get? key = some .busy →
      inSlot key create s = none) ∧
    (∀ self key d s, s.memory.readiness key = .running → c.force self key d s = none) ∧
    (∀ s, c.InUse s → ∀ n,
      (∀ d, c.Shallow n d → c.EndsInTurn s (c.resolve d) (c.resolveWithin n d)) ∧
      (∀ cls target id, (∀ e, c.InjectionNeeds cls e → c.Shallow n e) →
        c.EndsInTurn s (c.injectMembers cls target id)
          (c.injectObject (c.resolveWithin n) cls target id)) ∧
      ((∀ d, c.Shallow n d) → c.EndsInTurn s c.start (c.startBy (c.resolveWithin n)))) ∧
    ∀ (b : Builder) classes w, b.container classes = c →
      ∃ r w', b.build classes w = some (r, w') := by
  refine ⟨fun d => (hc d).shallow, fun _ _ _ => inSlot_of_busy, fun self _ d _ =>
    c.force_of_running self d, fun s hs n => ?_, ?_⟩
  · have hrest := hs.atRest hc
    exact ⟨fun d hd => resolve_endsInTurn hd hrest,
      fun cls target id hcls => injectMembers_endsInTurn hcls target id hrest,
      fun hall => start_endsInTurn hall hrest⟩
  · rintro b classes w rfl
    obtain ⟨r, t, -, hrun, -⟩ :=
      start_endsInTurn (fun d => (hc d).shallow) ((InUse.new _).atRest hc)
    exact ⟨_, _, Builder.build_eq_some_iff.mpr ⟨r, t, hrun, rfl, rfl⟩⟩

/-- A container for a lighthouse, the lamp in it, and the oil that the lamp burns. The lighthouse is
a singleton, and the lamp is injected. -/
def lighthouse : Container :=
  { config := .standard
    registry := .ofDefinitions
      [⟨.ofTy (.component "Lighthouse"), .constructor "Lighthouse", .singleton, true⟩,
        ⟨.ofTy (.component "Lamp"), .injected (.once "Lamp" 0), .unscoped, false⟩,
        ⟨.ofTy .text, .given ⟨0, .text "oil"⟩, .unscoped, false⟩]
    staticTargets := []
    classes := .ofList
      [("Lighthouse", ⟨[(Member.constructor "Lighthouse"
          (.reading [.component "Lamp"] none)).requiring [.injectable "Lamp"]], [],
          .fresh fun _ => none⟩),
        ("Lamp", ⟨[.field "Lamp" "oil" (.ofTy .text)], [], .fresh fun _ => none⟩)] }

/-- The lamp burns oil, and is in the lighthouse. -/
def lighthouseRank (key : Key) : Nat :=
  if key = .ofTy (.component "Lighthouse") then 2
  else if key = .ofTy (.component "Lamp") then 1 else 0

theorem ranked_lighthouse : lighthouse.Ranked lighthouseRank := by decide +kernel

/-- The lighthouse is built, and it is so within three dependencies. -/
theorem lighthouse_built_within_three :
    lighthouse.EndsInTurn ⟨lighthouse.initialMemory, (World.new.makeObject "Lamp").2⟩
      lighthouse.start (lighthouse.startBy (lighthouse.resolveWithin 3)) := by
  have hends := acyclic_ends_in_turn lighthouse (acyclic_of_ranked _ ranked_lighthouse)
  refine (hends.2.2.2.1 _ (.new _) 3).2.2 fun d => (ranked_lighthouse.shallow d).mono ?_
  unfold lighthouseRank
  split
  · decide
  · split <;> decide

end Container

end Wiring
