import Wiring.Proofs.Constancy

/-!
# Singletons Created Ahead of Time

A container may create its singletons when it is built or leave them until they are asked for. In a
steady container without circles this makes no difference to whether they can be created. A build
that creates all of them succeeds exactly when a build that leaves them succeeds and each of them
can be resolved afterwards, in whatever order; and if it fails at a singleton, with some error, then
this is the error that resolving the singleton reports.

## Conventions

After static members are injected, and before singletons are created, a container is *poised*. From
then on, each dependency has its fate: the resolution succeeds, or it fails with a certain error,
whatever was resolved before. The fate of a list is that of the first of its elements that fails.
Both builds, and all resolutions after them, are compared with these fates, and never with one
another.

Containers are *twins* if they have the same bindings and classes; they may differ in what they
create ahead of time, and do the same until then.

## Main statements

* `Comes`: what a run comes to, whatever happened before.
* `Container.Poised`: a container of which all deferred bindings are ready.
* `Container.Poised.comes_resolve`, `Container.Poised.comes_createAhead`: fates are met.
* `Container.start_ok_iff_of_twins`, `Container.exists_resolve_error_of_start_error`: what builds
  and later resolutions have to do with each other.
* `Builder.eager_agrees_with_lazy`: eager and lazy construction agree.
-/

namespace Wiring

/-! ### Fates -/

/-- What a result says about success: nothing more than that, or the error. -/
abbrev fateOf {α : Type} (r : Except ConfigurationError α) : Except ConfigurationError Unit :=
  r.map fun _ => ()

/-- Whichever state the run starts from of which `F` holds, it comes to an end, succeeds or fails as
`o` says, and `F` holds afterwards. -/
def Comes {α : Type} (F : State → Prop) (x : Run α) (o : Except ConfigurationError Unit) : Prop :=
  ∀ s, F s → ∃ r t, x s = some (r, t) ∧ F t ∧ fateOf r = o

/-- What a run comes to from one state. -/
def Run.fate {α : Type} (x : Run α) (s : State) : Except ConfigurationError Unit :=
  match x s with
  | some (r, _) => fateOf r
  | none => .ok ()

/-- A run that comes to an end has that fate. -/
theorem Run.fate_of_ends {α : Type} {x : Run α} {s t : State} {r : Except ConfigurationError α}
    (h : x s = some (r, t)) : x.fate s = fateOf r := by
  rw [fate, h]

namespace Comes

variable {α β : Type} {F : State → Prop} {o : Except ConfigurationError Unit}

/-- The fate of one run after another is that of the first if it fails, and else of the second. -/
theorem bind {x : Run α} {f : α → Run β} {o' : Except ConfigurationError Unit}
    (hx : Comes F x o) (hf : ∀ a, Comes F (f a) o') : Comes F (x >>= f) (o >>= fun _ => o') := by
  intro s hs
  obtain ⟨r, t, hrun, ht, rfl⟩ := hx s hs
  rw [Run.bind_eq, hrun]
  cases r with
  | error e => exact ⟨.error e, t, rfl, ht, rfl⟩
  | ok a => exact hf a t ht

theorem succeed (a : α) : Comes F (Run.succeed a) (.ok ()) := fun s hs => ⟨.ok a, s, rfl, hs, rfl⟩

/-- Changed errors are the fate of a run with changed errors. -/
theorem mapError {x : Run α} (f : ConfigurationError → ConfigurationError) (hx : Comes F x o) :
    Comes F (x.mapError f) (o.mapError f) := by
  intro s hs
  obtain ⟨r, t, hrun, ht, rfl⟩ := hx s hs
  refine ⟨r.mapError f, t, ?_, ht, ?_⟩
  · rw [Run.mapError, hrun]
    rfl
  · cases r <;> rfl

/-- What is done for each element comes to the first failure. -/
theorem each {f : α → Run Unit} {as : List α} {o : α → Except ConfigurationError Unit}
    (h : ∀ a ∈ as, Comes F (f a) (o a)) : Comes F (Run.each f as) (forM as o) := by
  induction as with
  | nil => exact succeed ()
  | cons a as ih =>
    rw [List.forM_cons]
    exact (h a List.mem_cons_self).bind fun _ =>
      ih fun a' ha' => h a' (List.mem_cons_of_mem a ha')

/-- Collecting comes to the first error, if there is one. -/
theorem collect {f : α → Run β} {as : List α} {o : α → Except ConfigurationError Unit}
    (h : ∀ a ∈ as, Comes F (f a) (o a)) : Comes F (Run.collect f as) (forM as o) := by
  induction as with
  | nil => exact succeed []
  | cons a as ih =>
    rw [List.forM_cons]
    refine (h a List.mem_cons_self).bind fun b => ?_
    have hrest := (ih fun a' ha' => h a' (List.mem_cons_of_mem a ha')).bind fun bs =>
      succeed (F := F) (b :: bs)
    have hlast : (forM as o >>= fun _ => .ok ()) = forM as o := by
      cases forM as o <;> rfl
    rwa [hlast] at hrest

end Comes

/-- A list of results is a success exactly when all of them are. -/
theorem forM_eq_ok_iff {α : Type} {o : α → Except ConfigurationError Unit} {as : List α} :
    forM as o = .ok () ↔ ∀ a ∈ as, o a = .ok () := by
  induction as with
  | nil => simp [pure, Except.pure]
  | cons a as ih =>
    rw [List.forM_cons, List.forall_mem_cons, ← ih]
    cases o a <;> simp [bind, Except.bind]

/-- Otherwise it is the first failure. -/
theorem exists_of_forM_eq_error {α : Type} {o : α → Except ConfigurationError Unit} {as : List α}
    {e : ConfigurationError} (h : forM as o = .error e) :
    ∃ pre a post, as = pre ++ a :: post ∧ (∀ a' ∈ pre, o a' = .ok ()) ∧ o a = .error e := by
  induction as with
  | nil => cases h
  | cons a as ih =>
    rw [List.forM_cons] at h
    cases ha : o a with
    | error e' =>
      rw [ha] at h
      cases h
      exact ⟨[], a, as, rfl, List.forall_mem_nil _, ha⟩
    | ok u =>
      rw [ha] at h
      obtain ⟨pre, a', post, rfl, hpre, hfails⟩ := ih h
      exact ⟨a :: pre, a', post, rfl, List.forall_mem_cons.mpr ⟨ha, hpre⟩, hfails⟩

namespace Container

variable {c c' : Container} {s s₀ : State}

/-! ### Containers with the same bindings -/

/-- Steps of builds do the same in siblings. -/
theorem Siblings.run (h : Siblings c c') (step : BuildStep) : step.run c = step.run c' := by
  rw [← runBy_resolve, ← runBy_resolve]
  exact (runBy_follows (h.inStep h.resolve) step).eq

/-- Siblings resolve dependencies to the same. -/
theorem Siblings.resolve_eq (h : Siblings c c') : c.resolve = c'.resolve :=
  funext fun d => (h.resolve d).eq

/-- Twins do steps alike. -/
theorem Twins.performs_iff (h : Twins c c') {steps : List BuildStep} {t : State} :
    c.Performs steps s t ↔ c'.Performs steps s t := by
  have hperform : c.perform = c'.perform := by
    funext step
    unfold perform
    rw [h.siblings.run step]
  rw [Container.performs_iff, Container.performs_iff, hperform]

/-! ### Poised containers -/

/-- The steps of a build before singletons are created. -/
def earlySteps (c : Container) : List BuildStep :=
  c.prepareSteps ++ (c.staticTargets.map .inject ++ c.announcement)

/-- Twins do the same steps before singletons are created. -/
theorem Twins.earlySteps_eq (h : Twins c c') (htargets : c.staticTargets = c'.staticTargets) :
    c.earlySteps = c'.earlySteps := by
  unfold earlySteps prepareSteps announcement
  rw [h.registry, htargets]

/-- The last steps of a build. -/
def finish (c : Container) : Run Unit := do
  c.createSingletons
  .log (.built (← .read fun s => c.stats s.memory))

/-- A build does the early steps and then the last ones. -/
theorem start_eq_finish (h : c.Performs c.earlySteps s s₀) : c.start s = c.finish s₀ := by
  have hcreate : c.createSingletons =
      Run.each c.perform ((c.registry.toList.filter c.isAhead).map .create) := by
    rw [Run.each_map]
    rfl
  have hearly : Run.each c.perform c.earlySteps s = some (.ok (), s₀) := performs_iff.mp h
  have hsteps : c.buildSteps =
      c.earlySteps ++ (c.registry.toList.filter c.isAhead).map .create := rfl
  rw [start_eq, hsteps, Run.each_append, Run.andThen_assoc, Run.andThen, hearly, ← hcreate]
  rfl

/-- A build that succeeds has done the early steps. -/
theorem exists_performs_of_start {t : State} (h : c.start s = some (.ok (), t)) :
    ∃ s₀, c.Performs c.earlySteps s s₀ := by
  obtain ⟨u, hperforms, -⟩ := start_eq_ok_iff.mp h
  obtain ⟨s₀, hearly, -⟩ := performs_append.mp hperforms
  exact ⟨s₀, hearly⟩

/-- So has one of a twin that succeeds. -/
theorem Twins.exists_performs_of_start (h : Twins c c')
    (htargets : c.staticTargets = c'.staticTargets) {t : State}
    (hstart : c'.start s = some (.ok (), t)) : ∃ s₀, c.Performs c.earlySteps s s₀ := by
  obtain ⟨s₀, hearly⟩ := Container.exists_performs_of_start hstart
  rw [h.earlySteps_eq htargets]
  exact ⟨s₀, h.performs_iff.mpr hearly⟩

/-- A container that creates its singletons ahead of time creates all of them. -/
theorem isAhead_of_eager (heager : c.config.eager = true) (b : Binding) :
    c.isAhead b = b.scope.isSingleton := by
  rw [isAhead, heager, Bool.true_or, Bool.and_true]

/-- The singletons to be created are those of the container, if it is eager. -/
theorem map_key_isAhead (heager : c.config.eager = true) :
    (c.registry.toList.filter c.isAhead).map Binding.key = c.singletonKeys := by
  rw [singletonKeys]
  congr 2
  exact funext (isAhead_of_eager heager)

/-- Whatever another container creates ahead of time, it does, too. -/
theorem isAhead_of_isAhead (heager : c.config.eager = true) {b : Binding}
    (h : c'.isAhead b = true) : c.isAhead b = true := by
  rw [isAhead_of_eager heager]
  exact (Bool.and_eq_true_iff.mp h).1

/-- A steady container without circles in which nothing is being created and all deferred bindings
are ready. -/
structure Poised (c : Container) (s₀ : State) : Prop where
  /-- The container is steady. -/
  steady : c.Steady
  /-- There are no circles. -/
  acyclic : ∀ d, c.Acyclic d
  /-- Nothing is being created. -/
  resting : c.resting.Inv s₀
  /-- All deferred bindings are ready. -/
  ready : c.AllReady s₀.memory.readiness

/-- A state that a poised container may come to. -/
structure Along (c : Container) (s₀ s : State) : Prop where
  /-- The state has grown. -/
  grown : c.Grown s₀ s
  /-- Nothing is being created. -/
  resting : c.resting.Inv s

/-- Runs in concord that come to an end come to the same. -/
theorem Along.ends_of_concord {α β : Type} {Q : α → β → Prop} {x : Run α} {y : Run β}
    (hx : c.resting.Allows x) (hy : c.resting.Allows y) (hconcord : c.Accord s₀ Q x y) {t : State}
    (hs : c.Along s₀ s) (ht : c.Along s₀ t) :
    ∃ r s' r' t', x s = some (r, s') ∧ y t = some (r', t') ∧ c.Along s₀ s' ∧ c.Along s₀ t' ∧
      SameEnd (c.SameError s₀) Q r r' := by
  obtain ⟨r, s', hrun⟩ := hx.ends trivial hs.resting trivial
  obtain ⟨r', t', hrun'⟩ := hy.ends trivial ht.resting trivial
  obtain ⟨hs', ht', hend⟩ := hconcord s t hs.grown ht.grown r s' r' t' hrun hrun'
  exact ⟨r, s', r', t', hrun, hrun', ⟨hs', (hx.moves hs.resting trivial hrun).1⟩,
    ⟨ht', (hy.moves ht.resting trivial hrun').1⟩, hend⟩

/-- Whether resolving a dependency succeeds, or else the error. -/
def fate (c : Container) (s₀ : State) (d : Dependency) : Except ConfigurationError Unit :=
  (c.resolve d).fate s₀

/-- What creating a singleton ahead of time comes to, as a step of a build. -/
def aheadFate (c : Container) (s₀ : State) (b : Binding) : Except ConfigurationError Unit :=
  (c.fate s₀ (.ofKey b.key)).mapError (.eagerSingleton b.key.text)

/-- Creating a singleton succeeds when resolving it does. -/
theorem aheadFate_eq_ok_iff {b : Binding} :
    c.aheadFate s₀ b = .ok () ↔ c.fate s₀ (.ofKey b.key) = .ok () := by
  unfold aheadFate
  cases c.fate s₀ (.ofKey b.key) with
  | error e => exact ⟨nofun, nofun⟩
  | ok u => exact ⟨fun _ => rfl, fun _ => rfl⟩

/-- If creating a singleton fails, the error names it and wraps that of its resolution. -/
theorem eq_of_aheadFate_eq_error {b : Binding} {text : String} {e : ConfigurationError}
    (h : c.aheadFate s₀ b = .error (.eagerSingleton text e)) :
    c.fate s₀ (.ofKey b.key) = .error e ∧ b.key.text = text := by
  unfold aheadFate at h
  cases hb : c.fate s₀ (.ofKey b.key) with
  | error e' =>
    rw [hb] at h
    cases h
    exact ⟨rfl, rfl⟩
  | ok u =>
    rw [hb] at h
    cases h

/-- The early steps of a build leave a container poised. -/
theorem poised_of_performs (hsteady : c.Steady) (hacyclic : ∀ d, c.Acyclic d)
    (hs : c.resting.Inv s) (h : c.Performs c.earlySteps s s₀) : c.Poised s₀ where
  steady := hsteady
  acyclic := hacyclic
  resting := by
    have hsteps : ∀ step ∈ c.earlySteps, c.resting.Allows (c.perform step) := by
      intro step hstep
      have hdoes : c.Does step := does_of_mem (List.mem_append_left _ hstep)
      have hrun := terminates_runBy hacyclic (fun d => terminates_resolve (hacyclic d)) hdoes
      rw [runBy_resolve] at hrun
      exact Contract.Meets.mapError (E := fun _ => True) hrun fun _ _ => trivial
    exact ((Contract.Meets.each hsteps).moves hs trivial (performs_iff.mp h)).1
  ready := by
    obtain ⟨t, hprepare, hstatics⟩ := performs_append.mp h
    have hdoes : ∀ step ∈ c.earlySteps, c.Does step := fun step hstep =>
      does_of_mem (List.mem_append_left _ hstep)
    have ht := c.governsAll_preparation.performs hprepare
      (fun _ => does_of_mem_prepareSteps) hs.1
    obtain ⟨-, es, -, hprepares⟩ := c.governsAll_preparation.performs hstatics
      (fun step hstep => hdoes step (List.mem_append_right _ hstep)) ht.1
    intro key hkey
    obtain ⟨i, hi⟩ := allReady_of_performs hprepare hs.1 key hkey
    exact ⟨i, hprepares.ready hi⟩

namespace Poised

variable (h : c.Poised s₀)
include h

/-- A state has come along from itself. -/
theorem along : c.Along s₀ s₀ := ⟨.refl h.resting.1, h.resting⟩

/-- If all deferred bindings are ready, it does not matter what they inject. -/
theorem anchored : c.Anchored s₀ := fun b _ hb hd =>
  .inl (h.ready b.key ⟨b, hb, by rw [Source.isDeferred, hd]; rfl⟩)

/-- Runs that come to an end and are in concord meet the same fate. -/
theorem comes_of_concord {α β : Type} {x : Run α} {y : Run β} (hx : c.resting.Allows x)
    (hy : c.resting.Allows y) (hconcord : c.Accord s₀ (fun _ _ => True) x y) :
    Comes (c.Along s₀) x (y.fate s₀) := by
  intro s hs
  obtain ⟨r, t, r₀, t₀, hrun, hrun₀, ht, -, hend⟩ := Along.ends_of_concord hx hy hconcord hs h.along
  refine ⟨r, t, hrun, ht, ?_⟩
  rw [Run.fate_of_ends hrun₀]
  cases r with
  | error e =>
    obtain ⟨e₀, rfl, he⟩ := hend.exists_error
    rw [he h.ready]
    rfl
  | ok a =>
    obtain ⟨i, rfl⟩ := hend.isOk_iff.mp ⟨a, rfl⟩
    rfl

/-- A resolution meets its fate. -/
theorem comes_resolve (d : Dependency) : Comes (c.Along s₀) (c.resolve d) (c.fate s₀ d) := by
  have hends := (terminates_resolve (h.acyclic d)).rests.allows
  exact h.comes_of_concord hends hends
    ((even_resolve h.steady h.resting h.anchored (h.acyclic d)).mono fun _ _ _ => trivial)

/-- Creating a singleton ahead of time comes to what resolving it comes to. -/
theorem concord_create {b : Binding} (hb : c.registry.lookup b.key = some b) :
    c.Accord s₀ (fun _ _ => True) ((BuildStep.create b).run c) (c.resolve (.ofKey b.key)) := by
  obtain ⟨n, hresolve⟩ := c.exists_resolve_eq_resolveStep
  have hbinding : c.Accord s₀ (c.BindingAkin b) (c.resolveBinding (c.resolveWithin n) b)
      (c.resolveBinding c.resolve b) := by
    have heven := fun e (_ : c.SourceNeeds b.source e) =>
      even_resolve h.steady h.resting h.anchored (h.acyclic e)
    refine concord_resolveBinding h.steady h.resting h.anchored hb (fun e _ => h.acyclic e) heven
      (fun e _ => ?_) heven
    rw [resolve_eq_resolveWithin]
    exact even_resolveWithin h.steady h.resting h.anchored (h.acyclic e).shallow n _
  have hdone : c.Accord s₀ (fun _ _ => True) (c.resolveBinding (c.resolveWithin n) b)
      (c.resolveBinding c.resolve b >>= fun _ => pure ()) := by
    rw [← bind_pure (c.resolveBinding (c.resolveWithin n) b)]
    exact hbinding.bind fun _ _ _ => Concord.succeed trivial
  have hstep : c.Accord s₀ (fun _ _ => True) (c.resolve (.ofKey b.key))
      ((BuildStep.create b).run c) := by
    have hlookup : c.registry.lookup (Dependency.ofKey b.key).key = some b := hb
    rw [hresolve]
    simp only [resolveStep, answer, hlookup]
    refine (concord_emit _ _).bind fun _ _ _ => ?_
    exact hdone.noting_left fun _ e hs => hs.emit e
  exact hstep.symm (fun _ _ he hall => (he hall).symm) fun _ _ _ => trivial

/-- Creating a singleton ahead of time comes to its fate. -/
theorem comes_createAhead {b : Binding} (hb : c.registry.lookup b.key = some b)
    (hahead : c.isAhead b = true) :
    Comes (c.Along s₀) (c.createAhead b) (c.aheadFate s₀ b) := by
  have hdoes : c.Does (.create b) := ⟨hb, hahead⟩
  have hends := terminates_runBy h.acyclic (fun d => terminates_resolve (h.acyclic d)) hdoes
  rw [runBy_resolve] at hends
  have hresolve := (terminates_resolve (h.acyclic (.ofKey b.key))).rests.allows
  exact (h.comes_of_concord hends hresolve (h.concord_create hb)).mapError _

/-- What a build of a twin comes to that has done the early steps, if it creates no other
singletons: the first failure of those that it creates. -/
theorem start_twin (hearly : c.Performs c.earlySteps s s₀) (htwins : Twins c c')
    (htargets : c.staticTargets = c'.staticTargets)
    (hahead : ∀ b, c'.isAhead b = true → c.isAhead b = true) :
    ∃ r u, c'.start s = some (r, u) ∧ c.Along s₀ u ∧
      r = forM (c'.registry.toList.filter c'.isAhead) (c.aheadFate s₀) := by
  have hearly' : c'.Performs c'.earlySteps s s₀ := by
    rw [← htwins.earlySteps_eq htargets]
    exact htwins.performs_iff.mp hearly
  have hcreate : Comes (c.Along s₀) c'.createSingletons
      (forM (c'.registry.toList.filter c'.isAhead) (c.aheadFate s₀)) := by
    refine Comes.each fun b hb => ?_
    obtain ⟨hb, hb'⟩ := List.mem_filter.mp hb
    rw [← htwins.registry] at hb
    have hsame : c'.createAhead b = c.createAhead b := by
      have hrun : c'.perform (.create b) = c.perform (.create b) := by
        unfold perform
        rw [htwins.siblings.run]
      exact hrun
    rw [hsame]
    exact h.comes_createAhead (Registry.lookup_of_mem hb) (hahead b hb')
  obtain ⟨r, t, hrun, ht, hfate⟩ := hcreate s₀ h.along
  rw [start_eq_finish hearly', finish, Run.bind_eq, hrun]
  cases r with
  | error e => exact ⟨.error e, t, rfl, ht, hfate⟩
  | ok a => exact ⟨.ok (), _, rfl, ⟨ht.grown.emit _, ht.resting⟩, hfate⟩

/-- Resolving some keys one after another succeeds exactly when each of them is fated to. -/
theorem collect_resolve_iff (hs : c.Along s₀ s) (keys : List Key) :
    (∃ is t, Run.collect (fun key => c.resolve (.ofKey key)) keys s = some (.ok is, t)) ↔
      ∀ key ∈ keys, c.fate s₀ (.ofKey key) = .ok () := by
  obtain ⟨r, t, hrun, -, hfate⟩ :=
    Comes.collect (fun key (_ : key ∈ keys) => h.comes_resolve (.ofKey key)) s hs
  rw [← forM_eq_ok_iff, ← hfate, hrun]
  cases r with
  | error e =>
    refine ⟨?_, nofun⟩
    rintro ⟨_, _, ⟨⟩⟩
  | ok is => exact ⟨fun _ => rfl, fun _ => ⟨is, t, rfl⟩⟩

/-- A resolution that is fated to succeed succeeds. -/
theorem exists_resolve_of_fate (hs : c.Along s₀ s) {d : Dependency} (hd : c.fate s₀ d = .ok ()) :
    ∃ i t, c.resolve d s = some (.ok i, t) := by
  obtain ⟨r, t, hrun, -, hfate⟩ := h.comes_resolve d s hs
  rw [hd] at hfate
  cases r with
  | error e => cases hfate
  | ok i => exact ⟨i, t, hrun⟩

/-- A resolution that is fated to fail fails with just the error that is due. -/
theorem exists_resolve_of_fate_error (hs : c.Along s₀ s) {d : Dependency} {e : ConfigurationError}
    (hd : c.fate s₀ d = .error e) : ∃ t, c.resolve d s = some (.error e, t) := by
  obtain ⟨r, t, hrun, -, hfate⟩ := h.comes_resolve d s hs
  rw [hd] at hfate
  cases r with
  | error e' =>
    cases hfate
    exact ⟨t, hrun⟩
  | ok i => cases hfate

/-- A build that creates its singletons ahead of time succeeds exactly when each of them is fated to
be resolved. -/
theorem start_ok_iff (hearly : c.Performs c.earlySteps s s₀) (heager : c.config.eager = true) :
    (∃ t, c.start s = some (.ok (), t)) ↔
      ∀ key ∈ c.singletonKeys, c.fate s₀ (.ofKey key) = .ok () := by
  obtain ⟨r, u, hstart, -, hr⟩ := h.start_twin hearly (.refl c) rfl fun _ hb => hb
  have hfates : r = .ok () ↔ ∀ key ∈ c.singletonKeys, c.fate s₀ (.ofKey key) = .ok () := by
    rw [hr, forM_eq_ok_iff, ← map_key_isAhead heager, List.forall_mem_map]
    simp only [aheadFate_eq_ok_iff]
  rw [← hfates, hstart]
  refine ⟨?_, ?_⟩
  · rintro ⟨t, ⟨⟩⟩
    rfl
  · rintro rfl
    exact ⟨u, rfl⟩

/-- If it fails at a singleton, then this is the first one that is fated not to be resolved. -/
theorem exists_of_start_error (hearly : c.Performs c.earlySteps s s₀)
    (heager : c.config.eager = true) {text : String} {e : ConfigurationError} {t : State}
    (hstart : c.start s = some (.error (.eagerSingleton text e), t)) :
    ∃ pre key post, c.singletonKeys = pre ++ key :: post ∧
      (∀ key' ∈ pre, c.fate s₀ (.ofKey key') = .ok ()) ∧ key.text = text ∧
        c.fate s₀ (.ofKey key) = .error e := by
  obtain ⟨r, u, hstart', -, hr⟩ := h.start_twin hearly (.refl c) rfl fun _ hb => hb
  rw [hstart] at hstart'
  cases hstart'
  obtain ⟨pre, b, post, hsplit, hpre, hb⟩ := exists_of_forM_eq_error hr.symm
  obtain ⟨hfate, htext⟩ := eq_of_aheadFate_eq_error hb
  refine ⟨pre.map Binding.key, b.key, post.map Binding.key, ?_, ?_, htext, hfate⟩
  · rw [← map_key_isAhead heager, hsplit, List.map_append, List.map_cons]
  · rw [List.forall_mem_map]
    exact fun b' hb' => aheadFate_eq_ok_iff.mp (hpre b' hb')

/-- What builds of twins come to is along the way, whether they create singletons or not. -/
theorem along_of_start (hearly : c.Performs c.earlySteps s s₀) (heager : c.config.eager = true)
    (htwins : Twins c c') (htargets : c.staticTargets = c'.staticTargets)
    {r : Except ConfigurationError Unit} {t : State} (hstart : c'.start s = some (r, t)) :
    c.Along s₀ t := by
  obtain ⟨r', u, hstart', hu, -⟩ :=
    h.start_twin hearly htwins htargets fun _ => isAhead_of_isAhead heager
  rw [hstart] at hstart'
  cases hstart'
  exact hu

/-- If all singletons are fated to be resolved, a build of a twin succeeds, too. -/
theorem exists_start_twin (hearly : c.Performs c.earlySteps s s₀) (heager : c.config.eager = true)
    (htwins : Twins c c') (htargets : c.staticTargets = c'.staticTargets)
    (hfates : ∀ key ∈ c.singletonKeys, c.fate s₀ (.ofKey key) = .ok ()) :
    ∃ t, c'.start s = some (.ok (), t) := by
  obtain ⟨r, t, hstart, -, rfl⟩ :=
    h.start_twin hearly htwins htargets fun _ => isAhead_of_isAhead heager
  refine ⟨t, hstart.trans ?_⟩
  have hsucceeds : forM (c'.registry.toList.filter c'.isAhead) (c.aheadFate s₀) = .ok () := by
    rw [forM_eq_ok_iff]
    intro b hb
    obtain ⟨hb, hahead⟩ := List.mem_filter.mp hb
    rw [← htwins.registry] at hb
    rw [← map_key_isAhead heager, List.forall_mem_map] at hfates
    exact aheadFate_eq_ok_iff.mpr
      (hfates b (List.mem_filter.mpr ⟨hb, isAhead_of_isAhead heager hahead⟩))
  rw [hsucceeds]

end Poised

/-! ### Ahead of time and later -/

section

variable (heager : c.config.eager = true) (htwins : Twins c c')
  (htargets : c.staticTargets = c'.staticTargets) (hsteady : c.Steady)
  (hacyclic : ∀ d, c.Acyclic d) (hs : c.resting.Inv s)
include heager htwins htargets hsteady hacyclic hs

/-- A container that creates its singletons ahead of time can be built exactly when a twin can be
built that resolves all of them afterwards. -/
theorem start_ok_iff_of_twins :
    (∃ t, c.start s = some (.ok (), t)) ↔
      ∃ t, c'.start s = some (.ok (), t) ∧ ∀ order : List Key, order.Perm c'.singletonKeys →
        ∃ is u, Run.collect (fun key => c'.resolve (.ofKey key)) order t = some (.ok is, u) := by
  have hkeys : c'.singletonKeys = c.singletonKeys := by
    rw [singletonKeys, singletonKeys, htwins.registry]
  rw [← htwins.siblings.resolve_eq, hkeys]
  constructor
  · rintro ⟨t, hstart⟩
    obtain ⟨s₀, hearly⟩ := exists_performs_of_start hstart
    have hpoised := poised_of_performs hsteady hacyclic hs hearly
    have hfates := (hpoised.start_ok_iff hearly heager).mp ⟨t, hstart⟩
    obtain ⟨t', hstart'⟩ := hpoised.exists_start_twin hearly heager htwins htargets hfates
    have ht' := hpoised.along_of_start hearly heager htwins htargets hstart'
    refine ⟨t', hstart', fun order horder => ?_⟩
    exact (hpoised.collect_resolve_iff ht' order).mpr fun key hkey =>
      hfates key (horder.mem_iff.mp hkey)
  · rintro ⟨t', hstart', horders⟩
    obtain ⟨s₀, hearly⟩ := htwins.exists_performs_of_start htargets hstart'
    have hpoised := poised_of_performs hsteady hacyclic hs hearly
    have ht' := hpoised.along_of_start hearly heager htwins htargets hstart'
    exact (hpoised.start_ok_iff hearly heager).mpr
      ((hpoised.collect_resolve_iff ht' _).mp (horders _ (.refl _)))

/-- If a container cannot be built because a singleton cannot be created ahead of time, and a twin
can, then resolving this singleton afterwards fails with the error that the first build wraps. -/
theorem exists_resolve_error_of_start_error {text : String} {e : ConfigurationError} {t t' : State}
    (hstart : c.start s = some (.error (.eagerSingleton text e), t))
    (hstart' : c'.start s = some (.ok (), t')) :
    ∃ pre key post, c'.singletonKeys = pre ++ key :: post ∧
      (∀ key' ∈ pre, ∃ i u, c'.resolve (.ofKey key') t' = some (.ok i, u)) ∧
      key.text = text ∧ ∃ u, c'.resolve (.ofKey key) t' = some (.error e, u) := by
  have hkeys : c'.singletonKeys = c.singletonKeys := by
    rw [singletonKeys, singletonKeys, htwins.registry]
  rw [← htwins.siblings.resolve_eq, hkeys]
  obtain ⟨s₀, hearly⟩ := htwins.exists_performs_of_start htargets hstart'
  have hpoised := poised_of_performs hsteady hacyclic hs hearly
  have ht' := hpoised.along_of_start hearly heager htwins htargets hstart'
  obtain ⟨pre, key, post, hsplit, hpre, htext, hkey⟩ :=
    hpoised.exists_of_start_error hearly heager hstart
  refine ⟨pre, key, post, hsplit, fun key' hkey' => ?_, htext, ?_⟩
  · exact hpoised.exists_resolve_of_fate ht' (hpre key' hkey')
  · exact hpoised.exists_resolve_of_fate_error ht' hkey

end

end Container

/-- Resolving some keys one after another in a running container succeeds. -/
def RunningContainer.ResolvesAll (r : RunningContainer) (w : World) (keys : List Key) : Prop :=
  ∃ is t, Run.collect (fun key => r.container.resolve (.ofKey key)) keys ⟨r.memory, w⟩ =
    some (.ok is, t)

namespace Builder

/-- **Eager and lazy construction agree.** Let the same definitions and static targets be built once
with all singletons created ahead of time, and once with whatever else is configured about them, in
the same world. If the container is steady and has no circles, then the first build succeeds exactly
when the second does and, in the container that results, resolving all singletons succeeds, in
whatever order. And if the first build fails at a singleton and the second succeeds, then resolving
this singleton in the container that results fails with exactly the error that the first build
wraps. It is the first singleton, in the order of the registry, that cannot be resolved. -/
theorem eager_agrees_with_lazy (draft : Draft) (classes : ClassTable) (w : World)
    (ahead later : ContainerConfig) (hahead : ahead.eager = true)
    (hjit : ahead.jitBindings = later.jitBindings)
    (hsteady : (draft.container ahead classes).Steady)
    (hacyclic : ∀ d, (draft.container ahead classes).Acyclic d) :
    ((∃ r w', (Builder.mk ahead draft).build classes w = some (.ok r, w')) ↔
      ∃ r w', (Builder.mk later draft).build classes w = some (.ok r, w') ∧
        ∀ order : List Key, order.Perm r.container.singletonKeys → r.ResolvesAll w' order) ∧
    ∀ r w' text e w'', (Builder.mk later draft).build classes w = some (.ok r, w') →
      (Builder.mk ahead draft).build classes w = some (.error (.eagerSingleton text e), w'') →
        ∃ pre key post, r.container.singletonKeys = pre ++ key :: post ∧
          (∀ key' ∈ pre, ∃ i t, r.container.resolve (.ofKey key') ⟨r.memory, w'⟩ =
            some (.ok i, t)) ∧
          key.text = text ∧
          ∃ t, r.container.resolve (.ofKey key) ⟨r.memory, w'⟩ = some (.error e, t) := by
  have htwins : Container.Twins (draft.container ahead classes) (draft.container later classes) :=
    ⟨rfl, rfl, hjit⟩
  have hs := Container.resting_initial (draft.container ahead classes)
    ((Registry.announced draft.definitions).2.foldl World.log w)
  refine ⟨?_, fun r w' text e w'' hlater hahead' => ?_⟩
  · have hiff := Container.start_ok_iff_of_twins hahead htwins rfl hsteady hacyclic hs
    constructor
    · rintro ⟨r, w', hbuild⟩
      obtain ⟨t, hstart, horders⟩ := hiff.mp ⟨_, (build_eq_ok_iff.mp hbuild).2⟩
      exact ⟨⟨_, t.memory⟩, t.world, build_eq_ok_iff.mpr ⟨rfl, hstart⟩, horders⟩
    · rintro ⟨⟨c, m⟩, w', hbuild, horders⟩
      obtain ⟨rfl, hstart⟩ := build_eq_ok_iff.mp hbuild
      obtain ⟨t, hstart'⟩ := hiff.mpr ⟨_, hstart, horders⟩
      exact ⟨⟨_, t.memory⟩, t.world, build_eq_ok_iff.mpr ⟨rfl, hstart'⟩⟩
  · obtain ⟨c, m⟩ := r
    obtain ⟨rfl, hstart'⟩ := build_eq_ok_iff.mp hlater
    obtain ⟨t, hstart, -⟩ := build_eq_error_iff.mp hahead'
    exact Container.exists_resolve_error_of_start_error hahead htwins rfl hsteady hacyclic hs
      hstart hstart'

/-- A brewery, where the kettle and the brewer are singletons, the brewer needs the kettle and hops,
and hops are not delivered. -/
def brewery : Draft :=
  { distinct := true
    definitions :=
      [⟨.ofTy (.component "Kettle"), .constructor "Kettle", .singleton, false⟩,
        ⟨.ofTy (.component "Brewer"), .constructor "Brewer", .singleton, false⟩,
        ⟨.ofTy (.interface "Hops"), .provider (.fresh (.interface "Hops") "hops" fun _ =>
          some (.providerFailed "Key[dyn Hops]" "drought")), .unscoped, false⟩]
    staticTargets := [] }

/-- The classes of the brewery. -/
def breweryClasses : ClassTable := .ofList
  [("Kettle", ⟨[.constructor "Kettle" (.reading [] none)], [], .fresh fun _ => none⟩),
    ("Brewer", ⟨[(Member.constructor "Brewer"
        (.reading [.component "Kettle", .interface "Hops"] none)).requiring
          [.injectable "Kettle", .ofTy (.interface "Hops")]], [], .fresh fun _ => none⟩)]

/-- The brewer ranks above what is needed. -/
def breweryRank (key : Key) : Nat := if key = .ofTy (.component "Brewer") then 1 else 0

/-- Nothing in the brewery fails now and then. -/
theorem steady_brewery : (brewery.container .production breweryClasses).Steady := by
  refine Container.steady_of_plain (ClassTable.decl_ofList (P := fun _ decl => decl.IsPlain)
    (fun _ => ClassDecl.isPlain_none) ?_) fun b ty label outcome n n' e hb hsource he => ?_
  · simp only [List.forall_mem_cons, List.not_mem_nil, false_imp_iff, implies_true, and_true]
    refine ⟨ClassDecl.isPlain_of_members ?_, ClassDecl.isPlain_of_members ?_⟩
    all_goals
      simp only [List.forall_mem_cons, List.not_mem_nil, false_imp_iff, implies_true, and_true]
      exact ⟨_, rfl⟩
  · have hmem := Draft.mem_of_lookup hb
    rcases List.mem_cons.mp hmem with rfl | hmem
    · cases hsource
    · rcases List.mem_cons.mp hmem with rfl | hmem
      · cases hsource
      · obtain rfl := List.mem_singleton.mp hmem
        cases hsource
        exact he

/-- Ahead of time, the kettle is made, and the brewer is missed. The brewery can be opened without,
but who asks for the brewer then is told the same. -/
theorem brewery_misses_brewer : ∃ r w' e w'' key t,
    (Builder.mk .standard brewery).build breweryClasses .new = some (.ok r, w') ∧
      (Builder.mk .production brewery).build breweryClasses .new =
        some (.error (.eagerSingleton "Key[Brewer]" e), w'') ∧
      e = .providerFailed "Key[dyn Hops]" "drought" ∧
      key.text = "Key[Brewer]" ∧
      r.container.resolve (.ofKey key) ⟨r.memory, w'⟩ = some (.error e, t) ∧
      ¬ ∀ order : List Key, order.Perm r.container.singletonKeys → r.ResolvesAll w' order := by
  have hacyclic := Container.acyclic_of_ranked (c := brewery.container .production breweryClasses)
    breweryRank (by decide +kernel)
  have hlater : ((Builder.mk .standard brewery).build breweryClasses .new).map
      (fun r => r.1.map fun _ => ()) = some (.ok ()) := by
    decide +kernel
  have hahead : ((Builder.mk .production brewery).build breweryClasses .new).map
      (fun r => r.1.map fun _ => ()) = some (.error (.eagerSingleton "Key[Brewer]"
        (.providerFailed "Key[dyn Hops]" "drought"))) := by
    decide +kernel
  obtain ⟨⟨r | r, w'⟩, hbuild, hr⟩ := Option.map_eq_some_iff.mp hlater
  · cases hr
  obtain ⟨⟨e | r', w''⟩, hbuild', hr'⟩ := Option.map_eq_some_iff.mp hahead
  · cases hr'
    obtain ⟨hiff, hfails⟩ := eager_agrees_with_lazy brewery breweryClasses .new .production
      .standard rfl rfl steady_brewery hacyclic
    obtain ⟨-, key, -, -, -, htext, t, hresolve⟩ := hfails r w' _ _ w'' hbuild hbuild'
    refine ⟨r, w', _, w'', key, t, hbuild, hbuild', rfl, htext, hresolve, fun horders => ?_⟩
    obtain ⟨r', w₁, hbuilt⟩ := hiff.mpr ⟨r, w', hbuild, horders⟩
    rw [hbuild'] at hbuilt
    cases hbuilt
  · cases hr'

end Builder

end Wiring
