import Wiring.Proofs.Preparation
import Wiring.Proofs.Termination

/-!
# Deferred Bindings in Builds and Afterwards

In the first stage of a build each deferred binding that is in force is used, in the order of the
registry. The injection of its object may use others whose turn has not come, and may pass over
their failure; then the build fails at their own turn. So when a build succeeds, all of them are
ready before the second stage begins, and they stay so.

## Conventions

What is done after a build may be interleaved with anything that happens to the world, and may
fail. `Container.Later` makes no assumption about either.

## Main statements

* `UsedOnce`: what entries tell of deferred bindings whatever becomes of a build.
* `Container.ready_of_performs`: after its step, a deferred binding is ready for good.
* `Container.Later.ready`: what is ready stays ready.
* `Builder.deferred_used_once`: deferred bindings in builds and afterwards.
-/

namespace Wiring

/-- What entries tell of deferred bindings: objects are injected at most once, and not used after
that failed. -/
structure UsedOnce (es : List Event) : Prop where
  /-- No injection begins twice. -/
  once : ∀ key, es.countP (Event.prepares key) ≤ 1
  /-- After a failure, the injection does not begin again, and each use says that the binding is
  unavailable. -/
  failed : ∀ pre key error post, es = pre ++ .forced key (.error error) :: post → ∀ e ∈ post,
    e ≠ .preparing key ∧ ∀ r, e = .forced key r → r = .error (Container.unavailable key)

namespace Container

variable {c : Container} {s t u : State} {es : List Event} {key : Key}

theorem usedOnce_of_prepares (h : c.Prepares s t es) : UsedOnce es where
  once key := by
    have hle := Readiness.countP_prepares_le (h.replay key)
    split at hle
    · exact hle
    · exact Nat.le_trans hle (Nat.zero_le 1)
  failed pre key error post hes := by
    have hreplay := h.replay key
    rw [hes] at hreplay
    exact (Readiness.eq_failed_of_replay (Readiness.replay_after hreplay)).2

/-- What is ready stays ready. -/
theorem Prepares.ready {i : Instance} (h : c.Prepares s t es)
    (hready : s.memory.readiness key = .ready i) : t.memory.readiness key = .ready i := by
  have hreplay := h.replay key
  rw [hready] at hreplay
  exact (Readiness.eq_ready_of_replay hreplay).1

/-! ### The first stage -/

/-- Using a deferred binding with success makes it ready. -/
theorem ready_of_force {b : Binding} {d : Deferral} {i : Instance}
    (hb : c.registry.lookup b.key = some b) (hd : b.source.deferral = some d) (hs : s.Faithful c)
    (hrun : c.force c.resolve b.key d s = some (.ok i, t)) :
    t.memory.readiness b.key = .ready i :=
  (preparation_force hb hd fun e _ => c.governsAll_preparation.resolve e).ok hs trivial hrun

/-- After its step, a deferred binding is ready for good. -/
theorem ready_of_performs {steps : List BuildStep} (h : c.Performs steps s t)
    (hsteps : ∀ step ∈ steps, c.Does step) (hs : s.Faithful c) {b : Binding} {d : Deferral}
    (hmem : .prepare b d ∈ steps) : ∃ i, t.memory.readiness b.key = .ready i := by
  have hgoverns := c.governsAll_preparation
  induction h with
  | done s => cases hmem
  | @next step steps s t u hrun hrest ih =>
    have hdoes := hsteps step List.mem_cons_self
    have hmoves := (hgoverns.step hdoes).moves hs trivial hrun
    have hlater : ∀ step' ∈ steps, c.Does step' := fun step' hstep' =>
      hsteps step' (List.mem_cons_of_mem step hstep')
    rcases List.mem_cons.mp hmem with rfl | hmem
    · obtain ⟨i, t', hforce, heq⟩ := Run.andThen_eq_ok hrun
      cases heq
      obtain ⟨-, es, -, hprepares⟩ := hgoverns.performs hrest hlater hmoves.1
      exact ⟨i, hprepares.ready (ready_of_force hdoes.1 hdoes.2 hs hforce)⟩
    · exact ih hlater hmoves.1 hmem

/-- All deferred bindings are ready. -/
def AllReady (c : Container) (readiness : Key → Readiness) : Prop :=
  ∀ key, c.IsDeferred key → ∃ i, readiness key = .ready i

/-- The steps of the first stage. -/
def prepareSteps (c : Container) : List BuildStep := c.registry.toList.filterMap prepareStep?

theorem does_of_mem_prepareSteps {step : BuildStep} (h : step ∈ c.prepareSteps) : c.Does step :=
  does_of_mem (List.mem_append_left _ (List.mem_append_left _ h))

/-- After the first stage, all deferred bindings are ready. -/
theorem allReady_of_performs (h : c.Performs c.prepareSteps s t) (hs : s.Faithful c) :
    c.AllReady t.memory.readiness := by
  rintro key ⟨b, hb, hdeferred⟩
  obtain ⟨d, hd⟩ := Option.isSome_iff_exists.mp hdeferred
  have hkey := Registry.key_of_lookup hb
  have hlisted : b ∈ c.registry.toList := List.mem_map.mpr ⟨(key, b), Table.mem_of_find hb, rfl⟩
  have hmem : .prepare b d ∈ c.prepareSteps :=
    List.mem_filterMap.mpr ⟨b, hlisted, by rw [prepareStep?, hd]; rfl⟩
  rw [← hkey]
  exact ready_of_performs h (fun _ => does_of_mem_prepareSteps) hs hmem

theorem preparation_injectDeferred (c : Container) : c.preparation.Allows c.injectDeferred := by
  rw [injectDeferred_eq]
  refine Contract.Meets.each fun step hstep => ?_
  exact Contract.Meets.mapError
    (c.governsAll_preparation.step (does_of_mem_prepareSteps hstep)) fun _ _ => trivial

/-- If the first stage fails, so does the build, with the error of one of its steps. -/
theorem start_of_injectDeferred_error {e : ConfigurationError}
    (h : c.injectDeferred s = some (.error e, t)) :
    c.start s = some (.error e, t) ∧ ∃ name source, e = .memberInjection name source := by
  have hstart : c.start s = some (.error e, t) := by
    unfold start
    rw [Run.bind_eq, h]
  refine ⟨hstart, ?_⟩
  rw [injectDeferred_eq, Run.each_eq_error_iff] at h
  obtain ⟨pre, step, post, u, hsteps, -, hstep⟩ := h
  obtain ⟨source, -, rfl⟩ := perform_eq_error.mp hstep
  have hmem : step ∈ c.prepareSteps := by
    rw [prepareSteps, hsteps]
    exact List.mem_append_right _ List.mem_cons_self
  obtain ⟨b, -, hstep⟩ := List.mem_filterMap.mp hmem
  obtain ⟨d, -, rfl⟩ := Option.map_eq_some_iff.mp hstep
  exact ⟨_, _, rfl⟩

/-- The first stage succeeds exactly when its steps do. -/
theorem injectDeferred_eq_ok_iff :
    c.injectDeferred s = some (.ok (), t) ↔ c.Performs c.prepareSteps s t := by
  rw [injectDeferred_eq, performs_iff]
  rfl

/-- A build that succeeds goes through a state after the first stage. -/
theorem firstStage_of_start (h : c.start s = some (.ok (), u)) (hs : s.Faithful c) :
    ∃ t es fs, c.Performs c.prepareSteps s t ∧ s.Entered t es ∧ (∀ e ∈ es, e.stage = 0) ∧
      c.Prepares s t es ∧ t.Entered u fs ∧ c.Prepares t u fs := by
  have hgoverns := c.governsAll_preparation
  obtain ⟨t', hperforms, rfl⟩ := start_eq_ok_iff.mp h
  have hdoes : ∀ step ∈ c.buildSteps, c.Does step := fun step => does_of_mem
  unfold buildSteps at hperforms hdoes
  rw [List.append_assoc] at hperforms hdoes
  obtain ⟨t, hfirst, hrest⟩ := performs_append.mp hperforms
  have hfirstDoes : ∀ step ∈ c.prepareSteps, c.Does step := fun step => does_of_mem_prepareSteps
  obtain ⟨ht, es, hes, hprepares⟩ := hgoverns.performs hfirst hfirstDoes hs
  obtain ⟨es', hes', hstages⟩ := inStage_performs (n := 0) hfirst fun step hstep => by
    obtain ⟨b, -, hprepare⟩ := List.mem_filterMap.mp hstep
    obtain ⟨d, -, rfl⟩ := Option.map_eq_some_iff.mp hprepare
    exact ⟨hfirstDoes _ hstep, Nat.le_refl 0⟩
  obtain rfl := hes.unique hes'
  have hlast := hgoverns.performs hrest
    (fun step hstep => hdoes step (List.mem_append_right _ hstep)) ht
  have hbuilt := preparation_emit (e := .logged (.built (c.stats t'.memory))) rfl hlast.1
  obtain ⟨-, fs, hfs, hprepares'⟩ := hlast.trans hbuilt
  exact ⟨t, es, fs, hfirst, hes, fun e he => Nat.le_zero.mp (hstages e he), hprepares, hfs,
    hprepares'⟩

/-- After a build that succeeds, all deferred bindings are ready. -/
theorem allReady_of_start (h : c.start s = some (.ok (), t)) (hs : s.Faithful c) :
    c.AllReady t.memory.readiness := by
  obtain ⟨u, _, _, hfirst, -, -, -, -, hrest⟩ := firstStage_of_start h hs
  intro key hkey
  obtain ⟨i, hi⟩ := allReady_of_performs hfirst hs key hkey
  exact ⟨i, hrest.ready hi⟩

/-! ### Afterwards -/

/-- What may happen to a container later on. -/
inductive Later (c : Container) (s : State) : State → Prop where
  /-- Nothing. -/
  | done : Later c s s
  /-- Something is done with the container, successfully or not. -/
  | operate {t u : State} : Later c s t → c.Operates t u → Later c s u
  /-- Something happens to the world. -/
  | elsewhere {t : State} (w : World) : Later c s t → Later c s (t.inWorld w)

/-- All deferred bindings stay ready. -/
theorem Later.allReady (h : c.Later s t) (hs : s.Faithful c)
    (hready : c.AllReady s.memory.readiness) : t.Faithful c ∧ c.AllReady t.memory.readiness := by
  induction h with
  | done => exact ⟨hs, hready⟩
  | operate _ hop ih =>
    obtain ⟨ht, hready⟩ := ih
    obtain ⟨hu, es, -, hprepares⟩ :=
      hop.keeps c.governsAll_preparation (fun _ _ => trivial) ht
    refine ⟨hu, fun key hkey => ?_⟩
    obtain ⟨i, hi⟩ := hready key hkey
    exact ⟨i, hprepares.ready hi⟩
  | elsewhere w _ ih => exact ih

/-- While all deferred bindings are ready, none is injected, and each use comes to its object. -/
theorem quiet_of_allReady (h : c.Prepares s t es) (hready : c.AllReady s.memory.readiness)
    {e : Event} (he : e ∈ es) (key : Key) :
    e ≠ .preparing key ∧ ∀ error, e ≠ .forced key (.error error) := by
  by_cases huse : e.use? = some key
  · obtain ⟨i, hi⟩ := hready key (h.deferred e he key huse)
    have hreplay := h.replay key
    rw [hi] at hreplay
    obtain ⟨hprepares, hforced⟩ := (Readiness.eq_ready_of_replay hreplay).2 e he
    exact ⟨hprepares, fun error herror => nomatch hforced _ herror⟩
  · refine ⟨fun heq => huse ?_, fun error heq => huse ?_⟩ <;> rw [heq] <;> rfl

/-- While all deferred bindings are ready, a container does not report that one is unavailable. -/
theorem governsAll_ready {E : ConfigurationError → Prop} (h : c.Reports E)
    (hlack : ∀ e : ConfigurationError, e.isLack = true → E e)
    (hmistyped : ∀ expected actual, E (.typeMismatch expected actual)) :
    (c.reporting c.AllReady E).GovernsAll c := by
  refine governsAll_reporting h (fun e he _ => hlack e he) hmistyped
    fun _ self b hb _ d hd s hs _ => ?_
  have hdeferred : c.IsDeferred b.key := ⟨b, hb, by rw [Source.isDeferred, hd]; rfl⟩
  obtain ⟨i, hi⟩ := hs.2 b.key hdeferred
  rw [c.force_of_ready self d hi]
  exact ⟨⟨hs, trivial⟩, trivial⟩

end Container

/-- Whether an error says that a deferred binding is unavailable. -/
def ConfigurationError.isUnavailable : ConfigurationError → Bool
  | bindingUnavailable .. => true
  | _ => false

namespace Builder

/-- How the deferred bindings of a builder are used. -/
structure UsesDeferredOnce (b : Builder) (classes : ClassTable) (w : World) : Prop where
  /-- The first stage of a build comes to an end if no deferred binding is in a circle. -/
  ends : (b.container classes).AcyclicDeferred →
    ∃ r t, (b.container classes).injectDeferred (b.opening classes w) = some (r, t)
  /-- Each deferred binding is injected at most once in the first stage, and if one of them fails,
  the build fails. -/
  first : ∀ r t, (b.container classes).injectDeferred (b.opening classes w) = some (r, t) →
    ∃ es, (b.opening classes w).Entered t es ∧ UsedOnce es ∧
      ∀ key error, .forced key (.error error) ∈ es →
        ∃ name source, b.build classes w = some (.error (.memberInjection name source), t.world)
  /-- The same is true of a whole build. If it succeeds, each deferred binding was injected with
  success before the next stage began, is not injected again, and is never unavailable. -/
  whole : ∀ r w', b.build classes w = some (r, w') →
    ∃ es, w'.journal.toList = (b.opening classes w).world.journal.toList ++ es ∧ UsedOnce es ∧
      ∀ running, r = .ok running →
        (∀ key, (b.container classes).IsDeferred key → es.countP (Event.prepares key) = 1 ∧
          ∀ pre e post, es = pre ++ e :: post → e.stage ≠ 0 →
            pre.countP (Event.prepares key) = 1 ∧ ∃ i, .forced key (.ok i) ∈ pre) ∧
        ∀ t, (b.container classes).Later ⟨running.memory, w'⟩ t →
          (∀ u, (b.container classes).Operates t u → ∃ fs, t.Entered u fs ∧ ∀ e ∈ fs, ∀ key,
            e ≠ .preparing key ∧ ∀ error, e ≠ .forced key (.error error)) ∧
          ((b.container classes).Reports (fun e => e.isUnavailable = false) →
            ∀ e, (b.container classes).Fails t e → e.isUnavailable = false)

/-- An entry of a later stage comes after all entries of the first one. -/
theorem append_of_stage {es fs pre post : List Event} {e : Event} (hstage : e.stage ≠ 0)
    (hes : ∀ e ∈ es, e.stage = 0) (h : es ++ fs = pre ++ e :: post) : ∃ mid, pre = es ++ mid := by
  rcases List.append_eq_append_iff.mp h with ⟨mid, hpre, -⟩ | ⟨mid, rfl, hpost⟩
  · exact ⟨mid, hpre⟩
  · cases mid with
    | nil => exact ⟨[], by simp⟩
    | cons e' mid =>
      cases hpost
      exact absurd (hes e (by simp)) hstage

/-- **Deferred bindings.** In every build, each deferred binding that is in force is injected at
most once, whatever else uses it before its turn. After a failure it is not injected again, each
later use says that it is unavailable, and the build fails even if the failure was passed over. If
the build succeeds, each was injected once and with success before static members were injected
and singletons created ahead, and whatever is done with the container later, none is injected
again, and the container does not come to the error that one is unavailable. -/
theorem deferred_used_once (config : ContainerConfig) (ss : List Statement) (classes : ClassTable)
    (w : World) :
    ((ofConfig config).install ss w).1.UsesDeferredOnce classes
      ((ofConfig config).install ss w).2 := by
  generalize ((ofConfig config).install ss w).1 = b
  generalize ((ofConfig config).install ss w).2 = w
  have hopening : (b.opening classes w).Faithful (b.container classes) :=
    (b.container classes).faithful_initial _
  refine ⟨fun hacyclic => ?_, fun r t hrun => ?_, fun r w' hbuild => ?_⟩
  · exact (Container.terminates_injectDeferred hacyclic).ends trivial
      ((b.container classes).resting_initial _) trivial
  · obtain ⟨-, es, hes, hprepares⟩ :=
      (b.container classes).preparation_injectDeferred.moves hopening trivial hrun
    refine ⟨es, hes, Container.usedOnce_of_prepares hprepares, fun key error hmem => ?_⟩
    cases r with
    | ok =>
      -- the binding would be ready, although it failed
      obtain ⟨i, hi⟩ := Container.allReady_of_performs (Container.injectDeferred_eq_ok_iff.mp hrun)
        hopening key (hprepares.deferred _ hmem key rfl)
      obtain ⟨pre, post, rfl⟩ := List.append_of_mem hmem
      have hafter := Readiness.replay_after (hprepares.replay key)
      rw [hi] at hafter
      cases (Readiness.eq_failed_of_replay hafter).1
    | error e =>
      obtain ⟨hstart, name, source, rfl⟩ := Container.start_of_injectDeferred_error hrun
      exact ⟨name, source, build_eq_some_iff.mpr ⟨_, t, hstart, rfl, rfl⟩⟩
  · obtain ⟨r', s, hrun, rfl, rfl⟩ := build_eq_some_iff.mp hbuild
    obtain ⟨-, es, hes, hprepares⟩ :=
      ((b.container classes).governsAll_preparation.start fun _ _ _ => trivial).moves hopening
        trivial hrun
    have honce := Container.usedOnce_of_prepares hprepares
    refine ⟨es, hes, honce, fun running hok => ?_⟩
    cases r' with
    | error e => cases hok
    | ok =>
      cases hok
      obtain ⟨t, first, rest, hperforms, hfirst, hstages, hbefore, hrest, hafter⟩ :=
        Container.firstStage_of_start hrun hopening
      obtain rfl := hes.unique (hfirst.trans hrest)
      have hready := Container.allReady_of_performs hperforms hopening
      refine ⟨fun key hkey => ?_, fun u hlater => ?_⟩
      · obtain ⟨i, hi⟩ := hready key hkey
        have hreplay := hbefore.replay key
        rw [hi] at hreplay
        obtain ⟨hcount, hforced⟩ := Readiness.prepared_of_replay hreplay
        have hone : first.countP (Event.prepares key) = 1 := hcount rfl
        have hwhole := honce.once key
        rw [List.countP_append, hone] at hwhole ⊢
        refine ⟨by omega, fun pre e post hsplit hstage => ?_⟩
        obtain ⟨mid, rfl⟩ := append_of_stage hstage hstages hsplit
        have hsplitCount := congrArg (List.countP (Event.prepares key)) hsplit
        simp only [List.countP_append] at hsplitCount
        rw [List.countP_append]
        exact ⟨by omega, i, List.mem_append_left _ (hforced nofun)⟩
      · have hfinal : (b.container classes).AllReady s.memory.readiness := fun key hkey => by
          obtain ⟨i, hi⟩ := hready key hkey
          exact ⟨i, hafter.ready hi⟩
        have hfaithful := (((b.container classes).governsAll_preparation.start
          fun _ _ _ => trivial).moves hopening trivial hrun).1
        obtain ⟨hu, hstill⟩ := hlater.allReady hfaithful hfinal
        refine ⟨fun v hop => ?_, fun hreports e hfails => ?_⟩
        · obtain ⟨-, fs, hfs, hquiet⟩ := hop.keeps
            (b.container classes).governsAll_preparation (fun _ _ => trivial) hu
          exact ⟨fs, hfs, fun e he key => Container.quiet_of_allReady hquiet hstill he key⟩
        · refine hfails.reports (Container.governsAll_ready hreports (fun e he => ?_)
            fun _ _ => rfl) (fun _ _ => rfl) ⟨hu, hstill⟩
          cases e <;> first | rfl | cases he

/-- A safe with a lock that is bound after it. Both are injected when the container is built. -/
def safe : List Statement :=
  [.bind (.component "Safe") none [] [] .injectableInstance,
    .bind (.component "Lock") none [] [] .injectableInstance]

/-- The classes of the safe. -/
def safeClasses : ClassTable := .ofList
  [("Safe", ⟨[.field "Safe" "lock" (.injectable "Lock")], [], .fresh fun _ => none⟩),
    ("Lock", ⟨[], [], .fresh fun _ => none⟩)]

/-- Safes need locks, and locks need nothing. -/
theorem acyclic_safe (d : Dependency) :
    (((ofConfig .standard).install safe .new).1.container safeClasses).Acyclic d :=
  Container.acyclic_of_ranked (fun key => if key = .ofTy (.component "Safe") then 1 else 0)
    (by decide +kernel) d

/-- The first stage of the build of the safe comes to an end. The build succeeds, and the lock is
injected once, although the safe uses it before its turn. -/
theorem safe_injects_lock_once :
    let b := ((ofConfig .standard).install safe .new).1
    let w := ((ofConfig .standard).install safe .new).2
    (∃ r t, (b.container safeClasses).injectDeferred (b.opening safeClasses w) = some (r, t)) ∧
      ∃ running w' es, b.build safeClasses w = some (.ok running, w') ∧
        w'.journal.toList = (b.opening safeClasses w).world.journal.toList ++ es ∧
        es.countP (Event.prepares (.ofTy (.component "Lock"))) = 1 := by
  intro b w
  have hdeferred := deferred_used_once .standard safe safeClasses .new
  refine ⟨hdeferred.ends fun _ e _ _ _ => acyclic_safe e, ?_⟩
  · have hrun : (b.build safeClasses w).map (fun r => r.1.map fun _ => ()) = some (.ok ()) := by
      decide +kernel
    obtain ⟨⟨r, w'⟩, hbuild, hr⟩ := Option.map_eq_some_iff.mp hrun
    cases r with
    | error e => cases hr
    | ok running =>
      obtain ⟨es, hes, -, hready⟩ := hdeferred.whole _ w' hbuild
      refine ⟨running, w', es, hbuild, hes, ((hready running rfl).1 _ ?_).1⟩
      exact ⟨_, rfl, rfl⟩

end Builder

end Wiring
