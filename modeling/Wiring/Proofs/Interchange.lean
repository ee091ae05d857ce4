import Wiring.Proofs.Ahead
import Wiring.Proofs.Operations
import Wiring.Proofs.Prolonging

/-!
# What Builds and Operations Come To Is Fixed

In a steady container without circles it is fixed beforehand which steps of a build succeed,
whatever steps were done before. A deferred binding may have been used by others before its turn,
and a singleton may have been created by them, but neither makes a difference to success. So a
build comes to the same end if its steps are done in another order.

When two builds have succeeded, all deferred bindings are ready. From then on, both containers
answer alike, with the same errors, whatever has been done with each of them in the meantime.

## Conventions

What builds come to is compared with what their steps come to in one common state, in which nothing
has been injected. What is done afterwards is compared in another one, in which nothing has been
done but that the deferred bindings have become ready.

## Main statements

* `Decided`: whether a run succeeds is fixed.
* `Container.Firm`: a container of which it is fixed what it comes to.
* `Container.Firm.decided_start`: a build succeeds exactly when each of its steps would.
* `Container.Firm.grown_advanced`: states after builds have grown from a common one.
* `Container.Firm.concord_operation`: operations come to the same.
-/

namespace Wiring

/-- Whichever state the run starts from of which `F` holds, it comes to an end, and `F` holds
afterwards. It succeeds exactly if `p`. -/
def Decided {α : Type} (F : State → Prop) (x : Run α) (p : Prop) : Prop :=
  ∀ s, F s → ∃ r t, x s = some (r, t) ∧ F t ∧ ((∃ a, r = .ok a) ↔ p)

/-- A run that has come to an end has succeeded, or it has not. -/
theorem Run.exists_ok_iff {x : Run Unit} {s t : State} {r : Except ConfigurationError Unit}
    (h : x s = some (r, t)) : (∃ u, x s = some (.ok (), u)) ↔ ∃ a, r = .ok a := by
  rw [h]
  constructor
  · rintro ⟨u, heq⟩
    exact ⟨(), (Prod.mk.inj (Option.some.inj heq)).1⟩
  · rintro ⟨a, rfl⟩
    exact ⟨t, rfl⟩

/-- Doing something for each element of a list succeeds exactly if it would for each of them. -/
theorem Decided.each {α : Type} {F : State → Prop} {f : α → Run Unit} {p : α → Prop} {as : List α}
    (h : ∀ a ∈ as, Decided F (f a) (p a)) : Decided F (Run.each f as) (∀ a ∈ as, p a) := by
  induction as with
  | nil =>
    exact fun s hs => ⟨.ok (), s, rfl, hs, fun _ => List.forall_mem_nil p, fun _ => ⟨(), rfl⟩⟩
  | cons a as ih =>
    intro s hs
    obtain ⟨r, t, hrun, ht, hr⟩ := h a List.mem_cons_self s hs
    rw [Run.each, Run.andThen, hrun, List.forall_mem_cons, ← hr]
    cases r with
    | error e => exact ⟨.error e, t, rfl, ht, by simp⟩
    | ok u =>
      obtain ⟨r, t', hrest, ht', hr'⟩ := ih (fun a' ha' => h a' (List.mem_cons_of_mem a ha')) t ht
      exact ⟨r, t', hrest, ht', hr'.trans ⟨fun hall => ⟨⟨u, rfl⟩, hall⟩, And.right⟩⟩

/-- The state in which deferred bindings are as far as in another state, and nothing else is
different. -/
def State.advanced (s t : State) : State :=
  { s with memory := { s.memory with deferred := t.memory.deferred } }

namespace Container

variable {c c' : Container} {s₀ s t : State}

/-! ### Steps in any order -/

/-- A steady container without circles in which nothing is being created, and whose deferred
bindings are ready or inject objects that are there. -/
structure Firm (c : Container) (s₀ : State) : Prop where
  /-- The container is steady. -/
  steady : c.Steady
  /-- There are no circles. -/
  acyclic : ∀ d, c.Acyclic d
  /-- Nothing is being created. -/
  resting : c.resting.Inv s₀
  /-- Deferred bindings are ready or inject objects that are there. -/
  anchored : c.Anchored s₀

theorem Poised.firm (h : c.Poised s₀) : c.Firm s₀ := ⟨h.steady, h.acyclic, h.resting, h.anchored⟩

/-- A step of a build would succeed in a given state. -/
def Succeeds (c : Container) (s₀ : State) (step : BuildStep) : Prop :=
  ∃ t, step.run c s₀ = some (.ok (), t)

namespace Firm

variable (h : c.Firm s₀)
include h

/-- A state has come along from itself. -/
theorem along : c.Along s₀ s₀ := ⟨.refl h.resting.1, h.resting⟩

/-- Dependencies are resolved to the same, whatever was done before. -/
theorem even (d : Dependency) : c.Even s₀ c.resolve c.resolve d :=
  even_resolve h.steady h.resting h.anchored (h.acyclic d)

/-- A step of a build comes to an end. -/
theorem allows_step {step : BuildStep} (hstep : c.Does step) : c.resting.Allows (step.run c) := by
  have hends := terminates_runBy h.acyclic (fun d => terminates_resolve (h.acyclic d)) hstep
  rwa [runBy_resolve] at hends

/-- A step of a build comes to the same, whatever steps were done before. -/
theorem concord_step {step : BuildStep} (hstep : c.Does step) :
    c.Accord s₀ (fun _ _ => True) (step.run c) (step.run c) := by
  cases step with
  | prepare b d =>
    have hforce := concord_force_of_even h.steady h.resting h.anchored hstep.1 hstep.2
      (fun e _ => h.acyclic e) (fun e _ => h.even e) fun e _ => h.even e
    exact hforce.bind fun _ _ _ => Concord.succeed trivial
  | inject cls => exact concord_injectStatics h.steady fun e _ => h.even e
  | announce targets => exact concord_emit _ _
  | create b =>
    have hbinding := concord_resolveBinding h.steady h.resting h.anchored hstep.1
      (fun e _ => h.acyclic e) (fun e _ => h.even e) (fun e _ => h.even e) fun e _ => h.even e
    exact (concord_emit _ _).bind fun _ _ _ => hbinding.bind fun _ _ _ => Concord.succeed trivial

/-- It is fixed whether a step succeeds. -/
theorem decided_perform {step : BuildStep} (hstep : c.Does step) :
    Decided (c.Along s₀) (c.perform step) (c.Succeeds s₀ step) := by
  intro s hs
  have hallows := h.allows_step hstep
  obtain ⟨r, s', r₀, t₀, hrun, hrun₀, hs', -, hend⟩ :=
    Along.ends_of_concord hallows hallows (h.concord_step hstep) hs h.along
  refine ⟨r.mapError step.blame, s', by rw [perform, Run.mapError, hrun]; rfl, hs', ?_⟩
  have hsucceeds : c.Succeeds s₀ step ↔ ∃ a, r₀ = .ok a := Run.exists_ok_iff hrun₀
  rw [hsucceeds, ← hend.isOk_iff]
  cases r with
  | error e => simp [Except.mapError]
  | ok u => simp [Except.mapError]

/-- A build of a sibling that does the same steps, in whatever order, comes to an end, and it
succeeds exactly if each of the steps would succeed. -/
theorem decided_start (hsiblings : Siblings c c') (hsteps : c'.buildSteps.Perm c.buildSteps) :
    Decided (c.Along s₀) c'.start (∀ step ∈ c.buildSteps, c.Succeeds s₀ step) := by
  have hperform : c'.perform = c.perform := by
    funext step
    rw [perform, perform, hsiblings.run]
  have hall : Decided (c.Along s₀) (Run.each c'.perform c'.buildSteps)
      (∀ step ∈ c'.buildSteps, c.Succeeds s₀ step) := by
    rw [hperform]
    exact Decided.each fun step hstep =>
      h.decided_perform (does_of_mem (hsteps.mem_iff.mp hstep))
  intro s hs
  obtain ⟨r, t, hrun, ht, hr⟩ := hall s hs
  simp only [hsteps.mem_iff] at hr
  rw [start_eq, Run.andThen, hrun, ← hr]
  cases r with
  | error e => exact ⟨.error e, t, rfl, ht, Iff.rfl⟩
  | ok u =>
    exact ⟨.ok (), _, rfl, ⟨ht.grown.emit _, ht.resting⟩, fun _ => ⟨u, rfl⟩, fun _ => ⟨(), rfl⟩⟩

/-- What would have been supplied would be supplied later on, too. -/
theorem supplies (ht : c.Along s₀ t) {key : Key} {i : Instance} (hi : c.Supplies s₀ key i) :
    c.Supplies t key i := by
  obtain ⟨b, i₀, u, hb, hsupply, hakin⟩ := hi
  have hkey : c.registry.lookup b.key = some b := by rw [Registry.key_of_lookup hb, hb]
  obtain ⟨r, hyields⟩ := exists_yields hkey (fun e _ => h.acyclic e) ht.resting
  obtain ⟨v, hv⟩ := hyields.supply
  have hconcord := concord_supply_of_even h.steady h.resting h.anchored hkey
    (fun e _ => h.acyclic e) (fun e _ => h.even e) fun e _ => h.even e
  obtain ⟨-, -, hend⟩ := hconcord t s₀ ht.grown h.along.grown _ _ _ _ hv hsupply
  obtain ⟨i₁, rfl⟩ := hend.isOk_iff.mpr ⟨i₀, rfl⟩
  have hend : c.SourceAkin b.source i₁ i₀ := hend
  exact ⟨b, i₁, v, hb, hv, hakin.trans hend.symm⟩

end Firm

/-! ### After builds -/

/-- Deferred bindings may be as far as in a later state. -/
theorem Along.advanced (hrest : c.resting.Inv s₀) (hs : c.Along s₀ s) :
    c.Along s₀ (s₀.advanced s) where
  grown :=
    have h : c.Grown s₀ s₀ := .refl hrest.1
    ⟨h.faithful, hs.grown.readiness, h.continues, h.parameters, h.isOpen,
      fun key => (h.slots key).of_eq rfl, fun K key => (h.attributes K key).of_eq rfl,
      fun name key => (h.contexts name key).of_eq rfl⟩
  resting := ⟨hrest.1, hrest.2.1, hs.resting.2.2⟩

namespace Firm

variable (h : c.Firm s₀) (hs : c.Along s₀ s) (hready : c.AllReady s.memory.readiness)
include h hs hready

/-- Once all deferred bindings are ready, so they are in the state where nothing else has been done.
-/
theorem poised_advanced : c.Poised (s₀.advanced s) :=
  ⟨h.steady, h.acyclic, (hs.advanced h.resting).resting, hready⟩

/-- Two states in which all deferred bindings are ready have grown from the state in which they are
ready and nothing else has been done. -/
theorem grown_advanced (ht : c.Along s₀ t) (hready' : c.AllReady t.memory.readiness) :
    c.Grown (s₀.advanced s) t := by
  have hadvanced := hs.advanced h.resting
  have hretains : ∀ {look : State → Option Instance} {key : Key},
      look (s₀.advanced s) = look s₀ → c.Retains s₀ look key t →
        c.Retains (s₀.advanced s) look key t := fun hlook hretains =>
    ⟨fun i hi => hretains.stays i (hlook.symm.trans hi), fun i hi =>
      (hretains.supplied i hi).imp hlook.trans fun hsupplied => h.supplies hadvanced hsupplied⟩
  refine ⟨ht.grown.faithful, fun b d hb hd => ?_, ht.grown.continues, ht.grown.parameters,
    ht.grown.isOpen, fun key => hretains rfl (ht.grown.slots key),
    fun K key => hretains rfl (ht.grown.attributes K key),
    fun name key => hretains rfl (ht.grown.contexts name key)⟩
  have hdeferred : c.IsDeferred b.key := ⟨b, hb, by rw [Source.isDeferred, hd]; rfl⟩
  obtain ⟨i, hi⟩ := hready b.key hdeferred
  obtain ⟨j, hj⟩ := hready' b.key hdeferred
  obtain ⟨i₀, hi₀, hvalue⟩ := (hs.grown.readiness b d hb hd).ready i hi
  obtain ⟨j₀, hj₀, hvalue'⟩ := (ht.grown.readiness b d hb hd).ready j hj
  cases hi₀.unique hj₀
  rw [hj]
  exact .of_ready ⟨_, c.force_of_ready c.resolve d hi⟩ (hvalue'.trans hvalue.symm)

end Firm

end Container

/-! ### Operations -/

/-- The same requests are handled as before, what is kept for requests and sessions and in contexts
stays as it is, and objects go on. -/
structure World.Peaceful (f : World → World) : Prop where
  /-- The same requests are handled. -/
  continues : ∀ w : World, w.Continues (f w)
  /-- Requests have the parameters that they had. -/
  parameters : ∀ (w : World) r, ((f w).request r).parameters = (w.request r).parameters
  /-- The same is kept for requests and sessions. -/
  attributes : ∀ (w : World) K, (f w).attributes K = w.attributes K
  /-- The same contexts are open, and the same is kept in them. -/
  contexts : ∀ w : World, (f w).contexts = w.contexts
  /-- What happened to objects is not undone. -/
  prolongs : ∀ w : World, w.ProlongedBy (f w)
  /-- The parts of objects are objects. -/
  parted : ∀ w : World, w.Parted → (f w).Parted

namespace Operation

/-- Something is done with a container that is built, or contexts and objects are left alone
meanwhile. -/
def IsPeaceful : Operation → Prop
  | start => False
  | meanwhile f _ => World.Peaceful f
  | _ => True

/-- Two operations of two containers ask for the same. Members may be injected into objects that
are not the same. -/
inductive Counterpart : Operation → Operation → Prop where
  /-- A dependency is resolved. -/
  | resolve (d : Dependency) : Counterpart (.resolve d) (.resolve d)
  /-- An instance is asked for as one of a type. -/
  | get (ty : Ty) (d : Dependency) : Counterpart (.get ty d) (.get ty d)
  /-- Members are injected. -/
  | inject (cls target : ClassPath) (id id' : Nat) :
    Counterpart (.inject cls target id) (.inject cls target id')
  /-- Static members are injected. -/
  | injectStatics (cls : ClassPath) : Counterpart (.injectStatics cls) (.injectStatics cls)
  /-- It is asked whether a dependency can be resolved. -/
  | ask (d : Dependency) : Counterpart (.ask d) (.ask d)

theorem Counterpart.symm {op op' : Operation} (h : op.Counterpart op') : op'.Counterpart op := by
  cases h <;> constructor

/-- What asks for something is peaceful. -/
theorem Counterpart.isPeaceful {op op' : Operation} (h : op.Counterpart op') : op.IsPeaceful := by
  cases h <;> exact trivial

/-- An operation that leaves contexts alone asks for something, or is none of the container. -/
theorem IsPeaceful.counterpart {op : Operation} (h : op.IsPeaceful) :
    op.Counterpart op ∨ ∃ f blind, op = .meanwhile f blind ∧ World.Peaceful f := by
  cases op with
  | start => exact h.elim
  | resolve d => exact .inl (.resolve d)
  | get ty d => exact .inl (.get ty d)
  | inject cls target id => exact .inl (.inject cls target id id)
  | injectStatics cls => exact .inl (.injectStatics cls)
  | ask d => exact .inl (.ask d)
  | meanwhile f blind => exact .inr ⟨f, blind, rfl, h⟩

end Operation

namespace Container

variable {c : Container} {s₀ s t : State} {op op' : Operation}

/-- Two replies to an operation are the same, where instances may differ in counts and
identities. -/
inductive SameReply (c : Container) : Operation → Reply → Reply → Prop where
  /-- Members were injected. -/
  | injected (cls target : ClassPath) (id : Nat) : SameReply c (.inject cls target id) .done .done
  /-- Static members were injected. -/
  | injectedStatics (cls : ClassPath) : SameReply c (.injectStatics cls) .done .done
  /-- It was told whether a dependency can be resolved. -/
  | told (d : Dependency) (b : Bool) : SameReply c (.ask d) (.told b) (.told b)
  /-- An instance for a dependency. -/
  | resolved {d : Dependency} {i j : Instance} :
    c.Akin d i j → SameReply c (.resolve d) (.handed i) (.handed j)
  /-- An instance for a dependency, as one of a type. -/
  | got {ty : Ty} {d : Dependency} {i j : Instance} :
    c.Akin d i j → SameReply c (.get ty d) (.handed i) (.handed j)

namespace Firm

variable (h : c.Firm s₀)
include h

/-- Operations that ask for the same come to the same. -/
theorem concord_operation (hop : op.Counterpart op') :
    c.Accord s₀ (c.SameReply op) (op.run c) (op'.run c) := by
  cases hop with
  | resolve d => exact (h.even d).bind fun i j hij => Concord.succeed (.resolved hij)
  | get ty d =>
    have hget : c.Accord s₀ (c.Akin d) (c.getAs ty d) (c.getAs ty d) := by
      refine (h.even d).bind fun i j hij => ?_
      unfold Instance.cast
      rw [hij.ty_eq]
      split
      · exact Concord.succeed hij
      · exact concord_fail _
    exact hget.bind fun i j hij => Concord.succeed (.got hij)
  | inject cls target id id' =>
    have hinject : c.Accord s₀ (fun _ _ => True) (c.injectMembers cls target id)
        (c.injectMembers cls target id') :=
      concord_injectObject h.steady (fun e _ => h.even e) target id id'
    exact hinject.bind fun _ _ _ => Concord.succeed (.injected cls target id)
  | injectStatics cls =>
    have hstatics : c.Accord s₀ (fun _ _ => True) (c.injectStatics c.resolve cls)
        (c.injectStatics c.resolve cls) := concord_injectStatics h.steady fun e _ => h.even e
    exact hstatics.bind fun _ _ _ => Concord.succeed (.injectedStatics cls)
  | ask d =>
    refine (concord_canResolve d).bind ?_
    rintro b _ rfl
    exact Concord.succeed (.told d b)

/-- Operations that make use of a container come to an end. -/
theorem allows_operation (hop : op.Counterpart op') : c.resting.Allows (op.run c) := by
  have hgoverns : c.resting.Governs c := c.governs_terminating _ _
  have hresolve : ∀ d, c.resting.Gives d.key.ty (c.resolve d) := fun d =>
    (terminates_resolve (h.acyclic d)).rests
  have hreply : ∀ {α : Type} {x : Run α} (f : α → Reply), c.resting.Allows x →
      c.resting.Allows (do return f (← x)) := fun f hx =>
    hx.bind fun _ => Contract.Meets.succeed fun _ _ _ => trivial
  cases hop with
  | resolve d => exact hreply _ (hresolve d).allows
  | get ty d =>
    refine hreply _ (Contract.Meets.bind (hresolve d).allows fun i => ?_)
    exact Contract.Meets.ofExcept (fun _ _ _ _ _ => trivial) fun _ _ _ _ _ => trivial
  | inject cls target id id' =>
    refine hreply _ (Contract.Compliance.injectObject hgoverns (fun e _ => hresolve e) ?_ id)
    exact fun _ => trivial
  | injectStatics cls =>
    exact hreply _ (Contract.Compliance.injectStatics hgoverns (fun e _ _ => terminating_emit e)
      fun e _ => hresolve e)
  | ask d => exact hreply _ (hgoverns.canResolve d)

/-- So do all that leave contexts alone, and states go on growing. -/
theorem along_operation (hop : op.IsPeaceful) (hs : c.Along s₀ s) :
    ∃ r t, op.run c s = some (r, t) ∧ c.Along s₀ t := by
  rcases hop.counterpart with hsame | ⟨f, blind, rfl, hf⟩
  · have hallows := h.allows_operation hsame
    obtain ⟨r, t, -, -, hrun, -, ht, -⟩ :=
      Along.ends_of_concord hallows hallows (h.concord_operation hsame) hs hs
    exact ⟨r, t, hrun, ht⟩
  · refine ⟨.ok .done, s.inWorld (f s.world), rfl, ?_, hs.resting⟩
    exact hs.grown.quiet hs.grown.faithful rfl rfl (hf.continues _) (hf.parameters _)
      (hf.attributes _) (hf.contexts _)

/-- The same goes for operations one after another. -/
theorem along_operate {ops : List Operation} (hops : ∀ op ∈ ops, op.IsPeaceful)
    (hs : c.Along s₀ s) : ∃ rs t, c.operate ops s = some (.ok rs, t) ∧ c.Along s₀ t := by
  induction ops generalizing s with
  | nil => exact ⟨[], s, rfl, hs⟩
  | cons op ops ih =>
    obtain ⟨r, t, hrun, ht⟩ := h.along_operation (hops op List.mem_cons_self) hs
    obtain ⟨rs, u, hrest, hu⟩ := ih (fun op' hop' => hops op' (List.mem_cons_of_mem op hop')) ht
    refine ⟨r :: rs, u, ?_, hu⟩
    have hattempt : (op.run c).attempt s = some (.ok r, t) := by rw [Run.attempt_eq, hrun]; rfl
    have hcollect : Run.collect (fun op => (op.run c).attempt) ops t = some (.ok rs, u) := hrest
    simp only [operate, Run.collect, Run.andThen, hattempt, hcollect]
    rfl

/-- Operations of containers that ask for the same come to the same, from whatever states have
grown. -/
theorem ends_of_counterpart (hop : op.Counterpart op') (hs : c.Along s₀ s) (ht : c.Along s₀ t) :
    ∃ r s' r' t', op.run c s = some (r, s') ∧ op'.run c t = some (r', t') ∧
      SameEnd (c.SameError s₀) (c.SameReply op) r r' := by
  obtain ⟨r, s', r', t', hrun, hrun', -, -, hend⟩ := Along.ends_of_concord
    (h.allows_operation hop) (h.allows_operation hop.symm) (h.concord_operation hop) hs ht
  exact ⟨r, s', r', t', hrun, hrun', hend⟩

end Firm

end Container

end Wiring
