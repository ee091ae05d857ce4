import Wiring.Proofs.Inheritance
import Wiring.Proofs.Interchange

/-!
# Replies Are Alike

What a constant container without circles hands over stems from what it is asked for, and so does
what it gives to the objects that it injects. That is so during builds and afterwards, and in either
of two containers that have the same bindings. So if the same is asked of both, the replies are
alike: instances are peers, and injected objects have been called alike.

## Conventions

What instances stem from is told with regard to the state in which the builds began.

## Main statements

* `Container.Regular`: a container of which it is fixed what it gives, and what it is given.
* `Container.Regular.allows_start`, `Container.Regular.allows_operate`: builds and operations keep
  to where things come from.
* `Container.Regular.yields_operation`: what is given in reply comes from where it should.
* `Container.Alike`: replies that are alike.
* `Container.Regular.alike`: the same replies are alike.
-/

namespace Wiring

namespace Container

variable {c c' : Container} {s₀ s t : State} {op op' : Operation}

/-- A constant container without circles in which nothing is being created, and whose deferred
bindings inject objects that are there, once. -/
structure Regular (c : Container) (s₀ : State) : Prop where
  /-- The container is constant. -/
  constant : c.Constant
  /-- Deferred bindings inject objects that are there, once. -/
  once : c.InjectsOnce
  /-- There are no circles. -/
  acyclic : ∀ d, c.Acyclic d
  /-- Nothing is being created. -/
  resting : c.resting.Inv s₀

theorem Regular.firm (h : c.Regular s₀) : c.Firm s₀ :=
  ⟨h.constant.toSteady, h.acyclic, h.resting, h.once.anchored s₀⟩

/-! ### What is given in reply -/

variable (c s₀) in
/-- What was given in reply to an operation, or to the object that was injected since `w₀`, comes
from where it should. -/
def Yielded (w₀ : World) (s : State) : Operation → Reply → Prop
  | .resolve d, .handed i => c.Stems s₀ s.world d i
  | .get _ d, .handed i => c.Stems s₀ s.world d i
  | .inject cls _ id, .done =>
    c.Equipped s₀ (∃ o, w₀.object? id = some o) w₀ id cls (c.points cls) s
  | _, _ => True

variable (c s₀) in
/-- Two replies to operations that ask for the same, in two worlds, are alike: instances are the
same but for identities, all the way down, and injected objects have been called alike since `w₀`
and `w₀'`. -/
inductive Alike (w₀ w₀' w w' : World) : Operation → Operation → Reply → Reply → Prop where
  /-- Instances for a dependency. -/
  | resolved {d : Dependency} {i j : Instance} : c.Akin d i j → (∀ n, c.Peers s₀ n w w' d i j) →
    Alike w₀ w₀' w w' (.resolve d) (.resolve d) (.handed i) (.handed j)
  /-- Instances for a dependency, as ones of a type. -/
  | got {ty : Ty} {d : Dependency} {i j : Instance} : c.Akin d i j →
    (∀ n, c.Peers s₀ n w w' d i j) →
    Alike w₀ w₀' w w' (.get ty d) (.get ty d) (.handed i) (.handed j)
  /-- Members were injected. -/
  | injected {cls target : ClassPath} {id id' : Nat} :
    (∀ o o', w₀.object? id = some o → w₀'.object? id' = some o' → ∀ n path,
      ReceivedAlike (c.Peers s₀ n w w') w₀ w₀' w w' id id' path cls
        (onPath path (c.points cls))) →
    Alike w₀ w₀' w w' (.inject cls target id) (.inject cls target id') .done .done
  /-- Static members were injected. -/
  | injectedStatics (cls : ClassPath) :
    Alike w₀ w₀' w w' (.injectStatics cls) (.injectStatics cls) .done .done
  /-- It was told whether a dependency can be resolved. -/
  | told (d : Dependency) (b : Bool) :
    Alike w₀ w₀' w w' (.ask d) (.ask d) (.told b) (.told b)

namespace Regular

open Discipline

variable (h : c.Regular s₀)
include h

theorem handsDown (d : Dependency) : c.HandsDown s₀ c.resolve d :=
  handsDown_resolve h.constant h.once h.resting (h.acyclic d)

/-! ### Builds -/

/-- Each step of a build keeps to where things come from. -/
theorem allows_step {step : BuildStep} (hstep : c.Does step) :
    (c.descending s₀).Allows (step.run c) := by
  have hfirm := h.firm
  cases step with
  | prepare b d =>
    obtain ⟨cls, id, rfl⟩ := h.once b d hstep.1 hstep.2
    have hforce := Descent.force hstep.1 hstep.2
      (concord_force_of_even hfirm.steady hfirm.resting hfirm.anchored hstep.1 hstep.2
        (fun e _ => h.acyclic e) (fun e _ => hfirm.even e) fun e _ => hfirm.even e)
      fun e _ => h.handsDown e
    exact hforce.allows.bind fun _ => Ensures.succeed fun _ _ _ => trivial
  | inject cls => exact Descent.injectStatics fun e _ => h.handsDown e
  | announce targets => exact Descent.emit _
  | create b =>
    have hbinding := fetched_resolveBinding h.constant h.once h.resting hstep.1
      (fun e _ => h.acyclic e) (fun e _ => hfirm.even e) (fun e _ => hfirm.even e)
      fun e _ => h.handsDown e
    exact (Descent.emit _).bind fun _ => hbinding.allows.bind fun _ =>
      Ensures.succeed fun _ _ _ => trivial

/-- So does a build of a sibling that does the same steps, in whatever order. -/
theorem allows_start (hsiblings : Siblings c c') (hsteps : c'.buildSteps.Perm c.buildSteps) :
    (c.descending s₀).Allows c'.start := by
  have hall : (c.descending s₀).Allows (Run.each c'.perform c'.buildSteps) := by
    refine Ensures.each fun step hstep => Ensures.mapError _ ?_
    rw [← hsiblings.run]
    exact h.allows_step (does_of_mem (hsteps.mem_iff.mp hstep))
  rw [start_eq]
  refine Ensures.bind hall fun _ => Ensures.bind (V := fun _ _ => True) ?_ fun stats => ?_
  · exact Ensures.read fun _ _ _ => trivial
  · exact Descent.emit _

/-! ### Operations -/

/-- What is given in reply to an operation comes from where it should. -/
theorem yields_operation (hop : op.Counterpart op') (w₀ : World) :
    (c.descending s₀).Ensures (·.world = w₀) (op.run c) fun s r => c.Yielded s₀ w₀ s op r := by
  have hresolve := h.handsDown
  cases hop with
  | resolve d =>
    refine Ensures.bind ((hresolve d).weaken (fun _ _ => trivial) fun _ _ hi => hi) fun i => ?_
    exact Ensures.succeed fun _ _ hi => hi
  | get ty d =>
    have hget : (c.descending s₀).Ensures (fun _ => True) (c.getAs ty d)
        fun s i => c.Stems s₀ s.world d i := by
      refine Ensures.bind (hresolve d) fun i s hs hi => ?_
      refine Ensures.ofExcept (P := fun s => c.Stems s₀ s.world d i) ?_ s hs hi
      intro j hj t ht
      rwa [(Instance.cast_eq_ok_iff.mp hj).2]
    refine Ensures.bind (hget.weaken (fun _ _ => trivial) fun _ _ hi => hi) fun i => ?_
    exact Ensures.succeed fun _ _ hi => hi
  | inject cls target id id' =>
    have hinject : (c.descending s₀).Ensures
        (c.Equipped s₀ (∃ o, w₀.object? id = some o) w₀ id cls []) (c.injectMembers cls target id)
        fun s _ => c.Equipped s₀ (∃ o, w₀.object? id = some o) w₀ id cls (c.points cls) s :=
      Descent.injectObject (fun e _ => hresolve e) target
    refine Ensures.bind (hinject.weaken ?_ fun _ _ hr => hr) fun _ =>
      Ensures.succeed fun _ _ hr => hr
    rintro s rfl ho
    exact ⟨ho, fun _ _ => .nil (.refl s.world)⟩
  | injectStatics cls =>
    refine Ensures.bind (Descent.injectStatics fun e _ => hresolve e).ensures fun _ => ?_
    exact Ensures.succeed fun _ _ _ => trivial
  | ask d =>
    have hask : (c.descending s₀).Allows (c.canResolve d) := by
      rintro s hs _ _ _ ⟨⟩
      obtain ⟨ht, hw⟩ := hs.changes (c.changes_available s d)
      exact ⟨ht, hw, fun _ _ => trivial⟩
    refine Ensures.bind hask.ensures fun _ => ?_
    exact Ensures.succeed fun _ _ _ => trivial

/-- Operations that leave contexts and objects alone keep to where things come from. -/
theorem allows_operation (hop : op.IsPeaceful) : (c.descending s₀).Allows (op.run c) := by
  rcases hop.counterpart with hsame | ⟨f, blind, rfl, hf⟩
  · intro s hs _ r t hrun
    obtain ⟨ht, hw, -⟩ := h.yields_operation hsame s.world s hs rfl r t hrun
    exact ⟨ht, hw, fun _ _ => trivial⟩
  · rintro s hs _ _ _ ⟨⟩
    have hw := hf.prolongs s.world
    have hgrown := hs.grown.quiet (t := s.inWorld (f s.world)) hs.grown.faithful rfl rfl
      (hf.continues _) (hf.parameters _) (hf.attributes _) (hf.contexts _)
    exact ⟨⟨hgrown, hf.parted _ hs.parted, hs.prolonged.trans hw,
      hs.stored.quiet hw rfl rfl (hf.attributes _) (hf.contexts _)⟩, hw, fun _ _ => trivial⟩

/-- So do operations one after another. -/
theorem allows_operate {ops : List Operation} (hops : ∀ op ∈ ops, op.IsPeaceful) :
    (c.descending s₀).Allows (c.operate ops) :=
  Ensures.collect fun op hop =>
    (Ensures.attempt (h.allows_operation (hops op hop))).weaken (fun _ h => h) fun _ _ _ => trivial

/-! ### Replies -/

/-- The same replies are alike if what is given comes from where it should. -/
theorem alike (hop : op.Counterpart op') {w₀ w₀' : World} {r r' : Reply}
    (hsame : c.SameReply op r r') (hyielded : c.Yielded s₀ w₀ s op r)
    (hyielded' : c.Yielded s₀ w₀' t op' r') :
    c.Alike s₀ w₀ w₀' s.world t.world op op' r r' := by
  cases hop with
  | resolve d =>
    cases hsame with
    | resolved hakin => exact .resolved hakin (hyielded.peers h.constant hyielded')
  | get ty d =>
    cases hsame with
    | got hakin => exact .got hakin (hyielded.peers h.constant hyielded')
  | inject cls target id id' =>
    cases hsame
    refine .injected fun o o' ho ho' n path => ?_
    obtain ⟨-, hreceived⟩ := hyielded ⟨o, ho⟩
    obtain ⟨-, hreceived'⟩ := hyielded' ⟨o', ho'⟩
    -- To compare arguments down to the depth `n`, one has to look one step deeper.
    exact h.constant.receivedAlike (fun _ _ _ => StemsFrom.peers h.constant)
      (fun _ _ _ => Peers.sameButIdentity)
      (fun m hm => mem_members_of_mem_points (List.mem_of_mem_filter hm))
      (hreceived (n + 1) path) (hreceived' (n + 1) path)
  | injectStatics cls =>
    cases hsame
    exact .injectedStatics cls
  | ask d =>
    cases hsame with
    | told d b => exact .told d b

end Regular

end Container

end Wiring
