import Wiring.Container.Access
import Wiring.Proofs.Compliance
import Wiring.Proofs.Configuration
import Wiring.Proofs.Entries
import Wiring.Proofs.System

/-!
# The Stages of a Build

A build is a list of steps: the members of deferred bindings are injected, then static members,
and then singletons are created ahead of time. `Container.buildSteps` writes this list out, and a
build does its steps one after another up to the first that fails.

A step may do much that belongs to others on its way: use deferred bindings whose turn has not come,
or create singletons that are to be created ahead. What it never does is to begin a later stage.
The journal tells so: each event belongs to the stage from which on it may be entered.

## Conventions

The errors of steps are told apart from the errors that a build reports: a step fails with some
error, and the build wraps it, naming the step.

## Main statements

* `Run.each_eq_error_iff`: doing something for each element of a list fails at the first failure.
* `Container.start_eq`: a build does its steps.
* `Container.inStage_upTo`: up to the end of a step, nothing of a later stage is entered.
* `Container.reporting`: the contract of reporting nothing but given errors.
* `Container.reports_of_plain`: what classes report whose members only read their arguments.
* `Builder.build_in_stages`: builds go in stages and blame the first step that fails.
-/

open Relation

namespace Wiring

/-! ### One after another -/

namespace Run

variable {α : Type} {f : α → Run Unit} {as : List α} {s s' : State}

/-- Where something is done for an element and then for the others, it is done. -/
theorem each_cons_eq_ok {a : α} :
    each f (a :: as) s = some (.ok (), s') ↔
      ∃ t, f a s = some (.ok (), t) ∧ each f as t = some (.ok (), s') := by
  rw [each, andThen]
  rcases f a s with _ | ⟨_ | ⟨⟩, t⟩ <;> simp

/-- Doing something for each element of a list fails at the first element for which it fails, and
leaves the state as that left it. -/
theorem each_eq_error_iff {e : ConfigurationError} :
    each f as s = some (.error e, s') ↔
      ∃ pre a post t, as = pre ++ a :: post ∧ each f pre s = some (.ok (), t) ∧
        f a t = some (.error e, s') := by
  induction as generalizing s with
  | nil => simp [each, succeed]
  | cons a as ih =>
    rw [each, andThen]
    constructor
    · intro h
      rcases ha : f a s with _ | ⟨e' | ⟨⟩, t⟩
      · rw [ha] at h
        cases h
      · rw [ha] at h
        cases h
        exact ⟨[], a, as, s, rfl, rfl, ha⟩
      · rw [ha] at h
        obtain ⟨pre, a', post, u, rfl, hpre, herror⟩ := ih.mp h
        exact ⟨a :: pre, a', post, u, rfl, each_cons_eq_ok.mpr ⟨t, ha, hpre⟩, herror⟩
    · rintro ⟨pre, a', post, t, heq, hpre, herror⟩
      cases pre with
      | nil =>
        cases heq
        cases hpre
        rw [herror]
      | cons a pre =>
        cases heq
        obtain ⟨u, ha, hpre⟩ := each_cons_eq_ok.mp hpre
        rw [ha]
        exact ih.mpr ⟨pre, a', post, t, rfl, hpre, herror⟩

/-- Lists are gone through one after another. -/
theorem each_append (f : α → Run Unit) (as bs : List α) :
    each f (as ++ bs) = (each f as).andThen fun _ => each f bs := by
  induction as with
  | nil => rfl
  | cons a as ih =>
    rw [List.cons_append, each, ih, each, andThen_assoc]

/-- A list may be changed before it is gone through. -/
theorem each_map {β : Type} (f : β → Run Unit) (g : α → β) (as : List α) :
    each f (as.map g) = each (fun a => f (g a)) as := by
  induction as with
  | nil => rfl
  | cons a as ih => rw [List.map_cons, each, ih, each]

end Run

/-! ### Steps -/

/-- A step of a build. -/
inductive BuildStep where
  /-- The members of a deferred binding are injected. -/
  | prepare (b : Binding) (d : Deferral)
  /-- The static members of a class are injected. -/
  | inject (cls : ClassPath)
  /-- It is announced that the static members of some classes are injected. -/
  | announce (targets : Nat)
  /-- A singleton is created ahead of time. -/
  | create (b : Binding)

namespace BuildStep

/-- What a step does. -/
def run (c : Container) : BuildStep → Run Unit
  | prepare b d => do
    let _ ← c.force c.resolve b.key d
  | inject cls => c.injectStatics c.resolve cls
  | announce targets => .log (.staticsInjected targets)
  | create b => do
    .log (.creatingAhead b.key)
    let _ ← c.resolveBinding c.resolve b

/-- The error that a build reports if a step fails. An announcement does not. -/
def blame : BuildStep → ConfigurationError → ConfigurationError
  | prepare b _, e => .memberInjection b.key.text e
  | inject cls, e => .staticInjection (TypeName.short cls) e
  | announce _, e => e
  | create b, e => .eagerSingleton b.key.text e

/-- The stage that a step belongs to. -/
def stage : BuildStep → Nat
  | prepare .. => 0
  | inject _ | announce _ => 1
  | create _ => 2

end BuildStep

namespace Container

variable (c : Container)

/-- The step that a binding gives rise to in the first stage, if it is deferred. -/
def prepareStep? (b : Binding) : Option BuildStep := b.source.deferral.map (.prepare b)

/-- The announcement of static injection, if there is any. -/
def announcement : List BuildStep :=
  if c.staticTargets.isEmpty then [] else [.announce c.staticTargets.length]

/-- The steps of a build: deferred bindings in the order of the registry, static targets in the
order of the requests, and singletons to be created ahead in the order of the registry. -/
def buildSteps : List BuildStep :=
  c.registry.toList.filterMap prepareStep? ++ (c.staticTargets.map .inject ++ c.announcement) ++
    (c.registry.toList.filter c.isAhead).map .create

/-- Do a step, and blame it for its error. -/
def perform (step : BuildStep) : Run Unit := .mapError step.blame (step.run c)

/-- Steps succeed one after another. -/
inductive Performs : List BuildStep → State → State → Prop where
  /-- There are no steps. -/
  | done (s : State) : Performs [] s s
  /-- A step succeeds, and then the others. -/
  | next {step : BuildStep} {steps : List BuildStep} {s t u : State} :
    step.run c s = some (.ok (), t) → Performs steps t u → Performs (step :: steps) s u

variable {c} {s s' t : State}

/-- A step that is blamed for its errors succeeds as it would without. -/
theorem perform_eq_ok {step : BuildStep} :
    c.perform step s = some (.ok (), s') ↔ step.run c s = some (.ok (), s') := by
  unfold perform Run.mapError
  rcases step.run c s with _ | ⟨_ | ⟨⟩, t⟩ <;> simp [Except.mapError]

/-- If it fails, then it is blamed for the error. -/
theorem perform_eq_error {step : BuildStep} {e : ConfigurationError} :
    c.perform step s = some (.error e, s') ↔
      ∃ source, step.run c s = some (.error source, s') ∧ e = step.blame source := by
  unfold perform Run.mapError
  rcases step.run c s with _ | ⟨source | ⟨⟩, t⟩
  · simp
  · simp only [Except.mapError, Option.map_some, Option.some.injEq, Prod.mk.injEq,
      Except.error.injEq]
    constructor
    · rintro ⟨rfl, rfl⟩
      exact ⟨source, ⟨rfl, rfl⟩, rfl⟩
    · rintro ⟨_, ⟨rfl, rfl⟩, rfl⟩
      exact ⟨rfl, rfl⟩
  · simp [Except.mapError]

/-- Steps succeed one after another exactly when doing each of them does. -/
theorem performs_iff {steps : List BuildStep} :
    c.Performs steps s t ↔ Run.each c.perform steps s = some (.ok (), t) := by
  constructor
  · intro h
    induction h with
    | done s => rfl
    | next hstep _ ih => exact Run.each_cons_eq_ok.mpr ⟨_, perform_eq_ok.mpr hstep, ih⟩
  · intro h
    induction steps generalizing s with
    | nil =>
      cases h
      exact .done _
    | cons step steps ih =>
      obtain ⟨u, hstep, h⟩ := Run.each_cons_eq_ok.mp h
      exact .next (perform_eq_ok.mp hstep) (ih h)

/-- Steps succeed one after another. -/
theorem performs_append {pre post : List BuildStep} :
    c.Performs (pre ++ post) s t ↔ ∃ u, c.Performs pre s u ∧ c.Performs post u t := by
  simp only [performs_iff, Run.each_append]
  constructor
  · intro h
    obtain ⟨⟨⟩, u, hpre, hpost⟩ := Run.andThen_eq_ok h
    exact ⟨u, hpre, hpost⟩
  · rintro ⟨u, hpre, hpost⟩
    rw [Run.andThen, hpre]
    exact hpost

/-! ### A build does its steps -/

/-- The first stage injects the deferred bindings in turn. -/
theorem injectDeferred_eq (c : Container) :
    c.injectDeferred = Run.each c.perform (c.registry.toList.filterMap prepareStep?) := by
  unfold injectDeferred
  induction c.registry.toList with
  | nil => rfl
  | cons b bs ih =>
    rw [Run.each, ih]
    cases hd : b.source.deferral with
    | none =>
      have hprepare : c.prepare b = .succeed () := by
        unfold prepare
        rw [hd]
        rfl
      rw [hprepare, List.filterMap_cons_none (by simp [prepareStep?, hd])]
      rfl
    | some d =>
      have hprepare : c.prepare b = c.perform (.prepare b d) := by
        unfold prepare
        rw [hd]
        rfl
      rw [hprepare, List.filterMap_cons_some (b := .prepare b d) (by simp [prepareStep?, hd])]
      rfl

/-- The second stage injects the requested classes in turn. -/
theorem injectStaticTargets_eq (c : Container) :
    c.injectStaticTargets = Run.each c.perform (c.staticTargets.map .inject ++ c.announcement) := by
  rw [Run.each_append, Run.each_map]
  unfold injectStaticTargets announcement
  cases htargets : c.staticTargets with
  | nil => rfl
  | cons cls rest => rfl

/-- A build does its steps, and then says so. -/
theorem start_eq (c : Container) :
    c.start = (Run.each c.perform c.buildSteps).andThen fun _ =>
      (Run.read fun s => c.stats s.memory).andThen fun stats => .log (.built stats) := by
  have hcreate : c.createSingletons =
      Run.each c.perform ((c.registry.toList.filter c.isAhead).map .create) := by
    rw [Run.each_map]
    rfl
  unfold buildSteps
  rw [Run.each_append, Run.each_append, Run.andThen_assoc, Run.andThen_assoc,
    ← injectDeferred_eq, ← injectStaticTargets_eq, ← hcreate]
  rfl

/-- A build succeeds exactly when its steps do. -/
theorem start_eq_ok_iff :
    c.start s = some (.ok (), s') ↔
      ∃ t, c.Performs c.buildSteps s t ∧
        s' = t.inWorld (t.world.log (.built (c.stats t.memory))) := by
  rw [start_eq, Run.andThen]
  simp only [performs_iff]
  rcases Run.each c.perform c.buildSteps s with _ | ⟨_ | ⟨⟩, t⟩
  · simp
  · simp
  · constructor
    · intro h
      cases h
      exact ⟨t, rfl, rfl⟩
    · rintro ⟨_, ⟨⟩, rfl⟩
      rfl

/-- A build fails exactly when one of its steps does, after those before it. -/
theorem start_eq_error_iff {e : ConfigurationError} :
    c.start s = some (.error e, s') ↔
      ∃ pre step post t source, c.buildSteps = pre ++ step :: post ∧ c.Performs pre s t ∧
        step.run c t = some (.error source, s') ∧ e = step.blame source := by
  have heach : c.start s = some (.error e, s') ↔
      Run.each c.perform c.buildSteps s = some (.error e, s') := by
    rw [start_eq, Run.andThen]
    rcases Run.each c.perform c.buildSteps s with _ | ⟨_ | ⟨⟩, t⟩
    · simp
    · simp
    · constructor
      · intro h
        cases h
      · intro h
        cases h
  rw [heach, Run.each_eq_error_iff]
  simp only [performs_iff, perform_eq_error]
  constructor
  · rintro ⟨pre, step, post, t, heq, hpre, source, hrun, he⟩
    exact ⟨pre, step, post, t, source, heq, hpre, hrun, he⟩
  · rintro ⟨pre, step, post, t, source, heq, hpre, hrun, he⟩
    exact ⟨pre, step, post, t, heq, hpre, source, hrun, he⟩

/-! ### Steps and their stages -/

/-- A step is one that builds of a container may do. -/
def Does (c : Container) : BuildStep → Prop
  | .prepare b d => c.registry.lookup b.key = some b ∧ b.source.deferral = some d
  | .inject cls => cls ∈ c.staticTargets
  | .announce _ => True
  | .create b => c.registry.lookup b.key = some b ∧ c.isAhead b = true

/-- The steps of a build are ones that the container does. -/
theorem does_of_mem {step : BuildStep} (h : step ∈ c.buildSteps) : c.Does step := by
  rcases List.mem_append.mp h with h | h
  · rcases List.mem_append.mp h with h | h
    · obtain ⟨b, hb, hstep⟩ := List.mem_filterMap.mp h
      obtain ⟨d, hd, rfl⟩ := Option.map_eq_some_iff.mp hstep
      exact ⟨Registry.lookup_of_mem hb, hd⟩
    · rcases List.mem_append.mp h with h | h
      · obtain ⟨cls, hcls, rfl⟩ := List.mem_map.mp h
        exact hcls
      · unfold announcement at h
        split at h
        · cases h
        · rw [List.mem_singleton.mp h]
          trivial
  · obtain ⟨b, hb, rfl⟩ := List.mem_map.mp h
    obtain ⟨hb, hahead⟩ := List.mem_filter.mp hb
    exact ⟨Registry.lookup_of_mem hb, hahead⟩

/-- The steps of a build go from stage to stage. -/
theorem pairwise_buildSteps (c : Container) :
    c.buildSteps.Pairwise fun step step' => step.stage ≤ step'.stage := by
  have hfirst : ∀ step ∈ c.registry.toList.filterMap prepareStep?, step.stage = 0 := by
    intro step hstep
    obtain ⟨b, -, hstep⟩ := List.mem_filterMap.mp hstep
    obtain ⟨d, -, rfl⟩ := Option.map_eq_some_iff.mp hstep
    rfl
  have hsecond : ∀ step ∈ c.staticTargets.map BuildStep.inject ++ c.announcement,
      step.stage = 1 := by
    intro step hstep
    rcases List.mem_append.mp hstep with hstep | hstep
    · obtain ⟨cls, -, rfl⟩ := List.mem_map.mp hstep
      rfl
    · unfold announcement at hstep
      split at hstep
      · cases hstep
      · rw [List.mem_singleton.mp hstep]
        rfl
  have hthird : ∀ step ∈ (c.registry.toList.filter c.isAhead).map BuildStep.create,
      step.stage = 2 := by
    intro step hstep
    obtain ⟨b, -, rfl⟩ := List.mem_map.mp hstep
    rfl
  have hsame : ∀ {n : Nat} {steps : List BuildStep}, (∀ step ∈ steps, step.stage = n) →
      steps.Pairwise fun step step' => step.stage ≤ step'.stage := fun h =>
    List.pairwise_of_forall_mem_list fun step hstep step' hstep' =>
      Nat.le_of_eq ((h step hstep).trans (h step' hstep').symm)
  refine List.pairwise_append.mpr ⟨List.pairwise_append.mpr ⟨hsame hfirst, hsame hsecond, ?_⟩,
    hsame hthird, ?_⟩
  · intro step hstep step' hstep'
    rw [hfirst step hstep]
    exact Nat.zero_le _
  · intro step hstep step' hstep'
    rw [hthird step' hstep']
    rcases List.mem_append.mp hstep with hstep | hstep
    · rw [hfirst step hstep]
      exact Nat.zero_le _
    · rw [hsecond step hstep]
      exact Nat.le_succ _

/-- The steps before a step are of no later stage. -/
theorem stage_le_of_before {pre post : List BuildStep} {step : BuildStep}
    (h : c.buildSteps = pre ++ step :: post) : ∀ step' ∈ pre, step'.stage ≤ step.stage := by
  have hpairwise := c.pairwise_buildSteps
  rw [h] at hpairwise
  exact fun step' hstep' =>
    (List.pairwise_append.mp hpairwise).2.2 step' hstep' step List.mem_cons_self

/-- The discipline of entering nothing in the journal that belongs to a stage after the `n`-th. -/
def inStage (n : Nat) : Discipline where
  Inv _ := True
  Step s s' := ∃ es, s.Entered s' es ∧ ∀ e ∈ es, e.stage ≤ n
  Known _ _ := True
  refl s := ⟨[], State.Entered.refl s, fun _ he => nomatch he⟩
  trans := by
    rintro s t u ⟨es, hes, hstage⟩ ⟨fs, hfs, hstage'⟩
    refine ⟨es ++ fs, hes.trans hfs, fun e he => ?_⟩
    exact (List.mem_append.mp he).elim (hstage e) (hstage' e)
  known_step _ h := h

/-- Entries of stages up to the present one may be made. -/
theorem inStage_emit {n : Nat} {e : Event} (he : e.stage ≤ n) (s : State) :
    (inStage n).Moves s (s.inWorld (s.world.emit e)) :=
  ⟨trivial, [e], s.entered_emit e, fun e' he' => by rwa [List.mem_singleton.mp he']⟩

/-- So may those of all of its runs. -/
theorem stages_inStage (n : Nat) : Discipline.Conduct.Stages (inStage n) n := fun _ _ he =>
  Discipline.Ensures.change fun s _ _ => inStage_emit he s

/-- Nothing that is done for a resolution belongs to a later stage than the first. -/
theorem admitsAll_inStage (c : Container) (n : Nat) : (inStage n).AdmitsAll c where
  fresh _ _ := trivial
  mentioned _ _ := trivial
  effect _ h := by
    obtain ⟨es, hes, hmark⟩ := h.entered
    refine ⟨trivial, es, hes, fun e he => ?_⟩
    rw [Event.stage_of_not_isMark (hmark e he)]
    exact Nat.zero_le n
  readiness _ _ := Discipline.Ensures.remember fun s _ _ => ⟨trivial, (inStage n).refl s⟩
  slots _ _ := Discipline.Ensures.remember fun s _ _ => ⟨trivial, (inStage n).refl s⟩
  mark e s he _ := inStage_emit (by rw [he]; exact Nat.zero_le n) s

/-- A step enters nothing that belongs to a later stage than its own. -/
theorem inStage_run {step : BuildStep} (hstep : c.Does step) :
    (inStage step.stage).Allows (step.run c) := by
  have hall := c.admitsAll_inStage step.stage
  have hself := hall.resolve
  cases step with
  | prepare b d =>
    refine (hall.force hself hstep.1 hstep.2).bind fun _ => ?_
    exact Discipline.Ensures.succeed fun _ _ _ => trivial
  | inject cls =>
    exact Discipline.Conduct.injectStatics hall.toAdmits (stages_inStage 1) hself cls
  | announce targets => exact stages_inStage 1 _ Nat.one_ne_zero (Nat.le_refl _)
  | create b =>
    have hlog : (inStage 2).Allows (.log (.creatingAhead b.key)) :=
      stages_inStage 2 _ (Nat.succ_ne_zero 1) (Nat.le_refl _)
    refine hlog.bind fun _ => (hall.resolveBinding hself hstep.1).bind fun _ => ?_
    exact Discipline.Ensures.succeed fun _ _ _ => trivial

/-- Entries of a stage are entries of a later one, too. -/
theorem inStage_mono {n k : Nat} (hnk : n ≤ k) (h : (inStage n).Step s t) :
    (inStage k).Step s t := by
  obtain ⟨es, hes, hstage⟩ := h
  exact ⟨es, hes, fun e he => Nat.le_trans (hstage e he) hnk⟩

/-- Steps that succeed enter nothing that belongs to a later stage than theirs. -/
theorem inStage_performs {n : Nat} {steps : List BuildStep} (h : c.Performs steps s t)
    (hsteps : ∀ step ∈ steps, c.Does step ∧ step.stage ≤ n) : (inStage n).Step s t := by
  induction h with
  | done s => exact (inStage n).refl s
  | next hrun _ ih =>
    obtain ⟨hdoes, hle⟩ := hsteps _ List.mem_cons_self
    obtain ⟨-, hstep, -⟩ := inStage_run hdoes _ trivial trivial _ _ hrun
    exact (inStage n).trans (inStage_mono hle hstep)
      (ih fun step' hstep' => hsteps step' (List.mem_cons_of_mem _ hstep'))

/-- Up to the end of a step, nothing is entered that belongs to a later stage. -/
theorem inStage_upTo {pre post : List BuildStep} {step : BuildStep}
    (h : c.buildSteps = pre ++ step :: post) (hpre : c.Performs pre s t)
    {r : Except ConfigurationError Unit} (hrun : step.run c t = some (r, s')) :
    (inStage step.stage).Step s s' := by
  have hdoes : ∀ step' ∈ pre ++ step :: post, c.Does step' := fun step' hstep' =>
    does_of_mem (by rwa [h])
  have hbefore := inStage_performs hpre fun step' hstep' =>
    ⟨hdoes step' (List.mem_append_left _ hstep'), stage_le_of_before h step' hstep'⟩
  obtain ⟨-, hstep, -⟩ := inStage_run (hdoes step (List.mem_append_right _ List.mem_cons_self))
    t trivial trivial r s' hrun
  exact (inStage step.stage).trans hbefore hstep

/-! ### What is reported -/

/-- What members, providers and objects that are called as providers report, whatever they are
given. -/
structure Reports (c : Container) (E : ConfigurationError → Prop) : Prop where
  /-- Members. -/
  member : ∀ cls, ∀ m ∈ c.classes.members cls, ∀ arguments e,
    (m.action arguments).error = some e → E e
  /-- Providers. -/
  provider : ∀ (b : Binding) ty label outcome n e, c.registry.lookup b.key = some b →
    b.source = .provider (.calls ty label outcome) → outcome n = .error e → E e
  /-- Objects that are called as providers. -/
  supply : ∀ cls outcome id n e, (c.classes.decl cls).supply = .calls outcome →
    outcome cls id n = .error e → E e

/-- Plain classes report nothing but that arguments do not fit. -/
theorem reports_of_plain {c : Container} {E : ConfigurationError → Prop}
    (h : ∀ cls, (c.classes.decl cls).IsPlain)
    (hE : ∀ e : ConfigurationError, e.isMisfit = true → E e)
    (hprovider : ∀ (b : Binding) ty label outcome n e, c.registry.lookup b.key = some b →
      b.source = .provider (.calls ty label outcome) → outcome n = .error e → E e) :
    c.Reports E where
  member cls m hm arguments e he := by
    obtain ⟨tys, haction⟩ := (h cls).member m hm
    rw [haction, Action.reading, Option.or_none] at he
    exact hE e (Arguments.isMisfit_of_readAll he)
  provider := hprovider
  supply cls outcome id n e hsupply he := absurd he ((h cls).supply outcome hsupply cls id n e)

/-- The contract of reporting only errors of which `E` holds, while `P` holds of what is remembered
of deferred bindings. -/
def reporting (c : Container) (P : (Key → Readiness) → Prop) (E : ConfigurationError → Prop) :
    Contract where
  Inv s := s.Faithful c ∧ P s.memory.readiness
  Step _ _ := True
  total := False
  Error := E
  Fits _ _ _ := True
  refl _ := trivial
  trans _ _ := trivial
  fits_step _ h := h

/-- A container reports what it comes to by itself, and what its classes and providers report. -/
theorem governsAll_reporting {P : (Key → Readiness) → Prop} {E : ConfigurationError → Prop}
    (h : c.Reports E)
    (hlack : ∀ e : ConfigurationError, e.isLack = true →
      (∀ key requiredBy, e = .missingBinding key requiredBy → c.Misses key requiredBy) → E e)
    (hmistyped : ∀ expected actual, E (.typeMismatch expected actual))
    (hforces : (c.reporting P E).Governs c → ∀ {self : Dependency → Run Instance} {b : Binding},
      c.registry.lookup b.key = some b →
      (∀ e, c.SourceNeeds b.source e → (c.reporting P E).Gives e.key.ty (self e)) →
      Contract.Compliance.Forces (c.reporting P E) c self b) : (c.reporting P E).GovernsAll c := by
  have hfaithful := c.admitsAll_faithful
  have hgoverns : (c.reporting P E).Governs c :=
    { faithful := fun hs => hs.1
      effect := fun hs heffect => by
        refine ⟨⟨(hfaithful.effect hs.1 (heffect.mono fun _ h => h.elim)).1, ?_⟩, trivial⟩
        have hP := hs.2
        unfold Memory.readiness at hP ⊢
        rwa [heffect.deferred]
      held := fun _ _ => trivial
      plain := fun _ _ => trivial
      fresh := fun _ _ _ => trivial
      provided := fun _ _ _ => trivial
      provider := fun _ _ _ _ => trivial
      replaced := fun _ _ _ _ => trivial
      lack := hlack
      mistyped := fun _ _ _ => hmistyped _ _
      member := fun _ hcat hm _ he => h.member _ _ (ClassTable.mem_members hcat hm) _ _ he
      failure := fun hb hp he => h.provider _ _ _ _ _ _ hb hp he
      supply := fun hsupply he => h.supply _ _ _ _ _ hsupply he }
  exact
    { hgoverns with
      endless := fun h => h
      mark := fun _ _ hs => ⟨hs, trivial⟩
      slots := fun _ _ hs _ => ⟨hs, trivial⟩
      attributes := fun _ _ _ hs _ _ => ⟨hs, trivial⟩
      contexts := fun _ _ _ hs _ => ⟨hs, trivial⟩
      forces := hforces hgoverns }

/-- Whatever is remembered of deferred bindings, a container reports that some of them are
unavailable, what else it comes to by itself, and what its classes and providers report. -/
theorem governsAll_reporting_any {E : ConfigurationError → Prop} (h : c.Reports E)
    (hlack : ∀ e : ConfigurationError, e.isLack = true →
      (∀ key requiredBy, e = .missingBinding key requiredBy → c.Misses key requiredBy) → E e)
    (hmistyped : ∀ expected actual, E (.typeMismatch expected actual))
    (hunavailable : ∀ key, E (unavailable key)) :
    (c.reporting (fun _ => True) E).GovernsAll c := by
  refine governsAll_reporting h hlack hmistyped fun hgoverns _ _ hb hself => ?_
  have hmark : ∀ e, (c.reporting (fun _ => True) E).Allows (.emit e) := fun _ =>
    Contract.Meets.change fun _ hs _ => ⟨hs, trivial⟩
  exact Contract.Compliance.force hgoverns (fun h => h)
    (fun _ _ _ _ _ hs _ => ⟨⟨hs.1, trivial⟩, trivial⟩) hb (fun e _ => hmark e) (hunavailable _)
    hself

end Container

/-- A build keeps to a contract if its steps do, and errors of steps may be wrapped. -/
theorem Contract.Compliance.start {K : Contract} {c : Container}
    (hsteps : ∀ step, c.Does step → K.Allows (step.run c))
    (hblame : ∀ (step : BuildStep) e, K.Error e → K.Error (step.blame e))
    (hbuilt : ∀ stats, K.Allows (.log (.built stats))) : K.Allows c.start := by
  rw [Container.start_eq]
  refine Meets.bind (Meets.each fun step hstep => ?_) fun _ => ?_
  · exact Meets.mapError (hsteps step (Container.does_of_mem hstep)) (hblame step)
  · exact Meets.bind (V := fun _ _ => True) (Meets.read fun _ _ _ => trivial) fun _ => hbuilt _

namespace Contract.GovernsAll

variable {K : Contract} {c : Container} (h : K.GovernsAll c)
include h

/-- Steps of builds keep to a contract that allows everything. -/
theorem step {step : BuildStep} (hstep : c.Does step) : K.Allows (step.run c) := by
  have hstages : Compliance.Stages K 1 := fun e he _ =>
    h.emits (Event.use?_of_stage he) (Event.outcome?_of_stage he)
  cases step with
  | prepare b d =>
    refine Meets.bind (h.forces hstep.1 (fun e _ => h.resolve e) d hstep.2) fun _ => ?_
    exact Meets.succeed fun _ _ _ => trivial
  | inject cls => exact Compliance.injectStatics h.toGoverns hstages fun e _ => h.resolve e
  | announce targets => exact h.emits rfl rfl
  | create b =>
    refine Meets.bind (h.emits rfl rfl) fun _ => ?_
    refine Meets.bind (h.resolveBinding hstep.1 fun e _ => h.resolve e) fun _ => ?_
    exact Meets.succeed fun _ _ _ => trivial

/-- Steps that succeed keep to a contract that allows everything. -/
theorem performs {s t : State} {steps : List BuildStep} (hperforms : c.Performs steps s t)
    (hsteps : ∀ step ∈ steps, c.Does step) (hs : K.Inv s) : K.Moves s t := by
  induction hperforms with
  | done s => exact .refl hs
  | next hrun _ ih =>
    have hmoves := (h.step (hsteps _ List.mem_cons_self)).moves hs trivial hrun
    exact hmoves.trans
      (ih (fun step hstep => hsteps step (List.mem_cons_of_mem _ hstep)) hmoves.1)

/-- Builds keep to a contract that allows everything, if errors of steps may be wrapped. -/
theorem start (hblame : ∀ (step : BuildStep) e, K.Error e → K.Error (step.blame e)) :
    K.Allows c.start := Compliance.start (fun _ => h.step) hblame fun _ => h.emits rfl rfl

end Contract.GovernsAll

/-! ### Operations -/

namespace Container

variable {c : Container} {s s' : State} {e : ConfigurationError}

/-- Something that is done with a container fails. -/
inductive Fails (c : Container) (s : State) (e : ConfigurationError) : Prop where
  /-- A dependency is resolved. -/
  | resolve {d : Dependency} {s' : State} : c.resolve d s = some (.error e, s') → Fails c s e
  /-- An instance is asked for as one of a type. -/
  | get {ty : Ty} {d : Dependency} {s' : State} :
    c.getAs ty d s = some (.error e, s') → Fails c s e
  /-- Members are injected into an object. -/
  | inject {cls target : ClassPath} {id : Nat} {s' : State} :
    c.injectMembers cls target id s = some (.error e, s') → Fails c s e
  /-- It is asked whether a dependency can be resolved. -/
  | ask {d : Dependency} {s' : State} : c.canResolve d s = some (.error e, s') → Fails c s e

/-- What is done with a container keeps to each contract that resolutions keep to, if mismatched
types may be reported. -/
theorem Operates.follows {K : Contract} (hgoverns : K.Governs c)
    (hself : ∀ d, K.Gives d.key.ty (c.resolve d))
    (hmistyped : ∀ expected actual, K.Error (.typeMismatch expected actual)) (hs : K.Inv s)
    (hoperates : c.Operates s s') : K.Moves s s' := by
  cases hoperates with
  | @resolve d _ hrun => exact (hself d).moves hs trivial hrun
  | @get ty d _ hrun =>
    exact (Contract.Compliance.getAnyAs hmistyped ty (hself d)).moves hs trivial hrun
  | @inject cls target id _ hrun =>
    have hinject := Contract.Compliance.injectAny hgoverns hmistyped hself cls target id
    exact hinject.moves hs trivial hrun
  | @ask d _ hrun => exact (hgoverns.canResolve d).moves hs trivial hrun

/-- What is done with a container keeps to each contract that allows everything, if mismatched types
may be reported. -/
theorem Operates.keeps {K : Contract} (h : K.GovernsAll c)
    (hmistyped : ∀ expected actual, K.Error (.typeMismatch expected actual)) (hs : K.Inv s)
    (hoperates : c.Operates s s') : K.Moves s s' :=
  hoperates.follows h.toGoverns h.resolve hmistyped hs

/-- What is reported by what is done with a container, if mismatched types may be reported. -/
theorem Fails.reports {K : Contract} (h : K.GovernsAll c)
    (hmistyped : ∀ expected actual, K.Error (.typeMismatch expected actual)) (hs : K.Inv s)
    (hfails : c.Fails s e) : K.Error e := by
  cases hfails with
  | @resolve d _ hrun => exact (h.resolve d).error hs trivial hrun
  | @get ty d _ hrun =>
    exact (Contract.Compliance.getAnyAs hmistyped ty (h.resolve d)).error hs trivial hrun
  | @inject cls target id _ hrun =>
    exact (Contract.Compliance.injectAny h.toGoverns hmistyped h.resolve cls target id).error hs
      trivial hrun
  | @ask d _ hrun => exact (h.canResolve d).error hs trivial hrun

/-- The error of a step that is no wrapper is wrapped once. -/
theorem depth_blame {step : BuildStep} {source : ConfigurationError}
    (hsource : source.isWrapper = false) (hstep : (step.blame source).isWrapper = true) :
    (step.blame source).depth = 1 := by
  have hdepth : source.depth = 0 := by
    by_contra hne
    rw [(source.isWrapper_iff_depth_pos).mpr (Nat.pos_of_ne_zero hne)] at hsource
    cases hsource
  cases step with
  | announce n =>
    rw [BuildStep.blame, hsource] at hstep
    cases hstep
  | _ => simp [BuildStep.blame, ConfigurationError.depth, hdepth]

/-- A step that fails is blamed with an error that names it. -/
theorem isWrapper_blame {step : BuildStep} {source : ConfigurationError}
    (h : step.run c s = some (.error source, s')) : (step.blame source).isWrapper = true := by
  cases step with
  | announce n => cases h
  | _ => rfl

/-- A container whose classes and providers report no errors of builds does not come to such errors
by itself. -/
theorem governsAll_unwrapped (h : c.Reports fun e => e.isWrapper = false) :
    (c.reporting (fun _ => True) fun e => e.isWrapper = false).GovernsAll c := by
  refine governsAll_reporting_any h (fun e he _ => ?_) (fun _ _ => rfl) fun _ => rfl
  cases e <;> first | rfl | cases he

end Container

/-! ### Builds -/

namespace Builder

/-- How the builds of a builder go. -/
structure BuildsInStages (b : Builder) (classes : ClassTable) (w : World) : Prop where
  /-- A build succeeds exactly when all of its steps do, one after another. -/
  success : ∀ r w', b.build classes w = some (.ok r, w') ↔ ∃ t,
    (b.container classes).Performs (b.container classes).buildSteps (b.opening classes w) t ∧
      r = ⟨b.container classes, t.memory⟩ ∧
      w' = t.world.log (.built ((b.container classes).stats t.memory))
  /-- A build fails exactly when one of its steps does after those before it have succeeded. It
  reports the error of that step as one of the step, and does nothing else. -/
  failure : ∀ e w', b.build classes w = some (.error e, w') ↔ ∃ pre step post t source s',
    (b.container classes).buildSteps = pre ++ step :: post ∧
      (b.container classes).Performs pre (b.opening classes w) t ∧
      step.run (b.container classes) t = some (.error source, s') ∧
      e = step.blame source ∧ w' = s'.world
  /-- The error that is reported says which step it was. -/
  named : ∀ e w', b.build classes w = some (.error e, w') → e.isWrapper = true
  /-- Until a step is done, nothing is entered in the journal that belongs to a later stage. -/
  stages : ∀ pre step post t r s',
    (b.container classes).buildSteps = pre ++ step :: post →
      (b.container classes).Performs pre (b.opening classes w) t →
      step.run (b.container classes) t = some (r, s') →
      ∃ es, (b.opening classes w).Entered s' es ∧ ∀ e ∈ es, e.stage ≤ step.stage

/-- A container is built in stages. -/
theorem buildsInStages (b : Builder) (classes : ClassTable) (w : World) :
    b.BuildsInStages classes w where
  success r w' := by
    rw [build_eq_ok_iff, Container.start_eq_ok_iff]
    constructor
    · rintro ⟨hcontainer, t, hperforms, ht⟩
      obtain ⟨c, m⟩ := r
      cases hcontainer
      cases ht
      exact ⟨t, hperforms, rfl, rfl⟩
    · rintro ⟨t, hperforms, rfl, rfl⟩
      exact ⟨rfl, t, hperforms, rfl⟩
  failure e w' := by
    rw [build_eq_error_iff]
    constructor
    · rintro ⟨s, hrun, rfl⟩
      obtain ⟨pre, step, post, t, source, hsteps, hpre, hstep, he⟩ :=
        Container.start_eq_error_iff.mp hrun
      exact ⟨pre, step, post, t, source, s, hsteps, hpre, hstep, he, rfl⟩
    · rintro ⟨pre, step, post, t, source, s, hsteps, hpre, hstep, he, rfl⟩
      exact ⟨s, Container.start_eq_error_iff.mpr
        ⟨pre, step, post, t, source, hsteps, hpre, hstep, he⟩, rfl⟩
  named e w' h := by
    obtain ⟨s, hrun, rfl⟩ := build_eq_error_iff.mp h
    obtain ⟨_, step, _, t, source, -, -, hstep, rfl⟩ := Container.start_eq_error_iff.mp hrun
    exact Container.isWrapper_blame hstep
  stages _ _ _ _ _ _ hsteps hpre hrun := Container.inStage_upTo hsteps hpre hrun

/-- Builds go in stages and blame the first step that fails. The steps come in the order in which
keys are first bound and static injection is first requested. Where nothing that the container is
given reports errors of builds, the error of a build wraps one error, and only builds report
such errors. -/
theorem build_in_stages (config : ContainerConfig) (ss : List Statement) (classes : ClassTable)
    (w : World) :
    let b := ((ofConfig config).install ss w).1
    let c := b.container classes
    let built := ((ofConfig config).install ss w).2
    b.BuildsInStages classes built ∧
      c.registry.keys = (boundKeys ss).eraseDups ∧
      c.staticTargets = (requestedClasses ss).eraseDups ∧
      (c.Reports (fun e => e.isWrapper = false) →
        (∀ e w', b.build classes built = some (.error e, w') → e.depth = 1) ∧
        ∀ s e, c.InUse s → c.Fails s e → e.isWrapper = false) := by
  intro b c built
  have hstages := b.buildsInStages classes built
  refine ⟨hstages, keys_container .., staticTargets_container .., fun hreports => ?_⟩
  have hgoverns := Container.governsAll_unwrapped hreports
  refine ⟨fun e w' he => ?_, fun s e hs hfails =>
    hfails.reports hgoverns (fun _ _ => rfl) ⟨hs.faithful, trivial⟩⟩
  have hwrapper := hstages.named e w' he
  obtain ⟨pre, step, post, t, source, s', hsteps, hpre, hstep, rfl, -⟩ :=
    (hstages.failure e w').mp he
  have hdoes : ∀ step' ∈ pre ++ step :: post, c.Does step' := fun step' hstep' =>
    Container.does_of_mem (by rwa [hsteps])
  have hmoves := hgoverns.performs hpre
    (fun step' hstep' => hdoes step' (List.mem_append_left _ hstep'))
    ⟨c.faithful_initial _, trivial⟩
  have hsource := (hgoverns.step (hdoes step (by simp))).error hmoves.1 trivial hstep
  exact Container.depth_blame hsource hwrapper

/-- A mill with a wheel, and a miller, whose class needs a name that is not bound. -/
def mill : List Statement :=
  [.bind (.component "Wheel") none [] [.asEagerSingleton] .constructor,
    .bind (.component "Mill") none [] [] .injectableInstance,
    .injectStatic "Miller"]

/-- The classes of the mill. -/
def millClasses : ClassTable := .ofList
  [("Wheel", ⟨[.constructor "Wheel" (.reading [] none)], [], .fresh fun _ => none⟩),
    ("Mill", ⟨[.field "Mill" "wheel" (.injectable "Wheel")], [], .fresh fun _ => none⟩),
    ("Miller", ⟨[.staticField "Miller" "name" (.ofTy .text)], [], .fresh fun _ => none⟩)]

/-- The classes of the mill do nothing but read their arguments. -/
theorem isPlain_millClasses (cls : ClassPath) : (millClasses.decl cls).IsPlain := by
  refine ClassTable.decl_ofList (P := fun _ decl => decl.IsPlain)
    (fun _ => ClassDecl.isPlain_none) ?_ cls
  simp only [List.forall_mem_cons, List.not_mem_nil, false_imp_iff, implies_true, and_true]
  refine ⟨ClassDecl.isPlain_of_members ?_, ClassDecl.isPlain_of_members ?_,
    ClassDecl.isPlain_of_members ?_⟩
  all_goals
    simp only [List.forall_mem_cons, List.not_mem_nil, false_imp_iff, implies_true, and_true]
    exact ⟨_, rfl⟩

/-- The mill reports no errors of builds by itself. -/
theorem reports_mill :
    (((ofConfig .standard).install mill .new).1.container millClasses).Reports
      fun e => e.isWrapper = false := by
  refine Container.reports_of_plain isPlain_millClasses (fun e he => ?_)
    fun b ty label outcome n e hb hsource _ => ?_
  · cases e <;> first | rfl | cases he
  · have hdefinitions : ((ofConfig .standard).install mill .new).1.draft.definitions =
        [⟨.ofTy (.component "Wheel"), .constructor "Wheel", .singleton, true⟩,
          ⟨.ofTy (.component "Mill"), .injected (.once "Mill" 0), .unscoped, false⟩] := rfl
    have hmem := Draft.mem_of_lookup hb
    rw [hdefinitions] at hmem
    rcases List.mem_cons.mp hmem with rfl | hmem
    · cases hsource
    · rw [List.mem_singleton.mp hmem] at hsource
      cases hsource

/-- The mill gets its wheel, and then the build fails with the one error that is due to the
miller. -/
theorem mill_blames_miller : ∃ e w',
    ((ofConfig .standard).install mill .new).1.build millClasses
        ((ofConfig .standard).install mill .new).2 = some (.error e, w') ∧
      e = .staticInjection "Miller" (.missingBinding "Key[String]" "Miller.name") ∧
      e.depth = 1 := by
  have hrun : (((ofConfig .standard).install mill .new).1.build millClasses
      ((ofConfig .standard).install mill .new).2).map (fun r => r.1.map fun _ => ()) =
      some (.error (.staticInjection "Miller" (.missingBinding "Key[String]" "Miller.name"))) := by
    decide +kernel
  obtain ⟨⟨r, w'⟩, hbuild, hr⟩ := Option.map_eq_some_iff.mp hrun
  cases r with
  | ok r => cases hr
  | error e =>
    cases hr
    have hstages := build_in_stages .standard mill millClasses .new
    exact ⟨_, w', hbuild, rfl, (hstages.2.2.2 reports_mill).1 _ w' hbuild⟩

end Builder

end Wiring
