import Mathlib.Data.Option.Basic
import Wiring.Proofs.Concord
import Wiring.Proofs.Deferred
import Wiring.Proofs.Depth
import Wiring.Proofs.Growth
import Wiring.Proofs.Keeping

/-!
# What a Resolution Comes To Is Fixed

In a steady container without circles, what a dependency is resolved to does not depend on what was
resolved before: from any two states that have grown from a common one, both resolutions fail, or
both succeed with instances that differ at most in counts and identities. If all deferred bindings
were ready in the common state, then both fail with the same error. If not, the errors may differ:
the first use of a deferred binding reports why its injection fails, and later uses only that it
failed.

## Conventions

The proof goes through the functions of a container one by one, each for two runs that resolve what
is needed along the way in two ways. Where an instance may be kept, one run may find it and the
other have it supplied. That comes to the same, for what is found could have been supplied to begin
with. A deferred binding may have been used by one of them only. That comes to the same, too, if it
injects an object that is there: one that is made at the first use would not be the same.

## Main statements

* `Container.Accord`: two runs come to the same.
* `Container.Even`: two ways to resolve a dependency come to the same.
* `Container.concord_construct`, `Container.concord_provision`, `Container.concord_withinScope`: so
  does what is put together from them.
* `Container.concord_force`: so does the use of deferred bindings.
* `Container.even_resolveWithin`: resolutions come to the same, within any two depths.
-/

namespace Wiring

namespace Container

/-- Two errors are taken for the same. They have to be the same once all deferred bindings are
ready. Before that, only the first use of a binding whose injection fails reports why. -/
def SameError (c : Container) (s₀ : State) (e e' : ConfigurationError) : Prop :=
  c.AllReady s₀.memory.readiness → e = e'

/-- Two runs come to the same, from whatever states have grown from `s₀`. -/
abbrev Accord {α β : Type} (c : Container) (s₀ : State) (Q : α → β → Prop) (x : Run α)
    (y : Run β) : Prop :=
  Concord (c.SameError s₀) (c.Grown s₀) Q x y

variable {c : Container} {s₀ : State} {self self' : Dependency → Run Instance} {α β : Type}

/-- Two errors that are the same as a third one are the same. -/
theorem SameError.join {e e' e₀ : ConfigurationError} (h : c.SameError s₀ e e₀)
    (h' : c.SameError s₀ e' e₀) : c.SameError s₀ e e' := fun hall => (h hall).trans (h' hall).symm

/-- The same error is in accord. -/
theorem concord_fail {Q : α → β → Prop} (e : ConfigurationError) :
    c.Accord s₀ Q (.fail e) (.fail e) := Concord.fail fun _ => rfl

/-! ### Changes -/

/-- What is done to the world by changes need not be the same. -/
theorem concord_act {f : World → α × World} {g : World → β × World} {Q : α → β → Prop}
    (hf : ∀ s : State, c.Changes s (s.inWorld (f s.world).2))
    (hg : ∀ s : State, c.Changes s (s.inWorld (g s.world).2))
    (h : ∀ s t, c.Grown s₀ s → c.Grown s₀ t → Q (f s.world).1 (g t.world).1) :
    c.Accord s₀ Q (.act f) (.act g) :=
  Concord.act (fun s hs => hs.changes (hf s)) (fun s hs => hs.changes (hg s)) h

/-- Entries in the journal are in accord, whatever they tell. -/
theorem concord_emit (e e' : Event) :
    c.Accord s₀ (fun _ _ => True) (.emit e) (.emit e') :=
  Concord.change (fun _ hs => hs.emit e) fun _ hs => hs.emit e'

/-- What is told of a run does not matter. -/
theorem concord_noting {Q : α → β → Prop} {x : Run α} {y : Run β}
    {f : Except ConfigurationError α → Event} {g : Except ConfigurationError β → Event}
    (h : c.Accord s₀ Q x y) : c.Accord s₀ Q (x.noting f) (y.noting g) :=
  h.noting fun _ e hs => hs.emit e

/-- Instances that are made for one label. -/
theorem concord_makeInstance {Q : Instance → Instance → Prop} (ty : Ty) (label label' : String)
    (h : ∀ i j : Instance, i.value.MadeFor ty label → j.value.MadeFor ty label' → Q i j) :
    c.Accord s₀ Q (.act (·.makeInstance ty label)) (.act (·.makeInstance ty label')) :=
  concord_act (c.changes_makeInstance · ty label) (c.changes_makeInstance · ty label')
    fun s t _ _ => h _ _ (s.world.madeFor_makeInstance ty label)
      (t.world.madeFor_makeInstance ty label')

/-- Instances that are made of values are in accord if the values are. -/
theorem concord_wrap {Q : Instance → Instance → Prop} (v v' : Value)
    (h : ∀ i j : Instance, i.value = v → j.value = v' → Q i j) :
    c.Accord s₀ Q (.act (·.wrap v)) (.act (·.wrap v')) :=
  concord_act (fun _ => .single (.wrap v)) (fun _ => .single (.wrap v')) fun _ _ _ _ =>
    h _ _ rfl rfl

/-! ### Classes -/

/-- The same catalog is found. -/
theorem concord_catalog (cls : ClassPath) :
    c.Accord s₀ (fun cat cat' => cat = cat' ∧ c.classes.catalog cls = .ok cat)
      (c.catalog cls) (c.catalog cls) := by
  intro s t hs ht r s' r' t' hr hr'
  obtain ⟨u, hu, hchanges⟩ := catalog_run cls hs.faithful
  obtain ⟨v, hv, hchanges'⟩ := catalog_run cls ht.faithful
  rw [hu] at hr
  rw [hv] at hr'
  cases hr
  cases hr'
  refine ⟨hs.changes hchanges, ht.changes hchanges', ?_⟩
  cases c.classes.catalog cls with
  | error e => exact fun _ => rfl
  | ok cat => exact ⟨rfl, rfl⟩

/-- The same dependency is the first that is not available. -/
theorem concord_firstUnavailable (ds : List Dependency) :
    c.Accord s₀ Eq (c.firstUnavailable ds) (c.firstUnavailable ds) := by
  intro s t hs ht r s' r' t' hr hr'
  have hs' : c.Grown s₀ s' := by
    cases hr
    exact hs.changes (c.changes_firstUnavailable s ds)
  have ht' : c.Grown s₀ t' := by
    cases hr'
    exact ht.changes (c.changes_firstUnavailable t ds)
  obtain ⟨_, -, hu⟩ := c.firstUnavailable_eq ds hs.faithful
  obtain ⟨_, -, hv⟩ := c.firstUnavailable_eq ds ht.faithful
  rw [hu] at hr
  rw [hv] at hr'
  cases hr
  cases hr'
  exact ⟨hs', ht', rfl⟩

/-- The same can be resolved. -/
theorem concord_canResolve (d : Dependency) :
    c.Accord s₀ Eq (c.canResolve d) (c.canResolve d) := by
  rintro s t hs ht _ _ _ _ ⟨⟩ ⟨⟩
  refine ⟨hs.changes (c.changes_available s d), ht.changes (c.changes_available t d), ?_⟩
  exact (c.available_fst d hs.faithful).trans (c.available_fst d ht.faithful).symm

/-! ### Arguments -/

/-- Two ways to resolve a dependency come to the same, from whatever states have grown from `s₀`. -/
def Even (c : Container) (s₀ : State) (self self' : Dependency → Run Instance) (d : Dependency) :
    Prop :=
  c.Accord s₀ (c.Akin d) (self d) (self' d)

/-- What a member requires is in accord. -/
theorem concord_resolveRequired {d : Dependency} (hd : c.Even s₀ self self' d) (member : String) :
    c.Accord s₀ (c.Akin d) (c.resolveRequired self member d)
      (c.resolveRequired self' member d) := by
  unfold resolveRequired
  split
  · exact hd
  · exact concord_fail _

/-- So are its arguments. -/
theorem concord_arguments {ds : List Dependency} (hds : ∀ d ∈ ds, c.Even s₀ self self' d)
    (member : String) :
    c.Accord s₀ (c.AkinAll ds) (Run.collect (c.resolveRequired self member) ds)
      (Run.collect (c.resolveRequired self' member) ds) := by
  induction ds with
  | nil => exact Concord.succeed .nil
  | cons d ds ih =>
    refine (concord_resolveRequired (hds d List.mem_cons_self) member).bind fun i j hij => ?_
    refine (ih fun e he => hds e (List.mem_cons_of_mem d he)).bind fun is js hall => ?_
    exact Concord.succeed (.cons hij hall)

/-- So are the arguments of a member that may be optional. -/
theorem concord_argumentsFor {ds : List Dependency} (hds : ∀ d ∈ ds, c.Even s₀ self self' d)
    (member : String) (optional : Bool) :
    c.Accord s₀ (Option.Rel (c.AkinAll ds)) (c.argumentsFor self member ds optional)
      (c.argumentsFor self' member ds optional) := by
  have hrequired : c.Accord s₀ (Option.Rel (c.AkinAll ds))
      (c.argumentsFor self member ds false) (c.argumentsFor self' member ds false) := by
    rw [argumentsFor_required, argumentsFor_required]
    exact (concord_arguments hds member).bind fun _ _ hall => Concord.succeed (.some hall)
  cases optional with
  | false => exact hrequired
  | true =>
    rw [argumentsFor_optional, argumentsFor_optional]
    refine (concord_firstUnavailable ds).bind ?_
    rintro d _ rfl
    cases d with
    | none => exact hrequired
    | some d => exact (concord_emit _ _).bind fun _ _ _ => Concord.succeed .none

/-! ### Members -/

section

variable (hsteady : c.Steady)
include hsteady

/-- A member fails for both of two lists of arguments, or for neither. -/
theorem concord_attemptCall {cls : ClassPath} {m : Member} (hm : m ∈ c.classes.members cls)
    {is js : List Instance} (hall : c.AkinAll m.dependencies is js) (name : String) :
    c.Accord s₀ (fun _ _ => True) (attemptCall m (.ofList name is))
      (attemptCall m (.ofList name js)) := by
  unfold attemptCall
  dsimp only
  refine Concord.bind (Q := fun _ _ => True) (Concord.read fun _ _ _ _ => trivial) fun _ _ _ => ?_
  refine (concord_emit _ _).bind fun _ _ _ => ?_
  rw [hsteady.member cls m hm name is js hall]
  cases (m.action (.ofList name js)).error with
  | none => exact Concord.succeed trivial
  | some e => exact concord_fail e

/-- Members that are run with akin arguments come to the same. -/
theorem concord_runMember {cls : ClassPath} {m : Member} (hm : m ∈ c.classes.members cls)
    {is js : List Instance} (hall : c.AkinAll m.dependencies is js) (name : String)
    (path : List ClassPath) (target : ClassPath) (id id' : Nat) :
    c.Accord s₀ (fun _ _ => True) (runMember cls m path target id (.ofList name is))
      (runMember cls m path target id' (.ofList name js)) := by
  by_cases htarget : target = cls
  · subst htarget
    rw [runMember_self, runMember_self]
    refine Concord.bind (Q := fun _ _ => True) ?_ fun part part' _ => ?_
    · exact concord_act (c.changes_partAlong · id path) (c.changes_partAlong · id' path)
        fun _ _ _ _ => trivial
    refine (concord_attemptCall hsteady hm hall name).bind fun call call' _ => ?_
    refine Concord.bind (Q := fun _ _ => True) ?_ fun _ _ _ => concord_emit _ _
    exact Concord.change (fun s hs => hs.changes (c.changes_record s part call))
      fun s hs => hs.changes (c.changes_record s part' call')
  · rw [runMember_of_ne htarget, runMember_of_ne htarget]
    exact concord_fail _

/-- The members of two objects of a class. -/
theorem concord_injectPoints {cls : ClassPath} {cat : Catalog}
    (hcat : c.classes.catalog cls = .ok cat)
    (hcls : ∀ e, c.InjectionNeeds cls e → c.Even s₀ self self' e) (target : ClassPath)
    (id id' : Nat) :
    c.Accord s₀ (fun _ _ => True) (c.injectPoints self cat target id)
      (c.injectPoints self' cat target id') := by
  refine Concord.each fun m hm => ?_
  have hmember : m ∈ c.classes.members cat.cls := by
    rw [(ClassTable.catalog_eq_ok hcat).1]
    exact ClassTable.mem_members hcat (List.mem_append_left _ (List.mem_append_right _ hm))
  unfold injectPoint
  split
  · next _ path _ =>
    refine (concord_argumentsFor (fun d hd => hcls d ⟨cat, hcat, m, hm, hd⟩) _ _).bind ?_
    rintro _ _ (hall | _)
    · exact concord_runMember hsteady hmember hall _ path target id id'
    · exact Concord.succeed trivial
  · exact Concord.succeed trivial

omit hsteady in
/-- The same constructor is found. -/
theorem concord_constructorOf (cat : Catalog) :
    c.Accord s₀ (fun m m' => m = m' ∧ cat.constructor = some m) (constructorOf cat)
      (constructorOf cat) := by
  unfold constructorOf
  cases cat.constructor with
  | none => exact concord_fail _
  | some m => exact Concord.succeed ⟨rfl, rfl⟩

/-- Constructors that are run with akin arguments come to the same. -/
theorem concord_runConstructor {cls : ClassPath} {m : Member} (hm : m ∈ c.classes.members cls)
    {is js : List Instance} (hall : c.AkinAll m.dependencies is js) (name : String) :
    c.Accord s₀ (fun _ _ => True) (runConstructor cls m (.ofList name is))
      (runConstructor cls m (.ofList name js)) := by
  unfold runConstructor
  refine (concord_attemptCall hsteady hm hall name).bind fun call call' _ => ?_
  refine Concord.bind (Q := fun _ _ => True) ?_ fun id id' _ => ?_
  · exact concord_act (c.changes_addObject · _ _) (c.changes_addObject · _ _)
      fun _ _ _ _ => trivial
  · exact (concord_emit _ _).bind fun _ _ _ => Concord.succeed trivial

/-- Two objects of a class are constructed. -/
theorem concord_construct {cls : ClassPath}
    (hcls : ∀ e, c.ConstructionNeeds cls e → c.Even s₀ self self' e) :
    c.Accord s₀ (c.SourceAkin (.constructor cls)) (c.construct self cls)
      (c.construct self' cls) := by
  unfold construct
  refine (concord_catalog cls).bind ?_
  rintro cat _ ⟨rfl, hcat⟩
  refine (concord_constructorOf cat).bind ?_
  rintro m _ ⟨rfl, hm⟩
  have hmember : m ∈ c.classes.members cat.cls := by
    rw [(ClassTable.catalog_eq_ok hcat).1]
    refine ClassTable.mem_members hcat (List.mem_append_left _ (List.mem_append_left _ ?_))
    rw [hm]
    exact List.mem_singleton_self m
  refine (concord_arguments (fun d hd => hcls d (.inr ⟨cat, m, hcat, hm, hd⟩)) _).bind ?_
  intro is js hall
  refine (concord_emit _ _).bind fun _ _ _ => ?_
  refine (concord_runConstructor hsteady hmember hall _).bind fun id id' _ => ?_
  have hpoints := concord_injectPoints hsteady hcat (fun e he => hcls e (.inl he)) cls id id'
  refine hpoints.bind fun _ _ _ => concord_wrap _ _ fun i j hi hj => ?_
  exact .inr ⟨⟨id, hi⟩, ⟨id', hj⟩⟩

/-- The members that a class declares, for two objects. -/
theorem concord_injectObject {cls : ClassPath}
    (hcls : ∀ e, c.InjectionNeeds cls e → c.Even s₀ self self' e) (target : ClassPath)
    (id id' : Nat) :
    c.Accord s₀ (fun _ _ => True) (c.injectObject self cls target id)
      (c.injectObject self' cls target id') := by
  unfold injectObject
  refine (concord_catalog cls).bind ?_
  rintro cat _ ⟨rfl, hcat⟩
  exact concord_injectPoints hsteady hcat hcls target id id'

/-- The static members of a class. -/
theorem concord_injectStatics {cls : ClassPath}
    (hcls : ∀ e, c.StaticNeeds cls e → c.Even s₀ self self' e) :
    c.Accord s₀ (fun _ _ => True) (c.injectStatics self cls) (c.injectStatics self' cls) := by
  unfold injectStatics
  refine (concord_catalog cls).bind ?_
  rintro cat _ ⟨rfl, hcat⟩
  refine Concord.each fun m hm => ?_
  have hmember : m ∈ c.classes.members cls :=
    ClassTable.mem_members hcat (List.mem_append_right _ hm)
  unfold injectStaticPoint
  refine (concord_argumentsFor (fun d hd => hcls d ⟨cat, hcat, m, hm, hd⟩) _ _).bind ?_
  rintro _ _ (hall | _)
  · refine (concord_emit _ _).bind fun _ _ _ => ?_
    exact (concord_attemptCall hsteady hmember hall _).bind fun _ _ _ => concord_emit _ _
  · exact Concord.succeed trivial

/-! ### Deferred bindings -/

omit hsteady in
/-- Failures of both are passed over, or of neither. -/
theorem concord_passOver (d : Deferral) {r r' : Except ConfigurationError Unit}
    (h : SameEnd (c.SameError s₀) (fun _ _ => True) r r') :
    c.Accord s₀ (fun _ _ => True) (passOver d r) (passOver d r') := by
  cases r with
  | error e =>
    obtain ⟨e', rfl, he⟩ := h.exists_error
    unfold passOver
    dsimp only
    split
    · exact concord_emit _ _
    · exact Concord.fail he
  | ok a =>
    obtain ⟨a', rfl⟩ := h.isOk_iff.mp ⟨a, rfl⟩
    exact Concord.succeed trivial

/-- Repeated injections are in accord. -/
theorem concord_injectRounds {d : Deferral}
    (hcls : ∀ e, c.InjectionNeeds d.subject.cls e → c.Even s₀ self self' e) (id rounds : Nat) :
    c.Accord s₀ (fun _ _ => True) (c.injectRounds self d id rounds)
      (c.injectRounds self' d id rounds) := by
  induction rounds with
  | zero => exact Concord.succeed trivial
  | succ rounds ih =>
    rw [injectRounds_succ, injectRounds_succ]
    refine (concord_injectObject hsteady hcls _ id id).attempt.bind fun r r' hend => ?_
    exact (concord_passOver d hend).bind fun _ _ _ => ih

/-- An object that is there is injected. -/
theorem concord_carryOut {d : Deferral} {cls : ClassPath} {id : Nat}
    (hsubject : d.subject = .existing cls id)
    (hcls : ∀ e, c.InjectionNeeds d.subject.cls e → c.Even s₀ self self' e) :
    c.Accord s₀ (fun i j => i.value = j.value) (c.carryOut self d) (c.carryOut self' d) := by
  unfold carryOut
  rw [hsubject]
  refine Concord.bind (Q := Eq) (Concord.succeed rfl) ?_
  rintro id _ rfl
  rw [← hsubject]
  refine (concord_injectRounds hsteady hcls id d.rounds).bind fun _ _ _ => ?_
  exact concord_wrap _ _ fun i j hi hj => hi.trans hj.symm

omit hsteady in
/-- What is being injected may come to what its injection would have come to from `s₀`. -/
theorem Grown.prepared {s : State} (h : c.Grown s₀ s) {b : Binding} {d : Deferral}
    (hb : c.registry.lookup b.key = some b) (hd : b.source.deferral = some d)
    {r r₀ : Except ConfigurationError Instance} (hforces : c.Forces s₀ b.key d r₀)
    (hend : SameEnd (c.SameError s₀) (fun i j => i.value = j.value) r r₀) :
    c.Grown s₀ (s.prepared b.key r) := by
  refine (h.setReadiness fun b' d' hkey hb' hd' => ?_).emit (.forced b.key r)
  rw [hkey, hb] at hb'
  cases hb'
  cases hd.symm.trans hd'
  cases r with
  | error e =>
    obtain ⟨e₀, rfl, -⟩ := hend.exists_error
    exact .of_failed hforces
  | ok i =>
    obtain ⟨i₀, rfl⟩ := hend.isOk_iff.mp ⟨i, rfl⟩
    exact .of_ready hforces hend

/-- Each deferred binding is ready, or injects an object that is there. -/
def Anchored (c : Container) (s₀ : State) : Prop :=
  ∀ (b : Binding) d, c.registry.lookup b.key = some b → b.source.deferral = some d →
    (∃ i, s₀.memory.readiness b.key = .ready i) ∨ ∃ cls id, d.subject = .existing cls id

/-- A deferred binding that waits is injected as it would have been from `s₀`. -/
theorem force_of_both_waiting {s s' : State} (hs : c.Grown s₀ s) {b : Binding} {d : Deferral}
    (hb : c.registry.lookup b.key = some b) (hd : b.source.deferral = some d) {cls : ClassPath}
    {id : Nat} (hsubject : d.subject = .existing cls id) (hs₀ : s₀.Faithful c)
    (hwaiting : s.memory.readiness b.key = .waiting)
    (hwaiting₀ : s₀.memory.readiness b.key = .waiting)
    {r r₀ : Except ConfigurationError Instance} (hforces : c.Forces s₀ b.key d r₀)
    (hneeds : ∀ e, c.SourceNeeds b.source e → c.Even s₀ self c.resolve e)
    (hrun : c.force self b.key d s = some (r, s')) :
    c.Grown s₀ s' ∧ SameEnd (c.SameError s₀) (fun i j => i.value = j.value) r r₀ := by
  have hpreparing : ∀ t, c.Grown s₀ t → c.Grown s₀ (t.preparing b.key) := fun t ht =>
    (ht.setReadiness fun b' d' _ _ _ => .running c s₀ b'.key d').emit (.preparing b.key)
  have hcarry : c.Accord s₀ (fun i j => i.value = j.value) (c.carryOut self d)
      (c.carryOut c.resolve d) :=
    concord_carryOut hsteady hsubject fun e he => hneeds e (sourceNeeds_of_deferral hd he)
  rw [c.force_of_waiting self d hwaiting] at hrun
  obtain ⟨⟨r, u⟩, hcarried, heq⟩ := Option.map_eq_some_iff.mp hrun
  cases heq
  have hforces₀ := hforces
  obtain ⟨t₀, hrun₀⟩ := hforces₀
  rw [c.force_of_waiting c.resolve d hwaiting₀] at hrun₀
  obtain ⟨⟨r₀, u₀⟩, hcarried₀, heq₀⟩ := Option.map_eq_some_iff.mp hrun₀
  cases heq₀
  obtain ⟨hu, -, hend⟩ := hcarry _ _ (hpreparing s hs) (hpreparing s₀ (.refl hs₀)) _ _ _ _
    hcarried hcarried₀
  exact ⟨hu.prepared hb hd hforces hend, hend⟩

/-- The use of a deferred binding comes to what it would have come to from `s₀`. -/
theorem concord_force {b : Binding} {d : Deferral} (hb : c.registry.lookup b.key = some b)
    (hd : b.source.deferral = some d) (hanchored : c.Anchored s₀) (hs₀ : s₀.Faithful c)
    {r₀ : Except ConfigurationError Instance} (hforces : c.Forces s₀ b.key d r₀)
    (hneeds : ∀ e, c.SourceNeeds b.source e → c.Even s₀ self c.resolve e) :
    c.Accord s₀ (fun i j => i.value = j.value) (c.force self b.key d) (.ofExcept r₀) := by
  refine Concord.ofExcept_iff.mpr fun s hs r s' hrun => ?_
  have hripens := hs.readiness b d hb hd
  cases hready : s.memory.readiness b.key with
  | running =>
    rw [c.force_of_running self d hready] at hrun
    cases hrun
  | ready i =>
    rw [c.force_of_ready self d hready] at hrun
    cases hrun
    obtain ⟨i₀, hi₀, hvalue⟩ := hripens.ready i hready
    rw [hforces.unique hi₀]
    exact ⟨hs.emit _, hvalue⟩
  | failed =>
    rw [c.force_of_failed self d hready] at hrun
    cases hrun
    obtain ⟨e, he⟩ := hripens.failed hready
    rw [hforces.unique he]
    refine ⟨hs.emit _, fun hall => ?_⟩
    -- if it had been ready, it would not have failed
    obtain ⟨i, hi⟩ := hall b.key ⟨b, hb, by rw [Source.isDeferred, hd]; rfl⟩
    cases he.unique ⟨_, c.force_of_ready c.resolve d hi⟩
  | waiting =>
    have hwaiting := hripens.waiting hready
    have hthere : ∃ cls id, d.subject = .existing cls id := by
      refine (hanchored b d hb hd).resolve_left ?_
      rintro ⟨i, hi⟩
      rw [hwaiting] at hi
      cases hi
    obtain ⟨cls, id, hsubject⟩ := hthere
    exact force_of_both_waiting hsteady hs hb hd hsubject hs₀ hready hwaiting hforces hneeds hrun

/-! ### Providers -/

omit hsteady in
/-- Outcomes of two calls that fail alike. -/
theorem concord_outcome {r r' : Except ConfigurationError String}
    (h : ∀ e, r = .error e → r' = .error e) (h' : ∀ e, r' = .error e → r = .error e) :
    c.Accord s₀ (fun made made' => r = .ok made ∧ r' = .ok made') (.ofExcept r) (.ofExcept r') := by
  refine Concord.ofExcept ?_
  cases r with
  | error e =>
    rw [h e rfl]
    exact fun _ => rfl
  | ok made =>
    cases r' with
    | error e => cases h' e rfl
    | ok made' => exact ⟨rfl, rfl⟩

omit hsteady in
/-- The same request is handled. -/
theorem concord_currentExchange :
    c.Accord s₀ Eq (.read (·.world.currentExchange?)) (.read (·.world.currentExchange?)) :=
  Concord.read fun s t hs ht => by
    rw [World.currentExchange?, World.currentExchange?, hs.continues.current, ht.continues.current]

omit hsteady in
/-- Parts of the current request are the same, except for the identity of its session. -/
theorem concord_currentPart (part : RequestPart) :
    c.Accord s₀
      (fun v v' => v = v' ∨ part = .session ∧ (∃ id, v = .session id) ∧ ∃ id, v' = .session id)
      (currentPart part) (currentPart part) := by
  unfold currentPart
  refine concord_currentExchange.bind ?_
  rintro e _ rfl
  cases e with
  | none => exact concord_fail _
  | some e =>
    cases part with
    | request => exact Concord.succeed (.inl rfl)
    | response => exact Concord.succeed (.inl rfl)
    | session =>
      refine Concord.bind (Q := fun _ _ => True) ?_ fun id id' _ => ?_
      · exact concord_act (c.changes_sessionOf · e.request) (c.changes_sessionOf · e.request)
          fun _ _ _ _ => trivial
      · exact Concord.succeed (.inr ⟨rfl, ⟨id, rfl⟩, ⟨id', rfl⟩⟩)
    | parameters =>
      refine Concord.bind (Q := fun q q' => q.parameters = q'.parameters) ?_ fun q q' hq => ?_
      · exact Concord.read fun s t hs ht =>
          (hs.parameters e.request).trans (ht.parameters e.request).symm
      · exact Concord.succeed (.inl (congrArg _ hq))

/-- Providers come to what is akin. -/
theorem concord_callProvider {b : Binding} (hb : c.registry.lookup b.key = some b) {p : Provider}
    (hsource : b.source = .provider p) :
    c.Accord s₀ (c.SourceAkin (.provider p)) (callProvider b.key p)
      (callProvider b.key p) := by
  cases p with
  | current part =>
    refine (concord_currentPart part).bind fun v v' hv => concord_wrap v v' fun i j hi hj => ?_
    rcases hv with rfl | ⟨rfl, hv, hv'⟩
    · exact .inl (hi.trans hj.symm)
    · rw [← hi] at hv
      rw [← hj] at hv'
      exact .inr ⟨hv, hv'⟩
  | calls ty label outcome =>
    unfold callProvider
    refine Concord.bind (Q := fun _ _ => True) (Concord.read fun _ _ _ _ => trivial) ?_
    intro n n' _
    have hcount : ∀ s, c.Grown s₀ s → c.Grown s₀ { s with memory := s.memory.countCall b.key } :=
      fun s hs => hs.changes (.single (.countCall b.key))
    refine (Concord.remember hcount hcount).bind fun _ _ _ => ?_
    refine (concord_emit _ _).bind fun _ _ _ => ?_
    refine (concord_outcome (hsteady.provider b ty label outcome n n' · hb hsource)
      (hsteady.provider b ty label outcome n' n · hb hsource)).bind fun made made' hmade => ?_
    exact concord_makeInstance ty _ _ fun i j hi hj =>
      .inr ⟨⟨n, made, hmade.1, hi⟩, ⟨n', made', hmade.2, hj⟩⟩

/-- Objects that are called as providers come to what they may issue. -/
theorem concord_callObject (cls : ClassPath) (id id' : Nat) (ty : Ty) :
    c.Accord s₀
      (fun i j => (c.classes.decl cls).supply.Issues cls ty i.value ∧
        (c.classes.decl cls).supply.Issues cls ty j.value)
      (c.callObject cls id ty) (c.callObject cls id' ty) := by
  unfold callObject
  cases hsupply : (c.classes.decl cls).supply with
  | calls outcome =>
    dsimp only
    refine Concord.bind (Q := fun _ _ => True) ?_ fun n n' _ => ?_
    · exact concord_act (c.changes_countSupply · id) (c.changes_countSupply · id')
        fun _ _ _ _ => trivial
    refine (concord_emit _ _).bind fun _ _ _ => ?_
    refine (concord_outcome (hsteady.supply cls outcome id id' n n' · hsupply)
      (hsteady.supply cls outcome id' id n' n · hsupply)).bind fun made made' hmade => ?_
    exact concord_makeInstance ty _ _ fun i j hi hj =>
      ⟨⟨id, n, made, hmade.1, hi⟩, ⟨id', n', made', hmade.2, hj⟩⟩
  | copyOf part =>
    dsimp only
    refine Concord.bind (Q := fun _ _ => True) ?_ fun owned owned' _ => ?_
    · exact concord_act (c.changes_partOf · id part) (c.changes_partOf · id' part)
        fun _ _ _ _ => trivial
    refine Concord.bind (Q := fun _ _ => True) (Concord.read fun _ _ _ _ => trivial) ?_
    intro history history' _
    refine Concord.bind (Q := fun _ _ => True) ?_ fun copy copy' _ => ?_
    · exact concord_act (c.changes_addObject · part history)
        (c.changes_addObject · part history') fun _ _ _ _ => trivial
    · exact concord_wrap _ _ fun i j hi hj => ⟨⟨copy, hi⟩, ⟨copy', hj⟩⟩

/-- Two instances of one type supply the same, or are refused in the same way. -/
theorem concord_supplyFrom {i j : Instance} (hty : i.ty = j.ty) (cls : ClassPath) (ty : Ty) :
    c.Accord s₀
      (fun i j => (c.classes.decl cls).supply.Issues cls ty i.value ∧
        (c.classes.decl cls).supply.Issues cls ty j.value)
      (c.supplyFrom i cls ty) (c.supplyFrom j cls ty) := by
  unfold supplyFrom
  refine Concord.bind (Q := fun a b => a.ty = .component cls ∧ b.ty = .component cls) ?_ ?_
  · unfold Instance.cast
    rw [hty]
    split
    · next h => exact Concord.succeed ⟨hty.trans h, h⟩
    · exact concord_fail _
  · rintro ⟨_, v⟩ ⟨_, v'⟩ ⟨hv, hv'⟩
    cases v with
    | object cls₁ id =>
      cases v' with
      | object cls₂ id' =>
        cases hv
        cases hv'
        exact concord_callObject hsteady cls id id' ty
      | _ => cases hv'
    | _ => cases hv

/-! ### Bindings -/

/-- What a binding provides. -/
theorem concord_provision {b : Binding} (hb : c.registry.lookup b.key = some b)
    (hforce : ∀ d, b.source.deferral = some d →
      c.Accord s₀ (fun i j => i.value = j.value) (c.force self b.key d) (c.force self' b.key d))
    (hneeds : ∀ e, c.SourceNeeds b.source e → c.Even s₀ self self' e) :
    c.Accord s₀ (c.SourceAkin b.source) (c.provision self b) (c.provision self' b) := by
  unfold provision
  cases hsource : b.source with
  | given i => exact Concord.succeed (.inl rfl)
  | provider p => exact concord_callProvider hsteady hb hsource
  | providerType provider cls ty =>
    rw [hsource] at hneeds
    refine (hneeds provider rfl).bind fun i j hij => ?_
    exact (concord_supplyFrom hsteady hij.ty_eq cls ty).mono fun _ _ h => .inr h
  | constructor cls =>
    rw [hsource] at hneeds
    exact concord_construct hsteady hneeds
  | injected d =>
    rw [hsource] at hforce
    exact (hforce d rfl).mono fun _ _ hvalue => .inl hvalue
  | injectedProvider d ty =>
    rw [hsource] at hforce
    refine (hforce d rfl).bind fun i j hvalue => ?_
    have hty : i.ty = j.ty := congrArg Value.ty hvalue
    exact (concord_supplyFrom hsteady hty d.subject.cls ty).mono fun _ _ h => .inr h

/-- What a binding supplies. -/
theorem concord_supply {b : Binding} (hb : c.registry.lookup b.key = some b)
    (hforce : ∀ d, b.source.deferral = some d →
      c.Accord s₀ (fun i j => i.value = j.value) (c.force self b.key d) (c.force self' b.key d))
    (hneeds : ∀ e, c.SourceNeeds b.source e → c.Even s₀ self self' e) :
    c.Accord s₀ (c.SourceAkin b.source) (c.supply self b) (c.supply self' b) :=
  (concord_emit _ _).bind fun _ _ _ => concord_noting (concord_provision hsteady hb hforce hneeds)

end

/-! ### Places -/

/-- From `s₀`, a binding that is in force supplies what `r₀` says. -/
structure Yields (c : Container) (s₀ : State) (b : Binding)
    (r₀ : Except ConfigurationError Instance) : Prop where
  /-- The binding is in force. -/
  lookup : c.registry.lookup b.key = some b
  /-- It comes to `r₀`. -/
  supply : ∃ t, c.supply c.resolve b s₀ = some (r₀, t)

section

variable {b : Binding} {r₀ : Except ConfigurationError Instance} (h : c.Yields s₀ b r₀)
  {create create' : Run Instance}
include h

/-- What a binding supplies is told by what it yields. -/
theorem Yields.supplies_iff {i : Instance} :
    c.Supplies s₀ b.key i ↔ SameEnd (c.SameError s₀) (c.SourceAkin b.source) (.ok i) r₀ := by
  obtain ⟨t₀, hsupply⟩ := h.supply
  constructor
  · rintro ⟨b', i₀, t, hb', hi₀, hakin⟩
    cases h.lookup.symm.trans hb'
    cases hsupply.symm.trans hi₀
    exact hakin
  · intro hend
    cases r₀ with
    | error e => exact hend.elim
    | ok i₀ => exact ⟨b, i₀, t₀, h.lookup, hsupply, hend⟩

/-- Where the instance of a binding may be kept, it is found, or it is created. What comes of that
is fixed: it is what was kept to begin with, or else what the binding supplied then. -/
theorem Yields.concord_place {look : State → Option Instance} {x : Run Instance}
    (hlook : ∀ s, c.Grown s₀ s → c.Retains s₀ look b.key s)
    (hheld : ∀ s, c.Grown s₀ s → ∀ i, look s = some i → ∀ r s', x s = some (r, s') →
      c.Grown s₀ s' ∧ r = .ok i)
    (hnew : ∀ s, c.Grown s₀ s → look s = none → ∀ r s', x s = some (r, s') →
      c.Grown s₀ s' ∧ SameEnd (c.SameError s₀) (c.SourceAkin b.source) r r₀) :
    c.Accord s₀ (c.SourceAkin b.source) x (.ofExcept ((look s₀).elim r₀ .ok)) := by
  refine Concord.ofExcept_iff.mpr fun s hs r s' hx => ?_
  cases hkept : look s with
  | none =>
    rw [(hlook s hs).none hkept]
    exact hnew s hs hkept r s' hx
  | some i =>
    obtain ⟨hs', rfl⟩ := hheld s hs i hkept r s' hx
    refine ⟨hs', ?_⟩
    cases hbefore : look s₀ with
    | some j =>
      cases hkept.symm.trans ((hlook s hs).stays j hbefore)
      exact .refl _ i
    | none =>
      have hsupplied := ((hlook s hs).supplied i hkept).resolve_left (by rw [hbefore]; nofun)
      exact h.supplies_iff.mp hsupplied

/-- The slot of a singleton. -/
theorem Yields.concord_inSlot
    (hcreate : c.Accord s₀ (c.SourceAkin b.source) create (.ofExcept r₀)) :
    c.Accord s₀ (c.SourceAkin b.source) (inSlot b.key create)
      (.ofExcept ((s₀.memory.instance? b.key).elim r₀ .ok)) := by
  refine h.concord_place (fun s hs => hs.slots b.key) (fun s hs i hi r s' hx => ?_)
    fun s hs hnone r s' hx => ?_
  · rw [inSlot_of_full (Memory.instance?_eq_some.mp hi)] at hx
    cases hx
    exact ⟨hs, rfl⟩
  · have hbefore := (hs.slots b.key).none hnone
    cases hcell : s.memory.slots.get? b.key with
    | none =>
      rw [inSlot_of_none hcell] at hx
      exact Concord.ofExcept_iff.mp hcreate s hs r s' hx
    | some cell =>
      cases cell with
      | busy =>
        rw [inSlot_of_busy hcell] at hx
        cases hx
      | full i => cases hnone.symm.trans (Memory.instance?_eq_some.mpr hcell)
      | empty =>
        rw [inSlot_of_empty hcell] at hx
        obtain ⟨⟨r, u⟩, hrun, heq⟩ := Option.map_eq_some_iff.mp hx
        cases heq
        have hbusy : c.Grown s₀ { s with memory := s.memory.setSlot b.key .busy } :=
          hs.setSlot hbefore nofun
        have hlogged := hbusy.emit (.logged (.creatingSingleton b.key))
        obtain ⟨hu, hend⟩ := Concord.ofExcept_iff.mp hcreate _ hlogged r u hrun
        refine ⟨hu.setSlot hbefore fun i hi => h.supplies_iff.mpr ?_, hend⟩
        cases r with
        | error e => cases hi
        | ok j =>
          cases hi
          exact hend

/-- What a request or a session keeps. -/
theorem Yields.concord_keptBy
    (hcreate : c.Accord s₀ (c.SourceAkin b.source) create (.ofExcept r₀))
    (K : World.Keeper) (notice : Notice) :
    c.Accord s₀ (c.SourceAkin b.source) (keptBy K b.key notice create)
      (.ofExcept (((s₀.world.attributes K).get? b.key).elim r₀ .ok)) := by
  refine h.concord_place (fun s hs => hs.attributes K b.key) (fun s hs i hi r s' hx => ?_)
    fun s hs hnone r s' hx => ?_
  · rw [keptBy_of_some hi] at hx
    cases hx
    exact ⟨hs, rfl⟩
  · have hbefore := (hs.attributes K b.key).none hnone
    rw [keptBy_of_none hnone] at hx
    obtain ⟨⟨o, u⟩, hrun, heq⟩ := Option.map_eq_some_iff.mp hx
    obtain ⟨hu, hend⟩ := Concord.ofExcept_iff.mp hcreate s hs o u hrun
    cases o with
    | error e =>
      cases heq
      exact ⟨hu, hend⟩
    | ok i =>
      have hlogged := hu.emit (.logged notice)
      cases hkept : ((u.world.log notice).attributes K).get? b.key with
      | some j =>
        -- The instance was kept by someone else in the meantime.
        simp only [World.attributeOrInsert_of_some hkept] at heq
        cases heq
        refine ⟨hlogged, h.supplies_iff.mp ?_⟩
        exact ((hlogged.attributes K b.key).supplied j hkept).resolve_left (by rw [hbefore]; nofun)
      | none =>
        simp only [World.attributeOrInsert_of_none hkept] at heq
        cases heq
        exact ⟨hlogged.setAttribute hkept (h.supplies_iff.mpr hend), hend⟩

/-- What a context keeps. -/
theorem Yields.concord_keep
    (hcreate : c.Accord s₀ (c.SourceAkin b.source) create (.ofExcept r₀)) (name : String) :
    c.Accord s₀ (c.SourceAkin b.source) (byRule name b.key create .keep)
      (.ofExcept (((s₀.world.context name).kept.get? b.key).elim r₀ .ok)) := by
  refine h.concord_place (fun s hs => hs.contexts name b.key) (fun s hs i hi r s' hx => ?_)
    fun s hs hnone r s' hx => ?_
  · simp only [byRule, Run.bind_eq, Run.read, hi] at hx
    cases hx
    exact ⟨hs, rfl⟩
  · have hbefore := (hs.contexts name b.key).none hnone
    simp only [byRule, Run.bind_eq, Run.read, hnone] at hx
    rcases hrun : create s with _ | ⟨o, u⟩
    · rw [hrun] at hx
      cases hx
    rw [hrun] at hx
    obtain ⟨hu, hend⟩ := Concord.ofExcept_iff.mp hcreate s hs o u hrun
    cases o with
    | error e =>
      cases hx
      exact ⟨hu, hend⟩
    | ok i =>
      cases hx
      exact ⟨hu.keepInContext hbefore (h.supplies_iff.mpr hend), hend⟩

end

/-! ### Scopes -/

/-- Where both runs come to what is fixed, they come to the same. -/
theorem concord_of_akin {x y : Run Instance} {b : Binding} {r : Except ConfigurationError Instance}
    (hx : c.Accord s₀ (c.SourceAkin b.source) x (.ofExcept r))
    (hy : c.Accord s₀ (c.SourceAkin b.source) y (.ofExcept r)) :
    c.Accord s₀ (c.BindingAkin b) x y :=
  hx.of_results hy (fun _ _ _ => SameError.join) fun _ _ _ hi hj => .inl (hi.trans hj.symm)

/-- The session of a request keeps what it kept to begin with, if it was there. -/
theorem Grown.get?_sessionOf {s : State} (hs : c.Grown s₀ s) (r : Nat) (key : Key) :
    (s₀.world.attributes (.session (s.world.sessionOf r).1)).get? key =
      (s₀.world.request r).session.bind fun id => (s₀.world.attributes (.session id)).get? key := by
  have hnew : ∀ id, s₀.world.sessions.size ≤ id → (s₀.world.request r).session = none →
      (s₀.world.attributes (.session id)).get? key =
        (s₀.world.request r).session.bind fun id =>
          (s₀.world.attributes (.session id)).get? key := by
    intro id hid hnone
    rw [World.attributes_session_of_le hid, hnone]
    rfl
  unfold World.sessionOf
  cases hsession : (s.world.request r).session with
  | some id =>
    cases hbefore : (s₀.world.request r).session with
    | some id₀ =>
      cases hsession.symm.trans (hs.continues.stays r id₀ hbefore)
      rfl
    | none =>
      rw [← hbefore]
      exact hnew id (hs.continues.joins r id hbefore hsession) hbefore
  | none =>
    refine hnew _ hs.continues.size ?_
    cases hbefore : (s₀.world.request r).session with
    | none => rfl
    | some id₀ => cases hsession.symm.trans (hs.continues.stays r id₀ hbefore)

section

variable {b : Binding} {r₀ : Except ConfigurationError Instance} (h : c.Yields s₀ b r₀)
  {create create' : Run Instance}
  (hcreate : c.Accord s₀ (c.SourceAkin b.source) create (.ofExcept r₀))
  (hcreate' : c.Accord s₀ (c.SourceAkin b.source) create' (.ofExcept r₀))
include h hcreate hcreate'

/-- Each rule of a context gives the same for both ways to create an instance. -/
theorem Yields.concord_byRule (name : String) {rule : AccessRule}
    (hscope : b.scope = .contextual (.named name rule)) :
    c.Accord s₀ (c.BindingAkin b) (byRule name b.key create rule)
      (byRule name b.key create' rule) := by
  have hboth := concord_of_akin hcreate hcreate'
  have hmade : ∀ m, b.scope.making? = some m → c.Accord s₀ (c.BindingAkin b)
      (.act (·.makeBy m)) (.act (·.makeBy m)) := fun m hm =>
    concord_makeInstance m.ty m.label m.label fun i j hi hj => .inr ⟨m, hm, hi, hj⟩
  cases rule with
  | pass => exact hboth
  | twice => exact hboth.bind fun _ _ _ => hboth
  | replace m => exact hmade m (by rw [hscope]; rfl)
  | fallback m =>
    refine hboth.attempt.bind fun r r' hend => ?_
    cases r with
    | error e =>
      cases r' with
      | error e' => exact hmade m (by rw [hscope]; rfl)
      | ok j => exact hend.elim
    | ok i =>
      cases r' with
      | error e' => exact hend.elim
      | ok j => exact Concord.succeed hend
  | keep => exact concord_of_akin (h.concord_keep hcreate name) (h.concord_keep hcreate' name)

/-- So does each scope. -/
theorem Yields.concord_withinScope :
    c.Accord s₀ (c.BindingAkin b) (withinScope b create) (withinScope b create') := by
  unfold withinScope
  cases hscope : b.scope with
  | unscoped => exact concord_of_akin hcreate hcreate'
  | singleton => exact concord_of_akin (h.concord_inSlot hcreate) (h.concord_inSlot hcreate')
  | contextual accessor =>
    unfold accessed
    cases accessor with
    | request =>
      refine concord_currentExchange.bind ?_
      rintro e _ rfl
      cases e with
      | none => exact concord_fail _
      | some e =>
        exact concord_of_akin (h.concord_keptBy hcreate _ _) (h.concord_keptBy hcreate' _ _)
    | session =>
      refine concord_currentExchange.bind ?_
      rintro e _ rfl
      cases e with
      | none => exact concord_fail _
      | some e =>
        refine Concord.bind (Q := fun id id' =>
          (s₀.world.attributes (.session id)).get? b.key =
            (s₀.world.attributes (.session id')).get? b.key) ?_ fun id id' hid => ?_
        · exact concord_act (c.changes_sessionOf · e.request) (c.changes_sessionOf · e.request)
            fun s t hs ht => (hs.get?_sessionOf _ _).trans (ht.get?_sessionOf _ _).symm
        · have hkept' := h.concord_keptBy hcreate' (.session id') (.keptInSession b.key)
          rw [← hid] at hkept'
          exact concord_of_akin (h.concord_keptBy hcreate _ _) hkept'
    | named name rule =>
      refine (concord_emit _ _).bind fun _ _ _ => ?_
      refine Concord.bind (Q := Eq) ?_ ?_
      · exact Concord.read fun s t hs ht => (hs.isOpen name).trans (ht.isOpen name).symm
      · rintro isOpen _ rfl
        cases isOpen with
        | true => exact h.concord_byRule hcreate hcreate' name hscope
        | false => exact concord_fail _

end

/-! ### Resolution -/

/-- At rest, a binding supplies something or fails, if there are no circles. -/
theorem exists_yields {b : Binding} (hb : c.registry.lookup b.key = some b)
    (hacyclic : ∀ e, c.SourceNeeds b.source e → c.Acyclic e) (hrest : c.resting.Inv s₀) :
    ∃ r₀, c.Yields s₀ b r₀ := by
  have hsupply : c.resting.Gives b.key.ty (c.supply c.resolve b) := by
    refine Contract.Compliance.supply (terminating_emit _) (terminating_marks _ _) ?_
    refine terminating_provision hb (fun hfalse => hfalse) fun R' hR' e he => ?_
    have hother : c.Free (· = b.key) e := (hacyclic e he).key_ne (d := .ofKey b.key) hb
      (leads_of_needs hb he)
    exact terminates_resolve (hacyclic e he) _ _ (c.free_none e) fun f hf hk =>
      ((c.free_none e).also hother) f hf (hR' _ hk)
  obtain ⟨r₀, t₀, hrun⟩ := hsupply.ends trivial hrest trivial
  exact ⟨r₀, hb, t₀, hrun⟩

/-- If there are no circles, the use of a deferred binding comes to something. -/
theorem exists_forces {b : Binding} {d : Deferral} (hb : c.registry.lookup b.key = some b)
    (hd : b.source.deferral = some d) (hacyclic : ∀ e, c.SourceNeeds b.source e → c.Acyclic e)
    (hrest : c.resting.Inv s₀) : ∃ r₀, c.Forces s₀ b.key d r₀ := by
  have hends := resting_prepare hb hd fun e he =>
    ⟨hacyclic e he, terminates_resolve (hacyclic e he)⟩
  exact hends.ends trivial hrest trivial

section

variable (hsteady : c.Steady) (hrest : c.resting.Inv s₀) (hanchored : c.Anchored s₀)
include hsteady hrest hanchored

/-- A deferred binding comes to the same if what it needs does. -/
theorem concord_force_of_even {b : Binding} {d : Deferral} (hb : c.registry.lookup b.key = some b)
    (hd : b.source.deferral = some d) (hacyclic : ∀ e, c.SourceNeeds b.source e → c.Acyclic e)
    (hleft : ∀ e, c.SourceNeeds b.source e → c.Even s₀ self c.resolve e)
    (hright : ∀ e, c.SourceNeeds b.source e → c.Even s₀ self' c.resolve e) :
    c.Accord s₀ (fun i j => i.value = j.value) (c.force self b.key d) (c.force self' b.key d) := by
  obtain ⟨r₀, hforces⟩ := exists_forces hb hd hacyclic hrest
  exact (concord_force hsteady hb hd hanchored hrest.1 hforces hleft).of_results
    (concord_force hsteady hb hd hanchored hrest.1 hforces hright) (fun _ _ _ => SameError.join)
    fun _ _ _ hi hj => hi.trans hj.symm

/-- What a binding supplies is the same if what it needs is. -/
theorem concord_supply_of_even {b : Binding} (hb : c.registry.lookup b.key = some b)
    (hacyclic : ∀ e, c.SourceNeeds b.source e → c.Acyclic e)
    (hresolve : ∀ e, c.SourceNeeds b.source e → c.Even s₀ c.resolve c.resolve e)
    (hself : ∀ e, c.SourceNeeds b.source e → c.Even s₀ self c.resolve e) :
    c.Accord s₀ (c.SourceAkin b.source) (c.supply self b) (c.supply c.resolve b) :=
  concord_supply hsteady hb
    (fun _ hd => concord_force_of_even hsteady hrest hanchored hb hd hacyclic hself hresolve) hself

/-- A binding comes to the same if what it needs does, also if that is resolved without bounds. -/
theorem concord_resolveBinding {b : Binding} (hb : c.registry.lookup b.key = some b)
    (hacyclic : ∀ e, c.SourceNeeds b.source e → c.Acyclic e)
    (hresolve : ∀ e, c.SourceNeeds b.source e → c.Even s₀ c.resolve c.resolve e)
    (hleft : ∀ e, c.SourceNeeds b.source e → c.Even s₀ self c.resolve e)
    (hright : ∀ e, c.SourceNeeds b.source e → c.Even s₀ self' c.resolve e) :
    c.Accord s₀ (c.BindingAkin b) (c.resolveBinding self b) (c.resolveBinding self' b) := by
  obtain ⟨r₀, h⟩ := exists_yields hb hacyclic hrest
  obtain ⟨t₀, hsupply⟩ := h.supply
  have hleft := concord_supply_of_even hsteady hrest hanchored hb hacyclic hresolve hleft
  have hright := concord_supply_of_even hsteady hrest hanchored hb hacyclic hresolve hright
  exact h.concord_withinScope (hleft.of_run (.refl hrest.1) hsupply)
    (hright.of_run (.refl hrest.1) hsupply)

/-- Within any two depths, a resolution comes to the same. -/
theorem even_resolveWithin {k : Nat} {d : Dependency} (hd : c.Shallow k d) (n m : Nat) :
    c.Even s₀ (c.resolveWithin n) (c.resolveWithin m) d := by
  induction k generalizing d n m with
  | zero => exact absurd hd.pos (Nat.lt_irrefl 0)
  | succ k ih =>
    cases n with
    | zero => exact Concord.stuck_left
    | succ n =>
      cases m with
      | zero => exact Concord.stuck_right
      | succ m =>
        refine (concord_emit _ _).bind fun _ _ _ => concord_noting ?_
        unfold answer
        cases hb : c.registry.lookup d.key with
        | some b =>
          have hkey : b.key = d.key := Registry.key_of_lookup hb
          have hb' : c.registry.lookup b.key = some b := by rw [hkey, hb]
          have hleads : ∀ e, c.SourceNeeds b.source e → c.Shallow k e := fun e he =>
            hd.leads (leads_of_needs hb he)
          have heven : ∀ n e, c.SourceNeeds b.source e →
              c.Even s₀ (c.resolveWithin n) c.resolve e := fun n e he => by
            rw [resolve_eq_resolveWithin]
            exact ih (hleads e he) n _
          refine (concord_resolveBinding hsteady hrest hanchored hb'
            (fun e he => (hleads e he).acyclic) ?_ (heven n) (heven m)).mono
              fun _ _ hij => akin_of_bound hb hij
          rw [resolve_eq_resolveWithin] at heven ⊢
          exact heven _
        | none =>
          cases hcls : c.justInTime d with
          | none => exact concord_fail _
          | some cls =>
            refine (concord_construct hsteady fun e he => ?_).mono fun _ _ hij =>
              akin_of_unbound hb hcls hij
            exact ih (hd.leads (leads_of_class hb hcls he)) n m

/-- Resolutions come to the same. -/
theorem even_resolve {d : Dependency} (hd : c.Acyclic d) : c.Even s₀ c.resolve c.resolve d := by
  rw [resolve_eq_resolveWithin]
  exact even_resolveWithin hsteady hrest hanchored hd.shallow _ _

end

end Container

end Wiring
