import Wiring.Proofs.Outside
import Wiring.Proofs.System

/-!
# Passing On That There Is No Request

All that a container does conveys the error that there is no request: if it comes to resolve a
dependency that needs one, it fails with the same error, and from then on nothing is entered but
that error. The arguments of members, the members of objects, providers, deferred bindings,
singletons and contexts all pass it on, and optional members are not skipped for it.

## Conventions

Errors are out of sight while a binding of certain keys supplies an instance. These must be all keys
whose contexts put another instance in the place of one that could not be created. A deferred
binding that passes over failed injections must be among them, too, unless it is ready already, for
then nothing is injected any more.

## Main statements

* `Run.Enters`: what a run enters in the journal.
* `Container.Outside`, `Container.Conveys`: no request is handled, and a run passes that on.
* `Container.conveys_resolveWithin`: resolving a dependency does.
* `Container.Concludes.conveyed`: whatever is done with a container does.
-/

namespace Wiring

/-! ### Runs -/

/-- From states of which `I` holds, a run enters in the journal what `G` says of its result, and `I`
holds afterwards. -/
def Run.Enters {α : Type} (I : State → Prop) (x : Run α)
    (G : Except ConfigurationError α → List Event → Prop) : Prop :=
  ∀ s, I s → ∀ r s', x s = some (r, s') → I s' ∧ ∃ es, s.Entered s' es ∧ G r es

namespace Container

/-- The context of the binding of a key puts another instance in the place of one that could not be
created. -/
def FallsBack (c : Container) (key : Key) : Prop :=
  ∃ b name m, c.registry.lookup key = some b ∧ b.scope = .contextual (.named name (.fallback m))

/-- The binding of a key is deferred and passes over failed injections. -/
def Forgives (c : Container) (key : Key) : Prop :=
  ∃ b d, c.registry.lookup key = some b ∧ b.source.deferral = some d ∧ d.forgiving = true

/-- No request is handled, and a deferred binding that passes over failures is ready, unless `K`
holds of its key. -/
def Outside (c : Container) (K : Key → Prop) (s : State) : Prop :=
  s.world.currentExchange? = none ∧
    ∀ b d, c.registry.lookup b.key = some b → b.source.deferral = some d → d.forgiving = true →
      ¬ K b.key → ∃ i, s.memory.readiness b.key = .ready i

/-- A run passes on the error that there is no request. -/
def Conveys {α : Type} (c : Container) (K : Key → Prop) (x : Run α) : Prop :=
  x.Enters (c.Outside K) (c.Conveyed K)

/-- A run supplies what it begins to supply. -/
def Accounts {α : Type} (c : Container) (K : Key → Prop) (x : Run α) : Prop :=
  x.Enters (c.Outside K) fun _ es => c.Accounted es

/-- The discipline of doing nothing that has to do with requests. -/
def apart (c : Container) (K : Key → Prop) : Discipline where
  Inv := c.Outside K
  Step s s' := ∃ es, s.Entered s' es ∧ ∀ e ∈ es, e.isSupplyOrResult = false
  Known _ _ := True
  refl s := ⟨[], .refl s, List.forall_mem_nil _⟩
  trans := by
    rintro s t u ⟨es, hes, h⟩ ⟨fs, hfs, h'⟩
    exact ⟨es ++ fs, hes.trans hfs, fun e he => (List.mem_append.mp he).elim (h e) (h' e)⟩
  known_step _ h := h

/-- What is done without any use of the keys is admitted. -/
theorem admits_apart (c : Container) (K : Key → Prop) : (c.apart K).Admits c where
  effect hs h := by
    obtain ⟨es, hes, hmark⟩ := h.entered
    refine ⟨⟨?_, fun b d hb hd hforgiving hK => ?_⟩, es, hes, fun e he =>
      Event.isSupplyOrResult_of_not_isMark (hmark e he)⟩
    · rw [World.currentExchange?, h.continues.current]
      exact hs.1
    · obtain ⟨i, hi⟩ := hs.2 b d hb hd hforgiving hK
      exact ⟨i, by rw [Memory.readiness, h.deferred]; exact hi⟩
  fresh _ _ := trivial
  mentioned _ _ := trivial

variable {c : Container} {K : Key → Prop} {α β : Type} {s : State}

/-- A run that makes no use of the keys conveys errors. -/
theorem Conveys.of_apart {P : State → α → Prop} {x : Run α}
    (h : (c.apart K).Ensures (fun _ => True) x P) : c.Conveys K x := by
  intro s hs r s' hx
  obtain ⟨hs', ⟨es, hes, haside⟩, -⟩ := h s hs trivial r s' hx
  exact ⟨hs', es, hes, .of_aside haside⟩

/-- A run that conveys errors accounts for them. -/
theorem Conveys.accounts {x : Run α} (h : c.Conveys K x) : c.Accounts K x := by
  intro s hs r s' hx
  obtain ⟨hs', es, hes, hconveyed⟩ := h s hs r s' hx
  exact ⟨hs', es, hes, hconveyed.toAccounted⟩

/-- One run after another conveys errors if each of them does. -/
theorem Conveys.bind {x : Run α} {f : α → Run β} (hx : c.Conveys K x)
    (hf : ∀ a, c.Conveys K (f a)) : c.Conveys K (x >>= f) := by
  intro s hs r s' h
  rw [Run.bind_eq] at h
  rcases hxs : x s with _ | ⟨e | a, t⟩
  · rw [hxs] at h
    cases h
  · rw [hxs] at h
    cases h
    obtain ⟨ht, es, hes, hconveyed⟩ := hx s hs _ _ hxs
    exact ⟨ht, es, hes, hconveyed.retype⟩
  · rw [hxs] at h
    obtain ⟨ht, es, hes, hconveyed⟩ := hx s hs _ _ hxs
    obtain ⟨hs', fs, hfs, hconveyed'⟩ := hf a t ht _ _ h
    exact ⟨hs', es ++ fs, hes.trans hfs, hconveyed.append hconveyed'⟩

/-- One run after another accounts for errors if each of them does. -/
theorem Accounts.bind {x : Run α} {f : α → Run β} (hx : c.Accounts K x)
    (hf : ∀ a, c.Accounts K (f a)) : c.Accounts K (x >>= f) := by
  intro s hs r s' h
  rw [Run.bind_eq] at h
  rcases hxs : x s with _ | ⟨e | a, t⟩
  · rw [hxs] at h
    cases h
  · rw [hxs] at h
    cases h
    exact hx s hs _ _ hxs
  · rw [hxs] at h
    obtain ⟨ht, es, hes, haccounted⟩ := hx s hs _ _ hxs
    obtain ⟨hs', fs, hfs, haccounted'⟩ := hf a t ht _ _ h
    exact ⟨hs', es ++ fs, hes.trans hfs, haccounted.append haccounted'⟩

/-- A run accounts for its errors if they are kept apart. -/
theorem Accounts.attempt {x : Run α} (hx : c.Accounts K x) : c.Accounts K x.attempt := by
  intro s hs r s' h
  obtain ⟨⟨r₀, t⟩, hxs, heq⟩ := Option.map_eq_some_iff.mp h
  cases heq
  exact hx s hs _ _ hxs

theorem Conveys.succeed (a : α) : c.Conveys K (.succeed a) :=
  .of_apart (P := fun _ _ => True) (Discipline.Ensures.succeed fun _ _ _ => trivial)

theorem Conveys.fail (e : ConfigurationError) : c.Conveys K (.fail e : Run α) :=
  .of_apart (P := fun _ _ => True) (Discipline.Ensures.fail e)

/-- Doing something for each element conveys errors if each step does. -/
theorem Conveys.each {f : α → Run Unit} {as : List α} (h : ∀ a ∈ as, c.Conveys K (f a)) :
    c.Conveys K (Run.each f as) := by
  induction as with
  | nil => exact .succeed ()
  | cons a as ih =>
    obtain ⟨ha, has⟩ := List.forall_mem_cons.mp h
    exact ha.bind fun _ => ih has

/-- So does collecting. -/
theorem Conveys.collect {f : α → Run β} {as : List α} (h : ∀ a ∈ as, c.Conveys K (f a)) :
    c.Conveys K (Run.collect f as) := by
  induction as with
  | nil => exact .succeed []
  | cons a as ih =>
    obtain ⟨ha, has⟩ := List.forall_mem_cons.mp h
    exact ha.bind fun b => (ih has).bind fun bs => .succeed (b :: bs)

/-- The end of the use of a deferred binding is noted. -/
theorem Conveyed.forced {r : Except ConfigurationError Instance} {es : List Event}
    (h : c.Conveyed K r es) (key : Key) : c.Conveyed K r (es ++ [.forced key r]) :=
  h.concat (.of_aside (by simp [Event.isSupplyOrResult])) (by rintro e rfl; rfl) nofun

/-! ### What a container does -/

section Functions

variable {self : Dependency → Run Instance} (hself : ∀ d, c.Conveys K (self d))
include hself

/-- What a member requires conveys errors. -/
theorem conveys_resolveRequired (member : String) (d : Dependency) :
    c.Conveys K (c.resolveRequired self member d) := by
  unfold resolveRequired
  split
  · exact hself d
  · exact .fail _

/-- So do the arguments of a member. -/
theorem conveys_argumentsFor (member : String) (ds : List Dependency) (optional : Bool) :
    c.Conveys K (c.argumentsFor self member ds optional) := by
  have hadmits := c.admits_apart K
  have hrequired : c.Conveys K (c.argumentsFor self member ds false) := by
    rw [argumentsFor_required]
    exact (Conveys.collect fun d _ => conveys_resolveRequired hself member d).bind fun _ =>
      .succeed _
  cases optional with
  | false => exact hrequired
  | true =>
    rw [argumentsFor_optional]
    refine (Conveys.of_apart (hadmits.looks.firstUnavailable ds)).bind fun d => ?_
    cases d with
    | none => exact hrequired
    | some d =>
      exact (Conveys.of_apart (hadmits.log (.skipped _ _) rfl)).bind fun _ => .succeed none

/-- So does the injection of the members of a catalog. -/
theorem conveys_injectPoints (cat : Catalog) (target : ClassPath) (id : Nat) :
    c.Conveys K (c.injectPoints self cat target id) := by
  have hadmits := c.admits_apart K
  refine Conveys.each fun m _ => ?_
  unfold injectPoint
  cases m.role with
  | constructor => exact .succeed ()
  | static form => exact .succeed ()
  | instanceOf form path =>
    refine (conveys_argumentsFor hself _ _ _).bind fun values => ?_
    cases values with
    | none => exact .succeed ()
    | some values => exact .of_apart (Discipline.Conduct.runMember hadmits _ _ _ _ _ _)

/-- So does the injection of the members that a class declares. -/
theorem conveys_injectObject (cls target : ClassPath) (id : Nat) :
    c.Conveys K (c.injectObject self cls target id) :=
  (Conveys.of_apart ((c.admits_apart K).looks.catalog cls)).bind fun cat =>
    conveys_injectPoints hself cat target id

/-- So does the construction of a class. -/
theorem conveys_construct (cls : ClassPath) : c.Conveys K (c.construct self cls) := by
  have hadmits := c.admits_apart K
  unfold construct
  refine (Conveys.of_apart (hadmits.looks.catalog cls)).bind fun cat => ?_
  refine (Conveys.of_apart (Discipline.Conduct.constructorOf cat)).bind fun m => ?_
  refine (Conveys.collect fun d _ => conveys_resolveRequired hself _ d).bind fun values => ?_
  refine (Conveys.of_apart (hadmits.log (.constructing cls) rfl)).bind fun _ => ?_
  refine (Conveys.of_apart (Discipline.Conduct.runConstructor hadmits _ m _)).bind fun id => ?_
  refine (conveys_injectPoints hself cat cls id).bind fun _ => ?_
  exact .of_apart (Discipline.Ensures.act (P := fun _ => True) (V := fun _ _ => True)
    fun s hs _ => ⟨(hadmits.effect hs (.wrap _)).1, (hadmits.effect hs (.wrap _)).2, trivial⟩)

/-- The object of a deferred binding is injected. -/
theorem accounts_injectRounds (d : Deferral) (id n : Nat) :
    c.Accounts K (c.injectRounds self d id n) := by
  have hadmits := c.admits_apart K
  induction n with
  | zero => exact (Conveys.succeed ()).accounts
  | succ n ih =>
    rw [injectRounds_succ]
    refine (conveys_injectObject hself _ _ id).accounts.attempt.bind fun r => ?_
    refine (Conveys.of_apart (Discipline.Conduct.passOver hadmits d r)).accounts.bind fun _ => ih

/-- The object of a deferred binding is injected, and a failure is not passed over. -/
theorem conveys_injectRounds {d : Deferral} (hd : d.forgiving = false) (id n : Nat) :
    c.Conveys K (c.injectRounds self d id n) := by
  induction n with
  | zero => exact .succeed ()
  | succ n ih =>
    have hround : c.injectRounds self d id (n + 1) = (do
        c.injectObject self d.subject.cls d.subject.cls id
        c.injectRounds self d id n) := by
      funext s
      rw [injectRounds_succ]
      simp only [Run.bind_eq, Run.attempt_eq]
      rcases c.injectObject self d.subject.cls d.subject.cls id s with _ | ⟨e | ⟨⟩, t⟩
      · rfl
      · simp [passOver, hd, Run.fail]
      · rfl
    rw [hround]
    exact (conveys_injectObject hself _ _ id).bind fun _ => ih

omit hself in
/-- An instance that is made of a value comes without errors. -/
theorem conveys_wrap (v : Value) : c.Conveys K (.act (·.wrap v)) := by
  refine .of_apart (P := fun _ _ => True) (Discipline.Ensures.act fun s hs _ => ?_)
  obtain ⟨hs', hstep⟩ := (c.admits_apart K).effect hs (.wrap v)
  exact ⟨hs', hstep, trivial⟩

variable {b : Binding} (hb : c.registry.lookup b.key = some b)
include hb

/-- What a deferral calls for accounts for errors. -/
theorem accounts_carryOut {d : Deferral} (hd : b.source.deferral = some d) :
    c.Accounts K (c.carryOut self d) := by
  have hsubject := Discipline.Conduct.subjectOf (c.admits_apart K) hb hd
  refine (Conveys.of_apart hsubject).accounts.bind fun id => ?_
  exact (accounts_injectRounds hself d id _).bind fun _ => (conveys_wrap _).accounts

/-- It conveys them unless it is forgiving. -/
theorem conveys_carryOut {d : Deferral} (hd : b.source.deferral = some d)
    (hforgiving : d.forgiving = false) : c.Conveys K (c.carryOut self d) := by
  have hsubject := Discipline.Conduct.subjectOf (c.admits_apart K) hb hd
  refine (Conveys.of_apart hsubject).bind fun id => ?_
  exact (conveys_injectRounds hself hforgiving id _).bind fun _ => conveys_wrap _

omit hself in
/-- A deferred binding may advance unless it passes over failures. -/
theorem Outside.setReadiness (hs : c.Outside K s) {d : Deferral} (hd : b.source.deferral = some d)
    (hforgiving : d.forgiving = true → K b.key) (r : Readiness) {w : World}
    (hw : w.current = s.world.current) : c.Outside K ⟨s.memory.setReadiness b.key r, w⟩ := by
  refine ⟨?_, fun b' d' hb' hd' hforgiving' hK => ?_⟩
  · rw [World.currentExchange?, hw]
    exact hs.1
  · rw [Memory.readiness_setReadiness, if_neg]
    · exact hs.2 b' d' hb' hd' hforgiving' hK
    · intro hkey
      rw [← hkey, hb] at hb'
      obtain rfl := Option.some.inj hb'
      obtain rfl := Option.some.inj (hd.symm.trans hd')
      exact hK (hforgiving hforgiving')

omit hself in
/-- A deferred binding that waits for injection passes on errors, unless `K` holds of its key. -/
theorem Outside.of_waiting (hs : c.Outside K s) {d : Deferral} (hd : b.source.deferral = some d)
    (hwaiting : s.memory.readiness b.key = .waiting) : d.forgiving = true → K b.key := by
  intro hforgiving
  by_contra hK
  obtain ⟨i, hi⟩ := hs.2 b d hb hd hforgiving hK
  rw [hwaiting] at hi
  cases hi

omit hself in
/-- The use of a deferred binding enters what its injection does, and what is noted of it. -/
theorem enters_force {d : Deferral} (hd : b.source.deferral = some d)
    {G : Except ConfigurationError Instance → List Event → Prop}
    (hforced : ∀ r, G r [.forced b.key r])
    (hpreparing : ∀ r es, G r es → G r ([.preparing b.key] ++ (es ++ [.forced b.key r])))
    (hcarryOut : (d.forgiving = true → K b.key) → (c.carryOut self d).Enters (c.Outside K) G) :
    (c.force self b.key d).Enters (c.Outside K) G := by
  intro s hs r s' h
  cases hreadiness : s.memory.readiness b.key with
  | ready i =>
    rw [c.force_of_ready self d hreadiness] at h
    cases h
    exact ⟨hs, _, s.entered_emit _, hforced _⟩
  | failed =>
    rw [c.force_of_failed self d hreadiness] at h
    cases h
    exact ⟨hs, _, s.entered_emit _, hforced _⟩
  | running =>
    rw [c.force_of_running self d hreadiness] at h
    cases h
  | waiting =>
    rw [c.force_of_waiting self d hreadiness] at h
    obtain ⟨⟨r, t⟩, hrun, heq⟩ := Option.map_eq_some_iff.mp h
    cases heq
    have hforgiving := hs.of_waiting hb hd hreadiness
    have hpreparing' : c.Outside K (s.preparing b.key) :=
      hs.setReadiness hb hd hforgiving .running rfl
    obtain ⟨ht, es, hes, hG⟩ := hcarryOut hforgiving _ hpreparing' r t hrun
    refine ⟨ht.setReadiness hb hd hforgiving _ rfl, _, ?_, hpreparing r es hG⟩
    have hend := hes.trans (t.entered_emit (.forced b.key r))
    exact (s.entered_emit (.preparing b.key)).trans hend

/-- The use of a deferred binding accounts for errors. -/
theorem accounts_force {d : Deferral} (hd : b.source.deferral = some d) :
    c.Accounts K (c.force self b.key d) := by
  have haside : ∀ e : Event, e.isSupplyOrResult = false → c.Accounted [e] := fun e he =>
    .of_aside (by simpa using he)
  refine enters_force hb hd (fun r => haside _ rfl) (fun r es h => ?_) fun _ =>
    accounts_carryOut hself hb hd
  exact (haside _ rfl).append (h.append (haside _ rfl))

/-- A deferred binding passes on errors, if it is ready or does not pass over failures. -/
theorem conveys_force {d : Deferral} (hd : b.source.deferral = some d) (hK : ¬ K b.key) :
    c.Conveys K (c.force self b.key d) := by
  have hpreparing : c.Conveyed K (.ok () : Except ConfigurationError Unit) [.preparing b.key] :=
    .of_aside (by simp [Event.isSupplyOrResult])
  refine enters_force hb hd (fun r => .of_aside (by simp [Event.isSupplyOrResult]))
    (fun r es h => hpreparing.append (h.forced b.key)) fun hforgiving => ?_
  exact conveys_carryOut hself hb hd (Bool.eq_false_iff.mpr fun h => hK (hforgiving h))

/-- What a binding supplies, as far as deferred bindings allow it to be told. -/
theorem accounts_provision : c.Accounts K (c.provision self b) := by
  have hadmits := c.admits_apart K
  unfold provision
  cases hsource : b.source with
  | given i => exact (Conveys.succeed i).accounts
  | provider p =>
    exact (Conveys.of_apart (Discipline.Conduct.callProvider hadmits b.key p)).accounts
  | providerType provider cls ty =>
    exact (hself provider).accounts.bind fun i =>
      (Conveys.of_apart (Discipline.Conduct.supplyFrom hadmits i cls ty)).accounts
  | constructor cls => exact (conveys_construct hself cls).accounts
  | injected d => exact accounts_force hself hb (by rw [hsource]; rfl)
  | injectedProvider d ty =>
    exact (accounts_force hself hb (by rw [hsource]; rfl)).bind fun i =>
      (Conveys.of_apart (Discipline.Conduct.supplyFrom hadmits i _ ty)).accounts

/-- A source conveys errors if the key is not one of those that are left out. -/
theorem conveys_provision (hK : ¬ K b.key) : c.Conveys K (c.provision self b) := by
  have hadmits := c.admits_apart K
  unfold provision
  cases hsource : b.source with
  | given i => exact .succeed i
  | provider p => exact .of_apart (Discipline.Conduct.callProvider hadmits b.key p)
  | providerType provider cls ty =>
    exact (hself provider).bind fun i => .of_apart (Discipline.Conduct.supplyFrom hadmits i cls ty)
  | constructor cls => exact conveys_construct hself cls
  | injected d => exact conveys_force hself hb (by rw [hsource]; rfl) hK
  | injectedProvider d ty =>
    exact (conveys_force hself hb (by rw [hsource]; rfl) hK).bind fun i =>
      .of_apart (Discipline.Conduct.supplyFrom hadmits i _ ty)

omit hself hb in
/-- The supply of an instance enters what its provision does between its beginning and its end. -/
theorem enters_supply {I : State → Prop} (hI : ∀ s e, I s → I (s.inWorld (s.world.emit e)))
    {G G' : Except ConfigurationError Instance → List Event → Prop}
    (hprovision : (c.provision self b).Enters I G)
    (hG : ∀ r es, G r es → G' r (.supplying b.key :: (es ++ [.supplied b.key r]))) :
    (c.supply self b).Enters I G' := by
  intro s hs r s' h
  obtain ⟨⟨r, t⟩, hrun, heq⟩ := Option.map_eq_some_iff.mp h
  cases heq
  obtain ⟨ht, es, hes, hes'⟩ := hprovision _ (hI s (.supplying b.key) hs) r t hrun
  refine ⟨hI t _ ht, _, ?_, hG r es hes'⟩
  exact (s.entered_emit (.supplying b.key)).trans (hes.trans (t.entered_emit (.supplied b.key r)))

/-- So does a binding that supplies. -/
theorem conveys_supply : c.Conveys K (c.supply self b) := by
  by_cases hK : K b.key
  · exact enters_supply (fun _ _ hs => hs) (accounts_provision hself hb) fun r es h =>
      h.conveyed_supply hK r r
  · exact enters_supply (fun _ _ hs => hs) (conveys_provision hself hb hK) fun r es h =>
      h.supply b.key

/-- An attempt of a binding of which `K` holds need not fail, whatever becomes of it. -/
theorem conveys_attempt_supply (hK : K b.key) : c.Conveys K (c.supply self b).attempt := by
  have hcovered : (c.supply self b).Enters (c.Outside K) fun r es =>
      c.Conveyed K (.ok r : Except ConfigurationError (Except ConfigurationError Instance)) es :=
    enters_supply (fun _ _ hs => hs) (accounts_provision hself hb) fun r _ h =>
      h.conveyed_supply hK r _
  intro s hs r s' h
  obtain ⟨⟨r₀, t⟩, hrun, heq⟩ := Option.map_eq_some_iff.mp h
  cases heq
  exact hcovered s hs _ _ hrun

omit hself hb in
/-- The creation of a singleton passes on errors. -/
theorem conveys_inSlot {create : Run Instance} (h : c.Conveys K create) (key : Key) :
    c.Conveys K (inSlot key create) := by
  intro s hs r s' hrun
  cases hcell : s.memory.slots.get? key with
  | none =>
    rw [inSlot_of_none hcell] at hrun
    exact h s hs r s' hrun
  | some cell =>
    cases cell with
    | busy =>
      rw [inSlot_of_busy hcell] at hrun
      cases hrun
    | full i =>
      rw [inSlot_of_full hcell] at hrun
      cases hrun
      exact Conveys.succeed i s hs _ _ rfl
    | empty =>
      rw [inSlot_of_empty hcell] at hrun
      obtain ⟨⟨r, t⟩, hcreate, heq⟩ := Option.map_eq_some_iff.mp hrun
      cases heq
      have hbusy : c.Outside K ⟨s.memory.setSlot key .busy, s.world.log (.creatingSingleton key)⟩ :=
        hs
      obtain ⟨ht, es, hes, hconveyed⟩ := h _ hbusy r t hcreate
      have hbegin : c.Conveyed K (.ok () : Except ConfigurationError Unit)
          [.logged (.creatingSingleton key)] := .of_aside (by simp [Event.isSupplyOrResult])
      refine ⟨ht, _, ?_, hbegin.append hconveyed⟩
      exact (s.entered_emit (.logged (.creatingSingleton key))).trans hes

/-- What an open context gives passes on errors, if `K` holds of the key of a binding whose context
replaces them. -/
theorem conveys_byRule (name : String) (rule : AccessRule)
    (hK : ∀ m, rule = .fallback m → K b.key) :
    c.Conveys K (byRule name b.key (c.supply self b) rule) := by
  have hadmits := c.admits_apart K
  have hsupply := conveys_supply hself hb
  unfold byRule
  cases rule with
  | pass => exact hsupply
  | twice => exact hsupply.bind fun _ => hsupply
  | replace m => exact .of_apart (hadmits.makeInstance m.ty m.label)
  | fallback m =>
    refine Conveys.bind (conveys_attempt_supply hself hb (hK m rfl)) fun r => ?_
    cases r with
    | ok i => exact .succeed i
    | error e => exact .of_apart (hadmits.makeInstance m.ty m.label)
  | keep =>
    refine (Conveys.of_apart (P := fun _ _ => True)
      (Discipline.Ensures.read fun _ _ _ => trivial)).bind fun kept => ?_
    cases kept with
    | some i => exact .succeed i
    | none =>
      refine hsupply.bind fun i => ?_
      refine (Conveys.of_apart (P := fun _ _ => True) ?_).bind fun _ => .succeed i
      exact Discipline.Ensures.change fun s hs _ =>
        hadmits.effect hs (.context name b.key i fun _ _ => trivial)

omit hb in
/-- The instance of a binding in its scope passes on errors, if `K` holds of the keys whose contexts
replace errors. -/
theorem conveys_resolveBinding (hK : ∀ key, c.FallsBack key → K key)
    (hb : c.registry.lookup b.key = some b) : c.Conveys K (c.resolveBinding self b) := by
  have hadmits := c.admits_apart K
  have hsupply := conveys_supply hself hb
  unfold resolveBinding withinScope
  cases hscope : b.scope with
  | unscoped => exact hsupply
  | singleton => exact conveys_inSlot hsupply b.key
  | contextual accessor =>
    cases accessor with
    | request =>
      intro s hs r s' h
      simp only [accessed, Run.bind_eq, Run.read, hs.1] at h
      exact Conveys.fail _ s hs r s' h
    | session =>
      intro s hs r s' h
      simp only [accessed, Run.bind_eq, Run.read, hs.1] at h
      exact Conveys.fail _ s hs r s' h
    | named name rule =>
      refine (Conveys.of_apart (hadmits.emit (e := .contextConsulted name b.key) rfl)).bind
        fun _ => ?_
      refine (Conveys.of_apart (P := fun _ _ => True)
        (Discipline.Ensures.read fun _ _ _ => trivial)).bind fun isOpen => ?_
      cases isOpen with
      | false => exact .fail _
      | true =>
        refine conveys_byRule hself hb name rule fun m hm => hK b.key ⟨b, name, m, hb, ?_⟩
        rw [hscope, hm]

omit hb in
/-- So does an answer to a dependency. -/
theorem conveys_answer (hK : ∀ key, c.FallsBack key → K key) (d : Dependency) :
    c.Conveys K (c.answer self d) := by
  unfold answer
  cases hlookup : c.registry.lookup d.key with
  | some b =>
    exact conveys_resolveBinding hself hK (by rw [Registry.key_of_lookup hlookup, hlookup])
  | none =>
    cases c.justInTime d with
    | some cls => exact conveys_construct hself cls
    | none => exact .fail _

omit hb in
/-- A dependency that needs a request fails, and whatever else needs it passes that on. -/
theorem conveys_resolveStep (hK : ∀ key, c.FallsBack key → K key) (d : Dependency) :
    c.Conveys K (c.resolveStep self d) := by
  intro s hs r s' h
  obtain ⟨⟨r, t⟩, hanswer, heq⟩ := Option.map_eq_some_iff.mp h
  cases heq
  have hlogged : c.Outside K (s.inWorld (s.world.log (.resolving d.key))) := hs
  obtain ⟨ht, es, hes, hconveyed⟩ := conveys_answer hself hK d _ hlogged r t hanswer
  have hresult : ∀ name, c.NeedsRequest d name → r = .error (.outOfScope d.key.text name) := by
    intro name hd
    obtain ⟨_, -, hfails⟩ := resolveStep_of_needsRequest hd hs.1
    exact congrArg Prod.fst (Option.some.inj (h.symm.trans hfails))
  have hbegin : c.Conveyed K (.ok () : Except ConfigurationError Unit)
      [.logged (.resolving d.key)] := .of_aside (by simp [Event.isSupplyOrResult])
  refine ⟨ht, _, (s.entered_emit (.logged (.resolving d.key))).trans
    (hes.trans (t.entered_emit (.resolved d r))), hbegin.append (hconveyed.concat ?_ ?_ ?_)⟩
  · exact .resolved d r hresult
  · rintro e rfl
    rfl
  · rintro d' name r' heq hd
    cases heq
    exact hresult name hd

end Functions

/-- So does a resolution within a depth. -/
theorem conveys_resolveWithin (hK : ∀ key, c.FallsBack key → K key) (n : Nat) (d : Dependency) :
    c.Conveys K (c.resolveWithin n d) := by
  induction n generalizing d with
  | zero => exact .of_apart (P := fun _ _ => True) Discipline.Ensures.stuck
  | succ n ih => exact conveys_resolveStep ih hK d

/-! ### Operations -/

/-- A dependency is resolved, an instance is asked for as one of a type, or members are injected
into an object; and that comes to an end. -/
inductive Concludes (c : Container) (s : State) :
    Except ConfigurationError Unit → State → Prop where
  /-- A dependency is resolved. -/
  | resolve {d : Dependency} {r s'} : c.resolve d s = some (r, s') →
    Concludes c s (r.map fun _ => ()) s'
  /-- An instance is asked for. -/
  | get {ty : Ty} {d : Dependency} {r s'} : c.getAs ty d s = some (r, s') →
    Concludes c s (r.map fun _ => ()) s'
  /-- Members are injected. -/
  | inject {cls target : ClassPath} {id : Nat} {r s'} :
    c.injectMembers cls target id s = some (r, s') → Concludes c s r s'

variable {r : Except ConfigurationError Unit} {s' : State}

/-- What concludes is a run of the container. -/
theorem Concludes.operates (h : c.Concludes s r s') : c.Operates s s' := by
  cases h with
  | resolve h => exact .resolve h
  | get h => exact .get h
  | inject h => exact .inject h

/-- What is done with a container passes on the error that there is no request. -/
theorem Concludes.conveyed (h : c.Concludes s r s') (hK : ∀ key, c.FallsBack key → K key)
    (hs : c.Outside K s) : ∃ es, s.Entered s' es ∧ c.Conveyed K r es := by
  have hresolve : ∀ d, c.Conveys K (c.resolve d) := conveys_resolveWithin hK _
  have hforget : ∀ {r : Except ConfigurationError Instance} {es : List Event},
      c.Conveyed K r es → c.Conveyed K (r.map fun _ => ()) es := by
    intro r es h
    cases r with
    | error e => exact h.retype
    | ok i =>
      refine ⟨h.toAccounted, fun pre d name r' post hes hd hunder => ?_⟩
      cases (h.conveyed pre d name r' post hes hd hunder).1
  cases h with
  | resolve h =>
    obtain ⟨-, es, hes, hconveyed⟩ := hresolve _ s hs _ _ h
    exact ⟨es, hes, hforget hconveyed⟩
  | @get ty d r _ h =>
    have hget : c.Conveys K (c.getAs ty d) := (hresolve d).bind fun i =>
      .of_apart (P := fun _ _ => True) (Discipline.Ensures.ofExcept fun _ _ _ _ => trivial)
    obtain ⟨-, es, hes, hconveyed⟩ := hget s hs _ _ h
    exact ⟨es, hes, hforget hconveyed⟩
  | inject h =>
    obtain ⟨-, es, hes, hconveyed⟩ := conveys_injectObject hresolve _ _ _ s hs _ _ h
    exact ⟨es, hes, hconveyed⟩

end Container

end Wiring
