import Wiring.Proofs.Constancy
import Wiring.Proofs.Descent
import Wiring.Proofs.Sorting

/-!
# Resolved Instances Stem From Their Dependencies

Whatever a constant container without circles did before, what it resolves a dependency to stems
from that dependency, and so does everything it was given.

The proof goes through the functions of a container one by one, each with the discipline
`Container.descending`. Members pass on what was resolved for them to the history of an object.
Sources pass on the object, and what was given to it. Scopes hand over what they have kept, or what
comes from the source. The recursion is by the depth within which a dependency is resolved.

## Main statements

* `Container.Descent.injectObject`: an object that is injected is given what it is owed.
* `Container.Descent.construct`, `Container.Descent.force`, `Container.Descent.supply`: so is what
  comes from a source.
* `Container.Descent.withinScope`: what a scope hands over was kept before, or comes from the
  source.
* `Container.InjectsOnce`: deferred bindings inject objects that are there, once.
* `Container.handsDown_resolveWithin`: all resolutions hand down what stems from the dependency.
-/

namespace Wiring

namespace Container

variable {c : Container} {s₀ s t : State} {α : Type}

namespace Descent

open Discipline

variable {self : Dependency → Run Instance} {m : Member} {cls : ClassPath} {cat : Catalog}

/-! ### Simple runs -/

/-- What is done to the world by changes. -/
theorem act {f : World → α × World} {P : State → Prop} {V : State → α → Prop}
    (hf : ∀ s : State, c.Changes s (s.inWorld (f s.world).2))
    (hV : ∀ s, c.Descended s₀ s → P s → V (s.inWorld (f s.world).2) (f s.world).1) :
    (c.descending s₀).Ensures P (.act f) V :=
  Ensures.act fun s hs hp =>
    have ⟨hs', hw⟩ := Descended.changes hs (hf s)
    ⟨hs', hw, hV s hs hp⟩

theorem emit (e : Event) : (c.descending s₀).Allows (.emit e) :=
  Ensures.change fun _ hs _ => Descended.emit hs e

/-- What is told of a run does not matter. -/
theorem noting {P : State → Prop} {V : State → α → Prop} {x : Run α}
    {f : Except ConfigurationError α → Event} (hx : (c.descending s₀).Ensures P x V)
    (hV : ∀ a, (c.descending s₀).Lasting (V · a)) : (c.descending s₀).Ensures P (x.noting f) V :=
  hx.noting hV fun r _ hs _ => Descended.emit hs (f r)

/-- The catalog of a class is found. -/
theorem catalog (cls : ClassPath) : (c.descending s₀).Ensures (fun _ => True)
    (c.catalog cls) fun _ cat => c.classes.catalog cls = .ok cat := by
  intro s hs _ r t hrun
  obtain ⟨u, hu, hchanges⟩ := catalog_run cls hs.grown.faithful
  cases hu.symm.trans hrun
  obtain ⟨hs', hw⟩ := hs.changes hchanges
  exact ⟨hs', hw, fun _ h => h⟩

/-! ### Arguments -/

/-- All arguments of a member stem from its dependencies. -/
theorem arguments {ds : List Dependency} (hds : ∀ d ∈ ds, c.HandsDown s₀ self d)
    (member : String) :
    (c.descending s₀).Ensures (fun _ => True) (Run.collect (c.resolveRequired self member) ds)
      fun s is => List.Forall₂ (c.Stems s₀ s.world) ds is := by
  induction ds with
  | nil => exact Ensures.succeed fun _ _ _ => .nil
  | cons d ds ih =>
    have hfirst : (c.descending s₀).Ensures (fun _ => True) (c.resolveRequired self member d)
        fun s i => c.Stems s₀ s.world d i := by
      unfold resolveRequired
      split
      · exact hds d List.mem_cons_self
      · exact Ensures.fail _
    refine hfirst.bind fun i => ?_
    refine Ensures.beside (lasting_stems d i) (ih fun e he => hds e (List.mem_cons_of_mem d he))
      fun is => ?_
    exact Ensures.succeed fun _ _ h => .cons h.1 h.2

/-- It is found out whether an optional member runs. -/
theorem firstUnavailable (hoptional : m.optional = true) :
    (c.descending s₀).Ensures (fun _ => True) (c.firstUnavailable m.dependencies)
      fun _ r => c.runs m = r.isNone := by
  intro s hs _ r t hrun
  obtain ⟨hs', hw⟩ := hs.changes (c.changes_firstUnavailable s m.dependencies)
  obtain ⟨_, -, hfound⟩ := c.firstUnavailable_eq m.dependencies hs.grown.faithful
  cases hrun
  refine ⟨hs', hw, ?_⟩
  rintro _ ⟨⟩
  rw [runs_of_optional hoptional]
  exact congrArg Option.isNone (Except.ok.inj (congrArg Prod.fst (Option.some.inj hfound))).symm

/-- The arguments of a member are resolved if it runs. -/
theorem argumentsFor (hds : ∀ d ∈ m.dependencies, c.HandsDown s₀ self d) (member : String) :
    (c.descending s₀).Ensures (fun _ => True)
      (c.argumentsFor self member m.dependencies m.optional) fun s r =>
        c.runs m = r.isSome ∧ ∀ is, r = some is →
          List.Forall₂ (c.Stems s₀ s.world) m.dependencies is := by
  have hrequired : c.runs m = true → (c.descending s₀).Ensures (fun _ => True)
      (c.argumentsFor self member m.dependencies false) fun s r =>
        c.runs m = r.isSome ∧ ∀ is, r = some is →
          List.Forall₂ (c.Stems s₀ s.world) m.dependencies is := fun hruns => by
    rw [argumentsFor_required]
    refine (arguments hds member).bind fun is => Ensures.succeed fun _ _ his => ⟨hruns, ?_⟩
    rintro _ ⟨⟩
    exact his
  cases hoptional : m.optional with
  | false => exact hrequired (by rw [runs, hoptional]; rfl)
  | true =>
    rw [argumentsFor_optional]
    refine (firstUnavailable hoptional).bind fun r => Ensures.of_fact fun hr => ?_
    cases r with
    | none => exact hrequired hr
    | some d =>
      refine (emit (.logged (.skipped member d.key))).bind fun _ => ?_
      exact Ensures.succeed fun _ _ _ => ⟨hr, fun is his => by cases his⟩

/-! ### Members -/

/-- The call of a member is known by its name and by what it read. -/
theorem attemptCall (m : Member) (arguments : Arguments) :
    (c.descending s₀).Ensures (fun _ => True) (Container.attemptCall m arguments) fun _ call =>
      ∃ w, call = World.call w m.name (m.action arguments).values := by
  unfold Container.attemptCall
  dsimp only
  refine Ensures.bind (V := fun _ call => ∃ w, call = World.call w m.name _)
    (Ensures.read fun s _ _ => ⟨s.world, rfl⟩) fun call => Ensures.of_fact fun hcall => ?_
  refine (emit (.attempted m.owner call)).bind fun _ => ?_
  cases (m.action arguments).error with
  | none => exact Ensures.succeed fun _ _ _ => hcall
  | some e => exact Ensures.fail e

variable {there : Prop} {w₀ : World} {id : Nat} {ms : List Member}

/-- A member is run with arguments that stem from its dependencies. -/
theorem runMember (hcls : cat.cls = cls) (target : ClassPath) (is : List Instance) :
    (c.descending s₀).Ensures (fun s => c.Equipped s₀ there w₀ id cls ms s ∧
        List.Forall₂ (c.Stems s₀ s.world) m.dependencies is)
      (Container.runMember cat.cls m m.path target id (.ofList (cat.memberName m) is))
      fun s _ => c.Equipped s₀ there w₀ id cls (ms ++ [m]) s := by
  subst hcls
  by_cases htarget : target = cat.cls
  · subst htarget
    rw [runMember_self]
    have hpart : (c.descending s₀).Ensures (fun s => c.Equipped s₀ there w₀ id cat.cls ms s ∧
        List.Forall₂ (c.Stems s₀ s.world) m.dependencies is) (.act (·.partAlong id m.path))
        fun s part => c.Reaches s₀ there w₀ id cat.cls ms m is part s := by
      refine act (c.changes_partAlong · id m.path) fun s hs h => ?_
      have hw := (c.moves_partAlong hs.parted id m.path).2
      refine ⟨lasting_equipped _ _ _ _ _ _ _ hw h.1, lasting_forall₂_stems _ _ _ _ hw h.2, ?_⟩
      intro hthere
      obtain ⟨⟨o, ho⟩, -⟩ := h.1 hthere
      exact c.reaches_partAlong hs.parted ho m.path
    refine hpart.bind fun part => ?_
    refine Ensures.beside lasting_reaches (attemptCall m _) fun call => ?_
    refine Ensures.bind (V := fun s _ => c.Equipped s₀ there w₀ id cat.cls (ms ++ [m]) s) ?_
      fun _ => ?_
    · intro s hs h r t hrun
      obtain ⟨hreaches, w, rfl⟩ := h
      cases hrun
      obtain ⟨hs', hw⟩ := hs.changes (c.changes_record s part _)
      exact ⟨hs', hw, fun _ _ => hreaches.record w⟩
    · exact (Ensures.frame (lasting_equipped _ _ _ _ _) (emit _)).weaken
        (fun _ h => ⟨trivial, h⟩) fun _ _ h => h.2
  · rw [runMember_of_ne htarget]
    exact Ensures.fail _

/-- A member is injected if it runs. -/
theorem injectPoint (hcls : cat.cls = cls) {form : Form} {path : List ClassPath}
    (hrole : m.role = .instanceOf form path) (hds : ∀ d ∈ m.dependencies, c.HandsDown s₀ self d)
    (target : ClassPath) :
    (c.descending s₀).Ensures (c.Equipped s₀ there w₀ id cls ms)
      (c.injectPoint self cat target id m)
      fun s _ => c.Equipped s₀ there w₀ id cls (ms ++ [m].filter c.runs) s := by
  have hpath : m.path = path := by rw [Member.path, hrole]
  unfold Container.injectPoint
  rw [hrole]
  dsimp only
  rw [← hpath]
  refine Ensures.beside (lasting_equipped _ _ _ _ _) (argumentsFor hds _) fun r => ?_
  cases hruns : c.runs m with
  | false =>
    rw [List.filter_cons_of_neg (by simp [hruns]), List.filter_nil, List.append_nil]
    cases r with
    | none => exact Ensures.succeed fun _ _ h => h.1
    | some is => exact fun _ _ h => absurd h.2.1 Bool.false_ne_true
  | true =>
    rw [List.filter_cons_of_pos hruns, List.filter_nil]
    cases r with
    | none => exact fun _ _ h => absurd h.2.1.symm Bool.false_ne_true
    | some is =>
      exact (runMember hcls target is).weaken (fun s h => ⟨h.1, h.2.2 is rfl⟩) fun _ _ h => h

/-- The members of an object are injected in turn. -/
theorem injectPoints (hcat : c.classes.catalog cls = .ok cat)
    (hneeds : ∀ e, c.InjectionNeeds cls e → c.HandsDown s₀ self e) (target : ClassPath) :
    (c.descending s₀).Ensures (c.Equipped s₀ there w₀ id cls ms)
      (c.injectPoints self cat target id)
      fun s _ => c.Equipped s₀ there w₀ id cls (ms ++ c.points cls) s := by
  have hcls : cat.cls = cls := (ClassTable.catalog_eq_ok hcat).1
  have hall : ∀ (points ms : List Member), (∀ m ∈ points, m ∈ cat.instancePoints) →
      (c.descending s₀).Ensures (c.Equipped s₀ there w₀ id cls ms)
        (Run.each (c.injectPoint self cat target id) points)
        fun s _ => c.Equipped s₀ there w₀ id cls (ms ++ points.filter c.runs) s := by
    intro points
    induction points with
    | nil =>
      intro ms _
      rw [List.filter_nil, List.append_nil]
      exact Ensures.succeed fun _ _ h => h
    | cons m points ih =>
      intro ms hlisted
      have hm := hlisted m List.mem_cons_self
      obtain ⟨form, path, hrole⟩ := ClassTable.role_of_mem_instancePoints hcat hm
      have hrest := ih (ms ++ [m].filter c.runs) fun n hn => hlisted n (List.mem_cons_of_mem m hn)
      rw [List.append_assoc, ← List.filter_append, List.singleton_append] at hrest
      refine Ensures.bind
        (V := fun s _ => c.Equipped s₀ there w₀ id cls (ms ++ [m].filter c.runs) s) ?_
        fun _ => hrest
      exact injectPoint hcls hrole (fun d hd => hneeds d ⟨cat, hcat, m, hm, hd⟩) target
  have hpoints : c.points cls = cat.instancePoints.filter c.runs := by
    rw [points, ClassTable.instancePoints_of_catalog hcat]
  rw [hpoints]
  exact hall cat.instancePoints ms fun _ hm => hm

/-- The members that a class declares are injected into an object. -/
theorem injectObject (hneeds : ∀ e, c.InjectionNeeds cls e → c.HandsDown s₀ self e)
    (target : ClassPath) :
    (c.descending s₀).Ensures (c.Equipped s₀ there w₀ id cls ms)
      (c.injectObject self cls target id)
      fun s _ => c.Equipped s₀ there w₀ id cls (ms ++ c.points cls) s := by
  unfold Container.injectObject
  refine Ensures.beside (lasting_equipped _ _ _ _ _) (catalog cls) fun cat => ?_
  intro s hs h
  exact injectPoints h.2 hneeds target s hs h.1

/-- The static members of a class are injected. -/
theorem injectStatics (hneeds : ∀ e, c.StaticNeeds cls e → c.HandsDown s₀ self e) :
    (c.descending s₀).Allows (c.injectStatics self cls) := by
  unfold Container.injectStatics
  refine (catalog cls).bind fun cat => Ensures.of_fact fun hcat => Ensures.each fun m hm => ?_
  unfold Container.injectStaticPoint
  refine (argumentsFor (fun d hd => hneeds d ⟨cat, hcat, m, hm, hd⟩) _).bind fun r => ?_
  cases r with
  | none => exact Ensures.succeed fun _ _ _ => trivial
  | some is =>
    refine (emit (.logged (.injectingStatic (cat.memberName m)))).ensures.bind fun _ => ?_
    exact (attemptCall m _).bind fun call => (emit (.injectedStatic m.owner call)).ensures

/-! ### Objects -/

/-- The constructor of a catalog is found. -/
theorem constructorOf (cat : Catalog) : (c.descending s₀).Ensures (fun _ => True)
    (Container.constructorOf cat) fun _ m => cat.constructor = some m := by
  unfold Container.constructorOf
  cases cat.constructor with
  | none => exact Ensures.fail _
  | some m => exact Ensures.succeed fun _ _ _ => rfl

/-- A new object was given what its constructor was called with. -/
theorem runConstructor (hcls : cat.cls = cls) (hpath : m.path = []) (is : List Instance) :
    (c.descending s₀).Ensures (fun s => List.Forall₂ (c.Stems s₀ s.world) m.dependencies is)
      (Container.runConstructor cat.cls m (.ofList (cat.memberName m) is))
      fun s id => c.Equipped s₀ True s₀.world id cls [m] s := by
  subst hcls
  unfold Container.runConstructor
  refine Ensures.beside (lasting_forall₂_stems _ _) (attemptCall m _) fun call => ?_
  refine Ensures.bind (V := fun s id => c.Equipped s₀ True s₀.world id cat.cls [m] s) ?_
    fun id => ?_
  · refine act (c.changes_addObject · cat.cls [call]) fun s hs h => ?_
    obtain ⟨his, w, rfl⟩ := h
    exact equipped_addObject hs hpath his w
  · refine Ensures.keeping (lasting_equipped _ _ _ _ _) (emit _).ensures fun _ => ?_
    exact Ensures.succeed fun _ _ h => h

/-- An object is constructed, and its members are injected. -/
theorem construct (hneeds : ∀ e, c.ConstructionNeeds cls e → c.HandsDown s₀ self e) :
    (c.descending s₀).Ensures (fun _ => True) (c.construct self cls)
      fun s i => c.Sourced s₀ s.world (.constructor cls) i := by
  unfold Container.construct
  refine (catalog cls).bind fun cat => Ensures.of_fact fun hcat => ?_
  refine (constructorOf cat).bind fun m => Ensures.of_fact fun hm => ?_
  obtain ⟨hcls, hdeclared, -⟩ := Catalog.build_eq_ok hcat
  have hpath : m.path = [] := by rw [Member.path, (Catalog.role_of_mem hcat).1 m hm]
  have hcalled : c.membersCalled cls = [m] ++ c.points cls := by
    rw [membersCalled, hdeclared, hm, Option.toList_some]
  refine (arguments (fun d hd => hneeds d (.inr ⟨cat, m, hcat, hm, hd⟩)) _).bind fun is => ?_
  refine Ensures.keeping (lasting_forall₂_stems _ _) (emit (.logged (.constructing cls))).ensures
    fun _ => ?_
  refine (runConstructor hcls hpath is).bind fun id => ?_
  refine (injectPoints hcat (fun e he => hneeds e (.inl he)) cls).bind fun _ => ?_
  rw [← hcalled]
  refine act (fun s => .single (.wrap _)) fun s _ h n => ⟨fun j hj => (by cases hj), ?_⟩
  rintro path _ _ ⟨⟩
  have hw : s.world.ProlongedBy (s.world.wrap (.object cls id)).2 := .of_things rfl
  exact ⟨id, cls, rfl, ((h trivial).2 n path).mono (fun _ _ => StemsFrom.mono hw) hw⟩

/-! ### Deferred bindings -/

/-- An object is injected once. -/
theorem injectRounds (hneeds : ∀ e, c.InjectionNeeds cls e → c.HandsDown s₀ self e) :
    (c.descending s₀).Ensures (fun _ => True) (c.injectRounds self (.once cls id) id 1)
      fun s _ => c.Equipped s₀ (∃ o, s₀.world.object? id = some o) s₀.world id cls (c.points cls)
        s := by
  rw [injectRounds_succ]
  refine Ensures.bind (V := fun s r => ∀ a, r = .ok a →
    c.Equipped s₀ (∃ o, s₀.world.object? id = some o) s₀.world id cls (c.points cls) s) ?_
    fun r => ?_
  · have hinject : (c.descending s₀).Ensures
        (c.Equipped s₀ (∃ o, s₀.world.object? id = some o) s₀.world id cls [])
        (c.injectObject self cls cls id) fun s _ =>
          c.Equipped s₀ (∃ o, s₀.world.object? id = some o) s₀.world id cls (c.points cls) s :=
      injectObject hneeds cls
    refine Ensures.attempt fun s hs _ => hinject s hs ?_
    rintro ⟨o, ho⟩
    obtain ⟨o', ho', -⟩ := hs.prolonged id o ho
    exact ⟨⟨o', ho'⟩, fun _ _ => .nil hs.prolonged⟩
  · cases r with
    | error e => exact Ensures.fail e
    | ok a => exact Ensures.succeed fun _ _ h => h a rfl

/-- An object that is injected was given what it is owed. -/
theorem carryOut (hneeds : ∀ e, c.InjectionNeeds cls e → c.HandsDown s₀ self e) :
    (c.descending s₀).Ensures (fun _ => True) (c.carryOut self (.once cls id))
      fun s i => c.Sourced s₀ s.world (.injected (.once cls id)) i := by
  unfold Container.carryOut Container.subjectOf
  refine Ensures.bind (V := fun _ k => k = id) (Ensures.succeed fun _ _ _ => rfl) fun k =>
    Ensures.of_fact fun hk => ?_
  subst hk
  refine (injectRounds hneeds).bind fun _ => act (fun s => .single (.wrap _)) fun s _ h n => ?_
  refine ⟨nofun, fun path cls' ms howes => ?_⟩
  cases howes with
  | injected _ hsubject ho =>
    cases hsubject
    have hw : s.world.ProlongedBy (s.world.wrap (.object cls k)).2 := .of_things rfl
    exact ⟨k, cls, rfl, ((h ⟨_, ho⟩).2 n path).mono (fun _ _ => StemsFrom.mono hw) hw⟩

/-- A deferred binding is used, provided that this comes to the same whatever was done before. -/
theorem force {b : Binding} {id : Nat} (hb : c.registry.lookup b.key = some b)
    (hd : b.source.deferral = some (.once cls id))
    (heven : c.Accord s₀ (fun i j => i.value = j.value) (c.force self b.key (.once cls id))
      (c.force self b.key (.once cls id)))
    (hneeds : ∀ e, c.SourceNeeds b.source e → c.HandsDown s₀ self e) :
    (c.descending s₀).Ensures (fun _ => True) (c.force self b.key (.once cls id))
      fun s i => c.Sourced s₀ s.world (.injected (.once cls id)) i := by
  intro s hs _ r t hrun
  have hgrown : c.Grown s₀ t := (heven s s hs.grown hs.grown _ _ _ _ hrun hrun).1
  cases hready : s.memory.readiness b.key with
  | running =>
    rw [c.force_of_running self _ hready] at hrun
    cases hrun
  | failed =>
    rw [c.force_of_failed self _ hready] at hrun
    cases hrun
    obtain ⟨hs', hw⟩ := hs.emit (.forced b.key (.error (unavailable b.key)))
    exact ⟨hs', hw, nofun⟩
  | ready i =>
    rw [c.force_of_ready self _ hready] at hrun
    cases hrun
    obtain ⟨hs', hw⟩ := hs.emit (.forced b.key (.ok i))
    refine ⟨hs', hw, ?_⟩
    rintro _ ⟨⟩
    exact (hs.stored.ready b _ i hb hd hready).mono hw
  | waiting =>
    rw [c.force_of_waiting self _ hready] at hrun
    obtain ⟨⟨r, u⟩, hcarried, heq⟩ := Option.map_eq_some_iff.mp hrun
    cases heq
    obtain ⟨hbegun, hw⟩ := hs.preparing hb hd
    obtain ⟨hu, hw', hv⟩ := carryOut (fun e he => hneeds e (sourceNeeds_of_deferral hd he)) _
      hbegun trivial _ _ hcarried
    obtain ⟨ht, hw''⟩ := hu.prepared hb hd hgrown hv
    exact ⟨ht, hw.trans (hw'.trans hw''), fun i hi => (hv i hi).mono hw''⟩

/-! ### Providers -/

/-- Nothing is owed to what a provider supplies. -/
theorem sourced_provider (p : Provider) (w : World) (i : Instance) :
    c.Sourced s₀ w (.provider p) i := fun _ => ⟨nofun, nofun⟩

/-- Parts of the current request keep to where things come from. -/
theorem currentPart (part : RequestPart) :
    (c.descending s₀).Allows (Container.currentPart part) := by
  unfold Container.currentPart
  refine Ensures.bind (V := fun _ _ => True) (Ensures.read fun _ _ _ => trivial) fun e => ?_
  cases e with
  | none => exact Ensures.fail _
  | some e =>
    cases part with
    | session =>
      refine Ensures.bind (V := fun _ _ => True) ?_ fun _ => Ensures.succeed fun _ _ _ => trivial
      exact act (c.changes_sessionOf · e.request) fun _ _ _ => trivial
    | parameters =>
      refine Ensures.bind (V := fun _ _ => True) (Ensures.read fun _ _ _ => trivial) fun _ => ?_
      exact Ensures.succeed fun _ _ _ => trivial
    | _ => exact Ensures.succeed fun _ _ _ => trivial

/-- What a provider supplies comes from it. -/
theorem callProvider (key : Key) (p : Provider) :
    (c.descending s₀).Ensures (fun _ => True) (Container.callProvider key p)
      fun s i => c.Sourced s₀ s.world (.provider p) i := by
  cases p with
  | current part =>
    refine (currentPart part).bind fun v => ?_
    exact act (fun _ => .single (.wrap v)) fun _ _ _ => sourced_provider _ _ _
  | calls ty label outcome =>
    unfold Container.callProvider
    refine Ensures.bind (V := fun _ _ => True) (Ensures.read fun _ _ _ => trivial) fun n => ?_
    refine Ensures.bind (V := fun _ _ => True) ?_ fun _ => (emit _).bind fun _ => ?_
    · refine Ensures.remember fun s hs _ => ?_
      exact Descended.changes hs (.single (.countCall key))
    · refine Ensures.bind (V := fun _ _ => True) (Ensures.ofExcept fun _ _ _ _ => trivial)
        fun made => ?_
      exact act (c.changes_makeInstance · ty made) fun _ _ _ => sourced_provider _ _ _

variable {S : ClassPath → List Member → Prop} {part : ClassPath} {ty : Ty}

/-- An object that copies its part passes on what its part was given. -/
theorem callObject (hsupply : (c.classes.decl cls).supply = .copyOf part) (id : Nat) (ty : Ty) :
    (c.descending s₀).Ensures (c.Bestowed s₀ S id [part]) (c.callObject cls id ty)
      fun s i => ∃ copy, i.value = .object part copy ∧ c.Bestowed s₀ S copy [] s := by
  unfold Container.callObject
  rw [hsupply]
  dsimp only
  refine Ensures.bind (V := fun s owned => c.Bestowed s₀ S id [part] s ∧
    s.world.historyAt id [part] <+: ((s.world.object? owned).map Object.history).getD [])
    ?_ fun owned => ?_
  · refine act (c.changes_partOf · id part) fun s hs h => ⟨?_, s.world.historyAt_partOf id part⟩
    exact lasting_bestowed id [part] s _ (hs.changes (c.changes_partOf s id part)).2 h
  refine Ensures.bind (V := fun s history => c.Bestowed s₀ S id [part] s ∧
    s.world.historyAt id [part] <+: history) (Ensures.read fun _ _ h => h) fun history => ?_
  refine Ensures.bind (V := fun s copy => c.Bestowed s₀ S copy [] s) ?_ fun copy => ?_
  · exact act (c.changes_addObject · part history) fun s hs h => h.1.addObject hs part h.2
  · refine act (fun _ => .single (.wrap _)) fun s hs h => ⟨copy, rfl, ?_⟩
    exact lasting_bestowed copy [] s _ (hs.changes (.single (.wrap _))).2 h

/-- What an object supplies is owed nothing, unless it is a copy. -/
theorem allows_callObject (cls : ClassPath) (id : Nat) (ty : Ty) :
    (c.descending s₀).Allows (c.callObject cls id ty) := by
  cases hsupply : (c.classes.decl cls).supply with
  | copyOf part =>
    exact (callObject (S := fun _ _ => False) hsupply id ty).weaken
      (fun _ _ _ _ _ hfalse => hfalse.elim) fun _ _ _ => trivial
  | calls outcome =>
    unfold Container.callObject
    rw [hsupply]
    dsimp only
    refine Ensures.bind (V := fun _ _ => True) ?_ fun n => (emit _).bind fun _ => ?_
    · exact act (c.changes_countSupply · id) fun _ _ _ => trivial
    · refine Ensures.bind (V := fun _ _ => True) (Ensures.ofExcept fun _ _ _ _ => trivial)
        fun made => ?_
      exact act (c.changes_makeInstance · ty made) fun _ _ _ => trivial

/-- An instance of a class that copies its part passes on what its part was given. -/
theorem supplyFrom {S : ClassPath → ClassPath → List Member → Prop} (i : Instance)
    (cls : ClassPath) (ty : Ty) :
    (c.descending s₀).Ensures
      (fun s => ∀ part id, (c.classes.decl cls).supply = .copyOf part →
        i.value = .object cls id → c.Bestowed s₀ (S part) id [part] s)
      (c.supplyFrom i cls ty)
      fun s j => ∀ part, (c.classes.decl cls).supply = .copyOf part →
        ∃ copy, j.value = .object part copy ∧ c.Bestowed s₀ (S part) copy [] s := by
  obtain ⟨address, v⟩ := i
  unfold Container.supplyFrom Instance.cast
  split
  · next hty =>
    cases v with
    | object cls' id =>
      obtain rfl : cls' = cls := Ty.component.inj hty
      cases hsupply : (c.classes.decl cls').supply with
      | calls outcome =>
        exact (allows_callObject cls' id ty).ensures.weaken (fun _ h => h) fun _ _ _ _ => nofun
      | copyOf part =>
        refine (callObject (S := S part) hsupply id ty).weaken (fun s h => h part id rfl rfl) ?_
        rintro s j h _ ⟨⟩
        exact h
    | _ => cases hty
  · exact Ensures.fail _

/-! ### Bindings -/

/-- A binding supplies what comes from its source. -/
theorem provision {b : Binding}
    (hforce : ∀ d, b.source.deferral = some d →
      (c.descending s₀).Ensures (fun _ => True) (c.force self b.key d)
        fun s i => c.Sourced s₀ s.world (.injected d) i)
    (hneeds : ∀ e, c.SourceNeeds b.source e → c.HandsDown s₀ self e) :
    (c.descending s₀).Ensures (fun _ => True) (c.provision self b)
      fun s i => c.Sourced s₀ s.world b.source i := by
  unfold Container.provision
  cases hsource : b.source with
  | given i =>
    refine Ensures.succeed fun s _ _ n => ⟨?_, nofun⟩
    rintro _ ⟨⟩
    rfl
  | provider p => exact callProvider b.key p
  | constructor cls =>
    rw [hsource] at hneeds
    exact construct hneeds
  | injected d =>
    rw [hsource] at hforce
    exact hforce d rfl
  | providerType provider cls ty =>
    rw [hsource] at hneeds
    refine Ensures.bind (hneeds provider rfl) fun i => ?_
    refine (supplyFrom (S := fun part cls' ms => ∃ source, c.Origin s₀ provider source ∧
      c.Owes s₀ source [part] cls' ms) i cls ty).weaken (fun s hi part id _ hvalue => ?_)
      fun s j h n => ⟨nofun, ?_⟩
    · rintro n cls' ms ⟨source, horigin, howes⟩
      exact ((stems_iff.mp hi).2 source horigin).bestowed hvalue [part] n cls' ms howes
    · rintro path cls' ms (_ | _ | ⟨hsupply, horigin, howes⟩)
      obtain ⟨copy, hj, hbestowed⟩ := h _ hsupply
      exact ⟨copy, _, hj, hbestowed n cls' ms ⟨_, horigin, howes⟩⟩
  | injectedProvider d ty =>
    rw [hsource] at hforce
    refine Ensures.bind (hforce d rfl) fun i => ?_
    refine (supplyFrom (S := fun part => c.Owes s₀ (.injected d) [part]) i d.subject.cls ty).weaken
      (fun s hi part id _ hvalue => hi.bestowed hvalue [part]) fun s j h n => ⟨nofun, ?_⟩
    rintro path cls' ms (_ | _ | _ | ⟨hsupply, howes⟩)
    obtain ⟨copy, hj, hbestowed⟩ := h _ hsupply
    exact ⟨copy, _, hj, hbestowed n cls' ms howes⟩

/-- A binding supplies what comes from its source. -/
theorem supply {b : Binding}
    (hforce : ∀ d, b.source.deferral = some d →
      (c.descending s₀).Ensures (fun _ => True) (c.force self b.key d)
        fun s i => c.Sourced s₀ s.world (.injected d) i)
    (hneeds : ∀ e, c.SourceNeeds b.source e → c.HandsDown s₀ self e) :
    (c.descending s₀).Ensures (fun _ => True) (c.supply self b)
      fun s i => c.Sourced s₀ s.world b.source i :=
  (emit (.supplying b.key)).bind fun _ =>
    noting (provision hforce hneeds) fun i => lasting_sourced b.source i

/-! ### Scopes -/

variable {b : Binding} {r₀ : Except ConfigurationError Instance} {create : Run Instance}

section

variable (h : c.Yields s₀ b r₀)
  (hcreate : c.Accord s₀ (c.SourceAkin b.source) create (.ofExcept r₀))
  (hsourced : (c.descending s₀).Ensures (fun _ => True) create
    fun s i => c.Sourced s₀ s.world b.source i)
include h hcreate hsourced

/-- The slot of a singleton. -/
theorem inSlot (hkept : keptBefore? s₀ b = s₀.memory.instance? b.key) :
    (c.descending s₀).Ensures (fun _ => True) (Wiring.inSlot b.key create)
      fun s i => c.Fetched s₀ b s.world i := by
  intro s hs _ r t hrun
  have hgrown : c.Grown s₀ t :=
    (Concord.ofExcept_iff.mp (h.concord_inSlot hcreate) s hs.grown r t hrun).1
  cases hfound : s.memory.instance? b.key with
  | some i =>
    rw [inSlot_of_full (Memory.instance?_eq_some.mp hfound)] at hrun
    cases hrun
    refine ⟨hs, .refl _, ?_⟩
    rintro _ ⟨⟩
    exact .of_found (hs.grown.slots b.key) (hs.stored.slots b h.lookup) hkept hfound
  | none =>
    have hbefore := (hs.grown.slots b.key).none hfound
    rw [← hkept] at hbefore
    cases hcell : s.memory.slots.get? b.key with
    | none =>
      rw [inSlot_of_none hcell] at hrun
      obtain ⟨ht, hw, hv⟩ := hsourced s hs trivial r t hrun
      exact ⟨ht, hw, fun i hi => .of_sourced hbefore (hv i hi)⟩
    | some cell =>
      cases cell with
      | busy =>
        rw [inSlot_of_busy hcell] at hrun
        cases hrun
      | full i => cases hfound.symm.trans (Memory.instance?_eq_some.mpr hcell)
      | empty =>
        rw [inSlot_of_empty hcell] at hrun
        obtain ⟨⟨r, u⟩, hcreated, heq⟩ := Option.map_eq_some_iff.mp hrun
        cases heq
        -- The slot is busy for the time of the creation, and holds nothing then.
        have hbusy : c.Descended s₀ { s with memory := s.memory.setSlot b.key .busy } :=
          ⟨hs.grown.setSlot (hkept ▸ hbefore) nofun, hs.parted, hs.prolonged,
            hs.stored.setSlot h.lookup fun _ => nofun⟩
        obtain ⟨hlogged, hw⟩ := hbusy.emit (.logged (.creatingSingleton b.key))
        obtain ⟨hu, hw', hv⟩ := hsourced _ hlogged trivial r u hcreated
        refine ⟨⟨hgrown, hu.parted, hu.prolonged, hu.stored.setSlot h.lookup fun i hi => ?_⟩,
          hw.trans hw', fun i hi => .of_sourced hbefore (hv i hi)⟩
        cases r with
        | error e => cases hi
        | ok j =>
          cases hi
          exact hv i rfl

/-- What a request or a session keeps. -/
theorem keptBy {K : World.Keeper} (hkept : keptBefore? s₀ b = (s₀.world.attributes K).get? b.key)
    (notice : Notice) :
    (c.descending s₀).Ensures (fun _ => True) (Wiring.keptBy K b.key notice create)
      fun s i => c.Fetched s₀ b s.world i := by
  intro s hs _ r t hrun
  have hgrown : c.Grown s₀ t :=
    (Concord.ofExcept_iff.mp (h.concord_keptBy hcreate K notice) s hs.grown r t hrun).1
  cases hfound : (s.world.attributes K).get? b.key with
  | some i =>
    rw [keptBy_of_some hfound] at hrun
    cases hrun
    refine ⟨hs, .refl _, ?_⟩
    rintro _ ⟨⟩
    exact .of_found (hs.grown.attributes K b.key) (hs.stored.attributes b K h.lookup) hkept hfound
  | none =>
    have hbefore := (hs.grown.attributes K b.key).none hfound
    rw [← hkept] at hbefore
    rw [keptBy_of_none hfound] at hrun
    obtain ⟨⟨o, u⟩, hcreated, heq⟩ := Option.map_eq_some_iff.mp hrun
    obtain ⟨hu, hw, hv⟩ := hsourced s hs trivial o u hcreated
    cases o with
    | error e =>
      cases heq
      exact ⟨hu, hw, nofun⟩
    | ok i =>
      obtain ⟨hlogged, hw'⟩ := hu.emit (.logged notice)
      cases hnow : ((u.world.log notice).attributes K).get? b.key with
      | some j =>
        -- The instance was kept by someone else in the meantime.
        simp only [World.attributeOrInsert_of_some hnow] at heq
        cases heq
        refine ⟨hlogged, hw.trans hw', ?_⟩
        rintro _ ⟨⟩
        exact .of_found (hlogged.grown.attributes K b.key)
          (hlogged.stored.attributes b K h.lookup) hkept hnow
      | none =>
        simp only [World.attributeOrInsert_of_none hnow] at heq
        cases heq
        have hi := (hv i rfl).mono hw'
        have hw'' : (u.world.log notice).ProlongedBy
            ((u.world.log notice).setAttribute K b.key i) :=
          .of_things (World.things_setAttribute ..)
        refine ⟨⟨hgrown, hlogged.parted.of_things (World.things_setAttribute ..),
          hlogged.prolonged.trans hw'', hlogged.stored.setAttribute h.lookup hi⟩,
          hw.trans (hw'.trans hw''), ?_⟩
        rintro _ ⟨⟩
        exact .of_sourced hbefore (hi.mono hw'')

/-- What a context keeps. -/
theorem keep (name : String)
    (hkept : keptBefore? s₀ b = (s₀.world.context name).kept.get? b.key) :
    (c.descending s₀).Ensures (fun _ => True) (Wiring.byRule name b.key create .keep)
      fun s i => c.Fetched s₀ b s.world i := by
  intro s hs _ r t hrun
  have hgrown : c.Grown s₀ t :=
    (Concord.ofExcept_iff.mp (h.concord_keep hcreate name) s hs.grown r t hrun).1
  cases hfound : (s.world.context name).kept.get? b.key with
  | some i =>
    simp only [Wiring.byRule, Run.bind_eq, Run.read, hfound] at hrun
    cases hrun
    refine ⟨hs, .refl _, ?_⟩
    rintro _ ⟨⟩
    exact .of_found (hs.grown.contexts name b.key) (hs.stored.contexts b name h.lookup) hkept hfound
  | none =>
    have hbefore := (hs.grown.contexts name b.key).none hfound
    rw [← hkept] at hbefore
    simp only [Wiring.byRule, Run.bind_eq, Run.read, hfound] at hrun
    rcases hcreated : create s with _ | ⟨o, u⟩
    · rw [hcreated] at hrun
      cases hrun
    rw [hcreated] at hrun
    obtain ⟨hu, hw, hv⟩ := hsourced s hs trivial o u hcreated
    cases o with
    | error e =>
      cases hrun
      exact ⟨hu, hw, fun i hi => by cases hi⟩
    | ok i =>
      cases hrun
      have hw' : u.world.ProlongedBy (u.world.keepInContext name b.key i) := .of_things rfl
      have hstored : c.Stored s₀ (u.inWorld (u.world.keepInContext name b.key i)) :=
        hu.stored.keepInContext h.lookup (hv i rfl)
      refine ⟨⟨hgrown, hu.parted, hu.prolonged.trans hw', hstored⟩, hw.trans hw', ?_⟩
      rintro _ ⟨⟩
      exact .of_sourced hbefore ((hv i rfl).mono hw')

/-- Each rule of a context gives what it should. -/
theorem byRule {name : String} {rule : AccessRule}
    (hscope : b.scope = .contextual (.named name rule)) :
    (c.descending s₀).Ensures (fun _ => True) (Wiring.byRule name b.key create rule)
      fun s i => c.Fetched s₀ b s.world i := by
  have hmade : ∀ m, (keptBefore? s₀ b = none → ¬ c.Draws s₀ b) → keptBefore? s₀ b = none →
      (c.descending s₀).Ensures (fun _ => True) (.act (·.makeBy m))
        fun s i => c.Fetched s₀ b s.world i := fun m hnever hnone =>
    act (c.changes_makeInstance · m.ty m.label) fun _ _ _ =>
      ⟨fun _ hj => absurd (hnone.symm.trans hj) nofun, fun _ hdraws => absurd hdraws (hnever hnone)⟩
  have hplain : keptBefore? s₀ b = none → (c.descending s₀).Ensures (fun _ => True) create
      fun s i => c.Fetched s₀ b s.world i := fun hnone =>
    hsourced.weaken (fun _ h => h) fun _ _ => .of_sourced hnone
  cases rule with
  | pass => exact hplain (by rw [keptBefore?, hscope])
  | twice => exact hsourced.allows.bind fun _ => hplain (by rw [keptBefore?, hscope])
  | replace m =>
    exact hmade m (fun _ hdraws => by rwa [Draws, hscope] at hdraws) (by rw [keptBefore?, hscope])
  | fallback m =>
    -- The context makes an instance by itself only if the source fails. The source fails now exactly
    -- if it failed in `s₀`, and then nothing is drawn from it.
    have hnone : keptBefore? s₀ b = none := by rw [keptBefore?, hscope]
    refine Ensures.bind (V := fun s r => (∀ i, r = .ok i → c.Sourced s₀ s.world b.source i) ∧
      ((∃ i, r = .ok i) ↔ ∃ i, r₀ = .ok i)) ?_ fun r => ?_
    · intro s hs _ r t hrun
      obtain ⟨⟨o, t⟩, hcreated, heq⟩ := Option.map_eq_some_iff.mp hrun
      cases heq
      obtain ⟨ht, hw, hv⟩ := hsourced s hs trivial o t hcreated
      have hend := (Concord.ofExcept_iff.mp hcreate s hs.grown o t hcreated).2
      refine ⟨ht, hw, ?_⟩
      rintro _ ⟨⟩
      exact ⟨hv, hend.isOk_iff⟩
    · cases r with
      | ok i => exact Ensures.succeed fun _ _ hv => .of_sourced hnone (hv.1 i rfl)
      | error e =>
        refine fun s hs hv => hmade m (fun _ hdraws => ?_) hnone s hs trivial
        rw [Draws, hscope] at hdraws
        obtain ⟨i, t, hrun⟩ := hdraws
        obtain ⟨t', hrun'⟩ := h.supply
        cases hrun.symm.trans hrun'
        obtain ⟨j, hj⟩ := hv.2.mpr ⟨i, rfl⟩
        cases hj
  | keep => exact keep h hcreate hsourced name (by rw [keptBefore?, hscope])

/-- Each scope gives what it should. -/
theorem withinScope :
    (c.descending s₀).Ensures (fun _ => True) (Wiring.withinScope b create)
      fun s i => c.Fetched s₀ b s.world i := by
  have hexchange : (c.descending s₀).Ensures (fun _ => True) (.read (·.world.currentExchange?))
      fun _ e => e = s₀.world.currentExchange? := Ensures.read fun s hs _ => by
    rw [World.currentExchange?, World.currentExchange?, hs.grown.continues.current]
  unfold Wiring.withinScope
  cases hscope : b.scope with
  | unscoped =>
    exact hsourced.weaken (fun _ h => h) fun _ _ => .of_sourced (by rw [keptBefore?, hscope])
  | singleton => exact inSlot h hcreate hsourced (by rw [keptBefore?, hscope])
  | contextual accessor =>
    unfold Wiring.accessed
    cases accessor with
    | request =>
      refine hexchange.bind fun e => Ensures.of_fact fun he => ?_
      cases e with
      | none => exact Ensures.fail _
      | some e =>
        refine keptBy h hcreate hsourced ?_ _
        rw [keptBefore?, hscope]
        dsimp only
        rw [← he, Option.bind_some]
    | session =>
      refine hexchange.bind fun e => Ensures.of_fact fun he => ?_
      cases e with
      | none => exact Ensures.fail _
      | some e =>
        refine Ensures.bind (V := fun _ id =>
          keptBefore? s₀ b = (s₀.world.attributes (.session id)).get? b.key) ?_ fun id =>
            Ensures.of_fact fun hid => keptBy h hcreate hsourced hid _
        refine act (c.changes_sessionOf · e.request) fun s hs _ => ?_
        rw [keptBefore?, hscope]
        dsimp only
        rw [← he, Option.bind_some, ← hs.grown.get?_sessionOf e.request b.key]
    | named name rule =>
      refine (emit (.contextConsulted name b.key)).bind fun _ => ?_
      refine Ensures.bind (V := fun _ _ => True) (Ensures.read fun _ _ _ => trivial)
        fun opened => ?_
      cases opened with
      | true => exact byRule h hcreate hsourced hscope
      | false => exact Ensures.fail _

end

end Descent

/-! ### Resolution -/

variable (c) in
/-- Each deferred binding injects an object that is there, once. -/
def InjectsOnce : Prop := ∀ (b : Binding) d, c.registry.lookup b.key = some b →
  b.source.deferral = some d → ∃ cls id, d = .once cls id

/-- Objects that are there anchor deferred bindings. -/
theorem InjectsOnce.anchored (h : c.InjectsOnce) (s₀ : State) : c.Anchored s₀ := fun b d hb hd =>
  have ⟨cls, id, hd⟩ := h b d hb hd
  .inr ⟨cls, id, by rw [hd]; rfl⟩

section

open Discipline

variable (hconstant : c.Constant) (honce : c.InjectsOnce) (hrest : c.resting.Inv s₀)
include hconstant honce hrest

/-- What a binding gives is fetched, if what it needs stems from its dependencies. -/
theorem fetched_resolveBinding {b : Binding} (hb : c.registry.lookup b.key = some b)
    {self : Dependency → Run Instance} (hacyclic : ∀ e, c.SourceNeeds b.source e → c.Acyclic e)
    (hresolve : ∀ e, c.SourceNeeds b.source e → c.Even s₀ c.resolve c.resolve e)
    (hself : ∀ e, c.SourceNeeds b.source e → c.Even s₀ self c.resolve e)
    (hneeds : ∀ e, c.SourceNeeds b.source e → c.HandsDown s₀ self e) :
    (c.descending s₀).Ensures (fun _ => True) (c.resolveBinding self b)
      fun s i => c.Fetched s₀ b s.world i := by
  have hanchored := honce.anchored s₀
  obtain ⟨r₀, h⟩ := exists_yields hb hacyclic hrest
  obtain ⟨t₀, hsupply⟩ := h.supply
  have hcreate := (concord_supply_of_even hconstant.toSteady hrest hanchored hb hacyclic hresolve
    hself).of_run (.refl hrest.1) hsupply
  refine Descent.withinScope h hcreate (Descent.supply (fun d hd => ?_) hneeds)
  obtain ⟨cls, id, rfl⟩ := honce b d hb hd
  exact Descent.force hb hd (concord_force_of_even hconstant.toSteady hrest hanchored hb hd hacyclic
    hself hself) hneeds

/-- What a dependency is resolved to is the same as to begin with, but for identities. -/
theorem resembles_resolveWithin {d : Dependency} (hd : c.Acyclic d) {n : Nat} {t : State}
    {i : Instance} (hs : c.Grown s₀ s) (hrun : c.resolveWithin n d s = some (.ok i, t)) :
    c.Resembles s₀ d i := by
  obtain ⟨r₀, t₀, hrun₀⟩ := (terminates_resolve hd _ _ (c.free_none d) fun _ _ => nofun).ends
    trivial hrest trivial
  have heven := even_resolveWithin hconstant.toSteady hrest (honce.anchored s₀) hd.shallow n
    c.depthBound
  obtain ⟨-, -, hend⟩ := heven s s₀ hs (.refl hrest.1) _ _ _ _ hrun hrun₀
  obtain ⟨j, rfl⟩ := hend.isOk_iff.mp ⟨i, rfl⟩
  exact ⟨j, t₀, hrun₀, hconstant.sameButIdentity hend⟩

/-- **What a dependency is resolved to stems from it**, within any depth. -/
theorem handsDown_resolveWithin {k : Nat} {d : Dependency} (hd : c.Shallow k d) (n : Nat) :
    c.HandsDown s₀ (c.resolveWithin n) d := by
  -- By induction on how deep the dependency leads. The depth within which it is resolved is any
  -- other one, since a run that gets stuck hands down nothing.
  induction k generalizing d n with
  | zero => exact absurd hd.pos (Nat.lt_irrefl 0)
  | succ k ih =>
    cases n with
    | zero => exact Ensures.stuck
    | succ n =>
      have hsourced : (c.descending s₀).Ensures (fun _ => True) (c.resolveWithin (n + 1) d)
          fun s i => ∀ source, c.Origin s₀ d source → c.Sourced s₀ s.world source i := by
        refine (Descent.emit _).bind fun _ => Descent.noting ?_ fun i s t hw h source horigin =>
          (h source horigin).mono hw
        unfold answer
        cases hb : c.registry.lookup d.key with
        | some b =>
          have hb' : c.registry.lookup b.key = some b := by rw [Registry.key_of_lookup hb, hb]
          have hleads : ∀ e, c.SourceNeeds b.source e → c.Shallow k e := fun e he =>
            hd.leads (leads_of_needs hb he)
          have heven : ∀ n e, c.SourceNeeds b.source e →
              c.Even s₀ (c.resolveWithin n) c.resolve e := fun n e he => by
            rw [resolve_eq_resolveWithin]
            exact even_resolveWithin hconstant.toSteady hrest (honce.anchored s₀) (hleads e he) n _
          refine (fetched_resolveBinding hconstant honce hrest hb'
            (fun e he => (hleads e he).acyclic) ?_ (heven n) fun e he => ih (hleads e he) n).weaken
            (fun _ h => h) fun _ _ hfetched _ horigin => hfetched.sourced hb horigin
          rw [resolve_eq_resolveWithin] at heven ⊢
          exact heven _
        | none =>
          cases hcls : c.justInTime d with
          | none => exact Ensures.fail _
          | some cls =>
            have hleads : ∀ e, c.ConstructionNeeds cls e → c.Shallow k e := fun e he =>
              hd.leads (leads_of_class hb hcls he)
            have hconstruct := Descent.construct fun e he => ih (hleads e he) n
            refine hconstruct.weaken (fun _ h => h) fun _ _ hsourced source horigin => ?_
            cases horigin with
            | kept hb' _ => cases hb.symm.trans hb'
            | bound hb' _ _ => cases hb.symm.trans hb'
            | unbound _ hcls' =>
              cases hcls.symm.trans hcls'
              exact hsourced
      intro s hs _ r t hrun
      obtain ⟨ht, hw, hv⟩ := hsourced s hs trivial r t hrun
      refine ⟨ht, hw, fun i hi => stems_iff.mpr ⟨?_, hv i hi⟩⟩
      subst hi
      exact resembles_resolveWithin hconstant honce hrest hd.acyclic hs.grown hrun

/-- What a dependency is resolved to stems from it. -/
theorem handsDown_resolve {d : Dependency} (hd : c.Acyclic d) : c.HandsDown s₀ c.resolve d :=
  handsDown_resolveWithin hconstant honce hrest hd.shallow _

end

end Container

end Wiring
