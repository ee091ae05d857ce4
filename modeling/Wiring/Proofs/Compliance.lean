import Wiring.Proofs.Availability
import Wiring.Proofs.Catalogs
import Wiring.Proofs.Contract
import Wiring.Proofs.Needs

/-!
# What the Functions of a Container Owe

If a contract governs a container, then what the container does keeps to it, function by function.
As in the module on conduct, everything is stated for a way `self` to resolve what is needed along
the way. But only what is really needed has to keep to the contract: the lemmas say which
dependencies a function may ask for, and these make up the relation `Container.Leads`.

## Conventions

A contract may have its own view of slots, deferred bindings, marks and of what requests, sessions
and contexts keep. So the lemmas about these take what the contract says about them as
assumptions. A contract without a view of its own is one that `governs` everything.

## Main statements

* `Contract.Governs`: what a contract has to allow.
* `Compliance.construct`, `Compliance.injectObject`, `Compliance.provision`: what the functions owe.
* `Compliance.resolveStep`: what a resolution owes if what it leads to keeps to the contract.
* `Contract.GovernsAll`: contracts without a view of their own.
-/

namespace Wiring

/-- The type of what an object of class `cls` supplies where values of type `ty` are asked for. -/
def ClassTable.suppliedBy (t : ClassTable) (cls : ClassPath) (ty : Ty) : Ty :=
  match (t.decl cls).supply with
  | .calls _ => ty
  | .copyOf part => .component part

namespace Container

variable (c : Container)

/-! ### What is given -/

/-- A container or its world holds a value as one of a type. -/
inductive Holds (s : State) : Ty → Value → Prop where
  /-- A singleton. -/
  | slot {key : Key} {i : Instance} : s.memory.slots.get? key = some (.full i) →
    Holds s key.ty i.value
  /-- The object of a deferred binding. -/
  | deferred {b : Binding} {d : Deferral} {i : Instance} : c.registry.lookup b.key = some b →
    b.source.deferral = some d → s.memory.readiness b.key = .ready i →
    Holds s (.component d.subject.cls) i.value
  /-- An instance that a request or a session keeps. -/
  | kept {k : World.Keeper} {key : Key} {i : Instance} :
    (s.world.attributes k).get? key = some i → Holds s key.ty i.value
  /-- An instance that a context keeps for a binding. -/
  | context {b : Binding} {name : String} {rule : AccessRule} {i : Instance} :
    c.registry.lookup b.key = some b → b.scope = .contextual (.named name rule) →
    (s.world.context name).kept.get? b.key = some i → Holds s b.key.ty i.value
  /-- An instance that is bound. -/
  | given {b : Binding} {i : Instance} : c.registry.lookup b.key = some b →
    b.source = .given i → Holds s b.key.ty i.value
  /-- An object whose members are to be injected. -/
  | subject {b : Binding} {d : Deferral} {cls : ClassPath} {id : Nat} :
    c.registry.lookup b.key = some b → b.source.deferral = some d → d.subject = .existing cls id →
    Holds s (.component cls) (.object cls id)

/-- The type of what a binding provides. -/
def providedTy (b : Binding) : Ty :=
  match b.source with
  | .given _ => b.key.ty
  | .provider p => p.ty
  | .providerType _ cls ty => c.classes.suppliedBy cls ty
  | .constructor cls => .component cls
  | .injected d => .component d.subject.cls
  | .injectedProvider d ty => c.classes.suppliedBy d.subject.cls ty

end Container

/-- Whether an error says that something could not be found: a catalog, a binding, a constructor or
an open context. These are the errors that containers come to by themselves, whatever they are
given. -/
def ConfigurationError.isLack : ConfigurationError → Bool
  | optionalConstructor _ | multipleConstructors .. => true
  | missingBinding .. | noConstructor .. | outOfScope .. => true
  | _ => false

/-- Whether an error says that an argument was not of the type that it was read as, or that there
was none. -/
def ConfigurationError.isMisfit : ConfigurationError → Bool
  | typeMismatch .. | missingArgument .. => true
  | _ => false

/-- Reading arguments fails only for arguments that do not fit. -/
theorem Arguments.isMisfit_of_readAll {a : Arguments} {tys : List Ty} {e : ConfigurationError}
    (h : (a.readAll tys).error = some e) : e.isMisfit = true := by
  induction tys generalizing a with
  | nil => cases h
  | cons ty tys ih =>
    rw [readAll_cons] at h
    split at h
    · next e' he =>
      cases h
      unfold next at he
      split at he
      · cases he
        rfl
      · unfold Instance.cast at he
        split at he
        · cases he
        · cases he
          rfl
    · exact ih h

/-- What is declared about a class is plain if its members only read their arguments and its objects
never fail as providers. -/
structure ClassDecl.IsPlain (decl : ClassDecl) : Prop where
  /-- Members. -/
  member : ∀ m ∈ decl.members, ∃ tys, m.action = .reading tys .none
  /-- Objects of the class. -/
  supply : ∀ outcome, decl.supply = .calls outcome → ∀ cls id n e, outcome cls id n ≠ .error e

/-- A class is plain if all of its members do nothing but read their arguments. -/
theorem ClassDecl.isPlain_of_members {members : List Member} {consulted : List ClassPath}
    (h : ∀ m ∈ members, ∃ tys, m.action = .reading tys .none) :
    IsPlain ⟨members, consulted, .fresh fun _ => .none⟩ where
  member := h
  supply outcome h cls id n e := by
    cases h
    exact nofun

/-- A class that declares nothing is plain. -/
theorem ClassDecl.isPlain_none : IsPlain .none := isPlain_of_members nofun

namespace Contract

/-- A contract allows what a container does, but for slots, deferred bindings, marks, and what
requests, sessions and contexts begin to keep. -/
structure Governs (K : Contract) (c : Container) : Prop where
  /-- Only catalogs of the class table are kept. -/
  faithful : ∀ {s}, K.Inv s → s.Faithful c
  /-- The effects by which nothing begins to be kept are allowed. -/
  effect : ∀ {s s'}, K.Inv s → Effect c (fun _ => False) s s' → K.Moves s s'
  /-- What is held may be given. -/
  held : ∀ {s ty v}, K.Inv s → c.Holds s ty v → K.Fits s ty v
  /-- A value of a type that refers to nothing may be given. -/
  plain : ∀ {s} {v : Value}, K.Inv s → v.thing? = none → K.Fits s v.ty v
  /-- A new thing may be given. -/
  fresh : ∀ {s} {v : Value} (t : Thing), K.Inv s → v.thing? = some s.world.things.size →
    K.Fits (s.inWorld { s.world with things := s.world.things.push t }) v.ty v
  /-- What a binding provides may be given for its key. -/
  provided : ∀ {s v} {b : Binding}, K.Inv s → c.registry.lookup b.key = some b →
    K.Fits s (c.providedTy b) v → K.Fits s b.key.ty v
  /-- What is asked for as a provider may be given as one. -/
  provider : ∀ {s v} {b : Binding} {d cls ty}, K.Inv s → c.registry.lookup b.key = some b →
    b.source = .providerType d cls ty → K.Fits s d.key.ty v → K.Fits s (.component cls) v
  /-- What a context makes in place of an instance may be given for the key. -/
  replaced : ∀ {s v} {b : Binding} {name m}, K.Inv s → c.registry.lookup b.key = some b →
    b.scope = .contextual (.named name (.replace m)) ∨
      b.scope = .contextual (.named name (.fallback m)) →
    K.Fits s m.ty v → K.Fits s b.key.ty v
  /-- It may be reported that something could not be found. A binding is reported to be missing only
  where one is. -/
  lack : ∀ e : ConfigurationError, e.isLack = true →
    (∀ key requiredBy, e = .missingBinding key requiredBy → c.Misses key requiredBy) → K.Error e
  /-- It may be reported that something is not of the type it should be of. -/
  mistyped : ∀ {s ty v}, K.Inv s → K.Fits s ty v → v.ty ≠ ty →
    K.Error (.typeMismatch ty.name v.ty.name)
  /-- The errors of members may be reported. -/
  member : ∀ {s cls cat m values e}, K.Inv s → c.classes.catalog cls = .ok cat →
    m ∈ cat.members → List.Forall₂ (fun d i => K.Fits s d.key.ty i.value) m.dependencies values →
    (m.action (.ofList (cat.memberName m) values)).error = some e → K.Error e
  /-- The errors of providers may be reported. -/
  failure : ∀ {b : Binding} {ty label outcome n e}, c.registry.lookup b.key = some b →
    b.source = .provider (.calls ty label outcome) → outcome n = .error e → K.Error e
  /-- The errors of objects that are called as providers may be reported. -/
  supply : ∀ {cls outcome id n e}, (c.classes.decl cls).supply = .calls outcome →
    outcome cls id n = .error e → K.Error e

namespace Governs

variable {K : Contract} {c : Container} (h : K.Governs c) {s : State}
include h

/-- What is put together from effects is allowed. -/
theorem changes {s' : State} (hs : K.Inv s) (hc : c.Changes s s') : K.Moves s s' := by
  induction hc with
  | refl => exact .refl hs
  | tail _ heffect ih => exact ih.trans (h.effect ih.1 heffect)

/-- What changes the world in permitted ways is allowed. -/
theorem act {α : Type} {f : World → α × World}
    (hf : ∀ s : State, c.Changes s (s.inWorld (f s.world).2)) : K.Allows (.act f) :=
  Meets.act fun s hs _ => ⟨h.changes hs (hf s), trivial⟩

/-- Entries in the journal that are no marks are allowed. -/
theorem emit {e : Event} (he : e.isMark = false) : K.Allows (.emit e) :=
  Meets.change fun _ hs _ => h.effect hs (.emit e he)

theorem log (n : Notice) (hn : (Event.logged n).isMark = false) : K.Allows (.log n) := h.emit hn

/-- A value may be given once it is wrapped. -/
theorem wrap (ty : Ty) (v : Value) :
    K.Meets (fun s => K.Fits s ty v) (.act (·.wrap v)) fun s i => K.Fits s ty i.value := by
  refine Meets.act fun s hs hv => ?_
  have hmoves := h.effect hs (.wrap v)
  exact ⟨hmoves, K.fits_step hmoves.2 hv⟩

/-- An object that is added is of its class. -/
theorem addObject (cls : ClassPath) (history : List Call) :
    K.Meets (fun _ => True) (.act (·.addObject cls history ∅))
      fun s id => K.Fits s (.component cls) (.object cls id) :=
  Meets.act fun s hs _ =>
    ⟨h.changes hs (c.changes_addObject s cls history),
      h.fresh (v := .object cls s.world.things.size) _ hs rfl⟩

/-- An object that is made is of its class. -/
theorem makeObject (cls : ClassPath) : K.Meets (fun _ => True) (.act (·.makeObject cls))
    fun s id => K.Fits s (.component cls) (.object cls id) := by
  refine Meets.act fun s hs _ => ?_
  have h1 := h.changes hs (c.changes_addObject s cls [])
  have h2 := h.effect h1.1 (.emit (.objectMade cls s.world.things.size) rfl)
  exact ⟨h1.trans h2,
    K.fits_step h2.2 (h.fresh (v := .object cls s.world.things.size) _ hs rfl)⟩

/-- A value that is made is of the type asked for. -/
theorem make (hs : K.Inv s) (ty : Ty) (label : String) :
    K.Fits (s.inWorld (s.world.make ty label).2) ty (s.world.make ty label).1 := by
  have hmoves := h.changes hs (c.changes_make s ty label)
  cases ty with
  | component cls =>
    have h1 := h.changes hs (c.changes_addObject s cls [])
    have h2 := h.effect h1.1 (.emit (.objectMade cls s.world.things.size) rfl)
    exact K.fits_step h2.2 (h.fresh (v := .object cls s.world.things.size) _ hs rfl)
  | interface iface =>
    have h1 := h.effect hs (.thing .service trivial)
    have h2 := h.effect h1.1 (.emit (.serviceMade label s.world.things.size) rfl)
    exact K.fits_step h2.2 (h.fresh (v := .service iface label s.world.things.size) _ hs rfl)
  | text => exact h.plain (v := .text _) hmoves.1 rfl
  | number => exact h.plain (v := .number _) hmoves.1 rfl
  | request => exact h.plain (v := .request _) hmoves.1 rfl
  | response => exact h.plain (v := .response _) hmoves.1 rfl
  | session => exact h.plain (v := .session _) hmoves.1 rfl
  | parameters => exact h.plain (v := .parameters _) hmoves.1 rfl

/-- An instance that is made for a label is of its type. -/
theorem makeInstance (ty : Ty) (label : String) : K.Gives ty (.act (·.makeInstance ty label)) := by
  refine Meets.act fun s hs _ => ?_
  have h1 := h.changes hs (c.changes_make s ty label)
  have h2 := h.effect h1.1 (.wrap (s.world.make ty label).1)
  exact ⟨h1.trans h2, K.fits_step h2.2 (h.make hs ty label)⟩

/-- Calls of providers may be counted. -/
theorem countCall (key : Key) : K.Allows (.remember (·.countCall key)) :=
  Meets.remember fun _ hs _ => h.effect hs (.countCall key)

/-- A catalog that is found is the one of the class table. -/
theorem catalog (cls : ClassPath) : K.Meets (fun _ => True) (c.catalog cls)
    fun _ cat => c.classes.catalog cls = .ok cat := by
  have hnote : K.Meets (fun _ => True) (.note (catalogOf c.classes cls))
      fun _ r => r = c.classes.catalog cls := by
    intro s hs _
    have hfst := catalogOf_fst c.classes cls s.notebook
    rw [Notebook.Faithful.look_eq (h.faithful hs)] at hfst
    exact ⟨h.changes hs (c.changes_catalogOf s cls), hfst⟩
  refine hnote.bind fun r => Meets.ofExcept (fun cat hcat s _ hr => ?_) fun e he s _ hr => ?_
  · rw [← hr, hcat]
  · subst hr
    suffices hlack : e.isLack = true ∧ ∀ key requiredBy, e ≠ .missingBinding key requiredBy from
      h.lack e hlack.1 fun _ _ heq => absurd heq (hlack.2 _ _)
    unfold ClassTable.catalog Catalog.build Catalog.soleConstructor at he
    dsimp only at he
    split at he
    · cases he
      exact ⟨rfl, nofun⟩
    · split at he
      · cases he
      · cases he
      · cases he
        exact ⟨rfl, nofun⟩

/-- If no dependency is found that is not available, then all are. -/
theorem firstUnavailable (ds : List Dependency) : K.Meets (fun _ => True) (c.firstUnavailable ds)
    fun _ r => r = none → ∀ d ∈ ds, c.isAvailable d = true := by
  intro s hs _
  refine ⟨h.changes hs (c.changes_firstUnavailable s ds), fun hnone => ?_⟩
  obtain ⟨nb, -, hfound⟩ := c.firstUnavailable_eq ds (h.faithful hs)
  have hfirst : (Notebook.firstFailing c.available ds s.notebook).1 =
      ds.find? (!c.isAvailable ·) :=
    Except.ok.inj (congrArg Prod.fst (Option.some.inj hfound))
  rw [hfirst, List.find?_eq_none] at hnone
  simpa using hnone

/-- It may be asked what can be resolved. -/
theorem canResolve (d : Dependency) : K.Allows (c.canResolve d) :=
  fun s hs _ => ⟨h.changes hs (c.changes_available s d), trivial⟩

end Governs

variable {K : Contract} {c : Container} {self : Dependency → Run Instance}

namespace Compliance

/-! ### Arguments and members -/

/-- Values may be given for some dependencies. -/
def Suits (K : Contract) (ds : List Dependency) (s : State) (values : List Instance) : Prop :=
  List.Forall₂ (fun d i => K.Fits s d.key.ty i.value) ds values

/-- Arguments that suit their dependencies go on to do so. -/
theorem lasting_suits (ds : List Dependency) (values : List Instance) :
    K.Lasting fun s => Suits K ds s values := fun _ _ hstep hsuits =>
  hsuits.imp fun _ _ => K.fits_step hstep

/-- If nothing can supply a dependency, then the member that asks for it cannot do without it. -/
def Blames (c : Container) (member : String) (d : Dependency) : Prop :=
  c.registry.contains d.key = false → c.justInTime d = none → c.Misses d.key.text member

/-- A required member may be blamed for each of its dependencies. -/
theorem blames_of_insists {cls : ClassPath} {cat : Catalog} (hcat : c.classes.catalog cls = .ok cat)
    {m : Member} (hm : cat.Insists m) :
    ∀ d ∈ m.dependencies, Blames c (cat.memberName m) d := fun d hd hbound hjit =>
  ⟨cls, cat, m, d, hcat, hm, hd, hbound, hjit, rfl, rfl⟩

/-- What a member requires is of the type it asks for. -/
theorem resolveRequired (h : K.Governs c) {d : Dependency} (hself : K.Gives d.key.ty (self d))
    {member : String} (hmember : Blames c member d) :
    K.Gives d.key.ty (c.resolveRequired self member d) := by
  unfold Container.resolveRequired
  split
  · exact hself
  · next hreach =>
    rw [Bool.not_eq_true, Bool.or_eq_false_iff, Option.isSome_eq_false_iff,
      Option.isNone_iff_eq_none] at hreach
    refine Meets.fail fun _ _ _ => h.lack _ rfl fun key requiredBy heq => ?_
    cases heq
    exact hmember hreach.1 hreach.2

/-- The arguments of a member suit its dependencies. -/
theorem arguments (h : K.Governs c) {ds : List Dependency}
    (hself : ∀ d ∈ ds, K.Gives d.key.ty (self d)) {member : String}
    (hmember : ∀ d ∈ ds, Blames c member d) :
    K.Meets (fun _ => True) (Run.collect (c.resolveRequired self member) ds) (Suits K ds) :=
  Meets.collect (fun d hd => resolveRequired h (hself d hd) (hmember d hd))
    fun _ _ => lasting_fits _ _

/-- Arguments of an optional member are asked for only if all are available, and so none of them is
missing. -/
theorem argumentsFor (h : K.Governs c) {ds : List Dependency}
    (hself : ∀ d ∈ ds, K.Gives d.key.ty (self d)) {member : String} {optional : Bool}
    (hmember : optional = false → ∀ d ∈ ds, Blames c member d) :
    K.Meets (fun _ => True) (c.argumentsFor self member ds optional)
      fun s r => ∀ values, r = some values → Suits K ds s values := by
  have hrequired (hmember : ∀ d ∈ ds, Blames c member d) :
      K.Meets (fun _ => True) (c.argumentsFor self member ds false)
        fun s r => ∀ values, r = some values → Suits K ds s values := by
    rw [Container.argumentsFor_required]
    refine (arguments h hself hmember).bind fun values => Meets.succeed fun s _ hsuits vs hvs => ?_
    cases hvs
    exact hsuits
  cases optional with
  | false => exact hrequired (hmember rfl)
  | true =>
    rw [Container.argumentsFor_optional]
    refine (h.firstUnavailable ds).bind fun d => ?_
    cases d with
    | none =>
      intro s hs havailable
      refine hrequired (fun d hd hbound hjit => ?_) s hs trivial
      have hreach := Container.reach_of_isAvailable (havailable rfl d hd)
      simp [hbound, hjit] at hreach
    | some d =>
      exact (h.log _ rfl).restrict.bind fun _ => Meets.succeed fun _ _ _ _ hvs => nomatch hvs

/-- The call of a member that a catalog lists. -/
theorem attemptCall (h : K.Governs c) {cls : ClassPath} {cat : Catalog}
    (hcat : c.classes.catalog cls = .ok cat) {m : Member} (hm : m ∈ cat.members)
    (values : List Instance) :
    K.Meets (Suits K m.dependencies · values)
      (Container.attemptCall m (.ofList (cat.memberName m) values)) fun _ _ => True := by
  unfold Container.attemptCall
  dsimp only
  refine Meets.andThen (lasting_suits _ values) (Meets.read fun _ _ _ => trivial) fun call => ?_
  refine Meets.andThen (lasting_suits _ values) (h.emit rfl) fun _ => ?_
  cases he : (m.action (.ofList (cat.memberName m) values)).error with
  | none => exact Meets.succeed fun _ _ _ => trivial
  | some e => exact Meets.fail fun s hs hsuits => h.member hs hcat hm hsuits he

/-- The error that a member is run on an object of another class. -/
def wrongTarget (cls : ClassPath) : ConfigurationError :=
  .typeMismatch (TypeName.short cls) "injection target"

/-- Members may be run with arguments that suit them. -/
theorem runMember (h : K.Governs c) {cls : ClassPath} {cat : Catalog}
    (hcat : c.classes.catalog cls = .ok cat) {m : Member} (hm : m ∈ cat.members)
    (path : List ClassPath) {target : ClassPath}
    (htarget : target ≠ cat.cls → K.Error (wrongTarget cat.cls)) (id : Nat)
    (values : List Instance) :
    K.Meets (Suits K m.dependencies · values)
      (Container.runMember cat.cls m path target id (.ofList (cat.memberName m) values))
      fun _ _ => True := by
  by_cases hcls : target = cat.cls
  · subst hcls
    rw [Container.runMember_self]
    refine Meets.andThen (lasting_suits _ values)
      (h.act fun s => c.changes_partAlong s id path) fun part => ?_
    refine (attemptCall h hcat hm values).bind fun call => ?_
    have hrecord : K.Allows (.change (·.record part call)) :=
      Meets.change fun s hs _ => h.changes hs (c.changes_record s part call)
    exact hrecord.bind fun _ => h.emit rfl
  · rw [Container.runMember_of_ne hcls]
    exact Meets.fail fun _ _ _ => htarget hcls

/-- A member may be injected if what it needs is of the right types. -/
theorem injectPoint (h : K.Governs c) {cls : ClassPath} {cat : Catalog}
    (hcat : c.classes.catalog cls = .ok cat) {m : Member} (hm : m ∈ cat.instancePoints)
    (hself : ∀ d ∈ m.dependencies, K.Gives d.key.ty (self d)) {target : ClassPath}
    (htarget : target ≠ cat.cls → K.Error (wrongTarget cat.cls)) (id : Nat) :
    K.Allows (c.injectPoint self cat target id m) := by
  unfold Container.injectPoint
  cases m.role with
  | constructor => exact Meets.succeed fun _ _ _ => trivial
  | static form => exact Meets.succeed fun _ _ _ => trivial
  | instanceOf form path =>
    have hinsists (hopt : m.optional = false) : cat.Insists m := .inr ⟨.inl hm, hopt⟩
    refine (argumentsFor h hself fun hopt => blames_of_insists hcat (hinsists hopt)).bind
      fun values => ?_
    cases values with
    | none => exact Meets.succeed fun _ _ _ => trivial
    | some values =>
      have hlisted : m ∈ cat.members := List.mem_append_left _ (List.mem_append_right _ hm)
      exact (runMember h hcat hlisted path htarget id values).weaken (fun _ hsuits => hsuits _ rfl)
        fun _ _ h => h

/-- The members of a catalog may be injected. -/
theorem injectPoints (h : K.Governs c) {cls : ClassPath} {cat : Catalog}
    (hcat : c.classes.catalog cls = .ok cat)
    (hself : ∀ e, c.InjectionNeeds cls e → K.Gives e.key.ty (self e)) {target : ClassPath}
    (htarget : target ≠ cls → K.Error (wrongTarget cls)) (id : Nat) :
    K.Allows (c.injectPoints self cat target id) := by
  have hcls := (ClassTable.catalog_eq_ok hcat).1
  refine Meets.each fun m hm => ?_
  exact injectPoint h hcat hm (fun d hd => hself d ⟨cat, hcat, m, hm, hd⟩) (by rwa [hcls]) id

/-- The members that a class declares may be injected. -/
theorem injectObject (h : K.Governs c) {cls : ClassPath}
    (hself : ∀ e, c.InjectionNeeds cls e → K.Gives e.key.ty (self e)) {target : ClassPath}
    (htarget : target ≠ cls → K.Error (wrongTarget cls)) (id : Nat) :
    K.Allows (c.injectObject self cls target id) := by
  refine (h.catalog cls).bind fun cat => ?_
  intro s hs hcat
  exact injectPoints h hcat hself htarget id s hs trivial

/-- The entries that tell of the stages of a build up to the `n`-th may be made. -/
def Stages (K : Contract) (n : Nat) : Prop :=
  ∀ e : Event, e.stage ≠ 0 → e.stage ≤ n → K.Allows (.emit e)

/-- The static members of a class may be injected. -/
theorem injectStatics (h : K.Governs c) (hstage : Stages K 1) {cls : ClassPath}
    (hself : ∀ e, c.StaticNeeds cls e → K.Gives e.key.ty (self e)) :
    K.Allows (c.injectStatics self cls) := by
  refine (h.catalog cls).bind fun cat => ?_
  intro s hs hcat
  refine Meets.each (fun m hm => ?_) s hs trivial
  have hlisted : m ∈ cat.members := List.mem_append_right _ hm
  have hinsists (hopt : m.optional = false) : cat.Insists m := .inr ⟨.inr hm, hopt⟩
  unfold Container.injectStaticPoint
  refine (argumentsFor h (fun d hd => hself d ⟨cat, hcat, m, hm, hd⟩)
    fun hopt => blames_of_insists hcat (hinsists hopt)).bind fun values => ?_
  cases values with
  | none => exact Meets.succeed fun _ _ _ => trivial
  | some values =>
    refine Meets.weaken ?_ (fun _ hsuits => hsuits _ rfl) fun _ _ h => h
    refine Meets.andThen (lasting_suits _ values)
      (hstage (.logged (.injectingStatic _)) Nat.one_ne_zero (Nat.le_refl _)) fun _ => ?_
    refine (attemptCall h hcat hlisted values).bind fun call => ?_
    exact hstage (.injectedStatic _ call) Nat.one_ne_zero (Nat.le_refl _)

/-! ### Objects -/

/-- The constructor that is found is the one of the catalog. -/
theorem constructorOf (h : K.Governs c) (cat : Catalog) :
    K.Meets (fun _ => True) (Container.constructorOf cat)
      fun _ m => cat.constructor = some m := by
  unfold Container.constructorOf
  cases hm : cat.constructor with
  | none => exact Meets.fail fun _ _ _ => h.lack _ rfl nofun
  | some m => exact Meets.succeed fun _ _ _ => rfl

/-- A constructor that is given what suits it makes an object of its class. -/
theorem runConstructor (h : K.Governs c) {cls : ClassPath} {cat : Catalog}
    (hcat : c.classes.catalog cls = .ok cat) {m : Member} (hm : cat.constructor = some m)
    (values : List Instance) :
    K.Meets (Suits K m.dependencies · values)
      (Container.runConstructor cat.cls m (.ofList (cat.memberName m) values))
      fun s id => K.Fits s (.component cls) (.object cls id) := by
  have hcls := (ClassTable.catalog_eq_ok hcat).1
  have hlisted : m ∈ cat.members := by
    refine List.mem_append_left _ (List.mem_append_left _ ?_)
    rw [hm]
    exact List.mem_singleton_self m
  unfold Container.runConstructor
  refine (attemptCall h hcat hlisted values).bind fun call => ?_
  rw [hcls]
  refine (h.addObject cls [call]).bind fun id => ?_
  refine Meets.andThen (lasting_fits _ _) (h.emit rfl) fun _ => Meets.succeed fun _ _ hid => hid

/-- Constructing a class gives one of its objects. -/
theorem construct (h : K.Governs c) {cls : ClassPath}
    (hself : ∀ e, c.ConstructionNeeds cls e → K.Gives e.key.ty (self e)) :
    K.Gives (.component cls) (c.construct self cls) := by
  unfold Container.construct
  refine (h.catalog cls).bind fun cat => ?_
  intro s hs hcat
  refine Meets.bind (constructorOf h cat) (fun m => ?_) s hs trivial
  intro s hs hm
  refine Meets.bind (arguments h (fun d hd => hself d (.inr ⟨cat, m, hcat, hm, hd⟩))
    (blames_of_insists hcat (.inl hm))) (fun values => ?_) s hs trivial
  refine Meets.andThen (lasting_suits _ values) (h.log _ rfl) fun _ => ?_
  refine (runConstructor h hcat hm values).bind fun id => ?_
  refine Meets.andThen (lasting_fits _ _) ?_ fun _ => h.wrap _ _
  exact injectPoints h hcat (fun e he => hself e (.inl he)) (fun hne => absurd rfl hne) id

/-! ### Deferred bindings -/

/-- Injections may be repeated. -/
theorem injectRounds (h : K.Governs c) {d : Deferral}
    (hself : ∀ e, c.InjectionNeeds d.subject.cls e → K.Gives e.key.ty (self e)) (id n : Nat) :
    K.Allows (c.injectRounds self d id n) := by
  induction n with
  | zero => exact Meets.succeed fun _ _ _ => trivial
  | succ n ih =>
    rw [Container.injectRounds_succ]
    have hround := injectObject h hself (fun hne => absurd rfl hne) id
    refine hround.attempt.bind fun r => Meets.bind (V := fun _ _ => True) ?_ fun _ => ih
    rcases r with e | ⟨⟩
    · unfold Container.passOver
      dsimp only
      split
      · exact (h.emit rfl).restrict
      · exact Meets.fail fun _ _ he => he
    · exact Meets.succeed fun _ _ _ => trivial

/-- The subject of a deferral is an object of its class. -/
theorem subjectOf (h : K.Governs c) {b : Binding} (hb : c.registry.lookup b.key = some b)
    {d : Deferral} (hd : b.source.deferral = some d) :
    K.Meets (fun _ => True) (Container.subjectOf d.subject)
      fun s id => K.Fits s (.component d.subject.cls) (.object d.subject.cls id) := by
  unfold Container.subjectOf
  cases hsub : d.subject with
  | existing cls id => exact Meets.succeed fun s hs _ => h.held hs (.subject hb hd hsub)
  | new cls => exact h.makeObject cls

/-- What a deferral calls for gives an object of its class. -/
theorem carryOut (h : K.Governs c) {b : Binding} (hb : c.registry.lookup b.key = some b)
    {d : Deferral} (hd : b.source.deferral = some d)
    (hself : ∀ e, c.InjectionNeeds d.subject.cls e → K.Gives e.key.ty (self e)) :
    K.Gives (.component d.subject.cls) (c.carryOut self d) := by
  refine (subjectOf h hb hd).bind fun id => ?_
  exact Meets.andThen (lasting_fits _ _) (injectRounds h hself id _) fun _ => h.wrap _ _

/-! ### Providers -/

/-- Parts of the current request are of their types. -/
theorem currentPart (h : K.Governs c) (part : RequestPart) :
    K.Meets (fun _ => True) (Container.currentPart part)
      fun s v => K.Fits s part.key.ty v := by
  unfold Container.currentPart
  refine Meets.bind (V := fun _ _ => True) (Meets.read fun _ _ _ => trivial) fun e => ?_
  cases e with
  | none => exact Meets.fail fun _ _ _ => h.lack _ rfl nofun
  | some e =>
    cases part with
    | request => exact Meets.succeed fun _ hs _ => h.plain (v := .request _) hs rfl
    | response => exact Meets.succeed fun _ hs _ => h.plain (v := .response _) hs rfl
    | session =>
      refine Meets.bind (h.act fun s => c.changes_sessionOf s e.request) fun id => ?_
      exact Meets.succeed fun _ hs _ => h.plain (v := .session _) hs rfl
    | parameters =>
      refine Meets.bind (V := fun _ _ => True) (Meets.read fun _ _ _ => trivial) fun r => ?_
      exact Meets.succeed fun _ hs _ => h.plain (v := .parameters _) hs rfl

/-- Providers give what is of their types. -/
theorem callProvider (h : K.Governs c) {b : Binding} (hb : c.registry.lookup b.key = some b)
    {p : Provider} (hp : b.source = .provider p) :
    K.Gives p.ty (Container.callProvider b.key p) := by
  cases p with
  | current part => exact (currentPart h part).bind fun v => h.wrap _ v
  | calls ty label outcome =>
    refine Meets.bind (V := fun _ _ => True) (Meets.read fun _ _ _ => trivial) fun n => ?_
    refine (h.countCall b.key).bind fun _ => Meets.bind (h.emit rfl) fun _ => ?_
    refine Meets.bind (V := fun _ _ => True) ?_ fun made => h.makeInstance ty made
    exact Meets.ofExcept (fun _ _ _ _ _ => trivial) fun e he _ _ _ => h.failure hb hp he

/-- Objects that are called as providers give what their class supplies. -/
theorem callObject (h : K.Governs c) (cls : ClassPath) (id : Nat) (ty : Ty) :
    K.Gives (c.classes.suppliedBy cls ty) (c.callObject cls id ty) := by
  unfold Container.callObject ClassTable.suppliedBy
  cases hsupply : (c.classes.decl cls).supply with
  | calls outcome =>
    refine (h.act fun s => c.changes_countSupply s id).bind fun n => ?_
    refine Meets.bind (h.emit rfl) fun _ => ?_
    refine Meets.bind (V := fun _ _ => True) ?_ fun made => h.makeInstance ty made
    exact Meets.ofExcept (fun _ _ _ _ _ => trivial) fun e he _ _ _ => h.supply hsupply he
  | copyOf part =>
    refine (h.act fun s => c.changes_partOf s id part).bind fun owned => ?_
    refine Meets.bind (V := fun _ _ => True) (Meets.read fun _ _ _ => trivial) fun history => ?_
    exact (h.addObject part history).bind fun copy => h.wrap _ _

/-- So do instances that are called as providers. -/
theorem supplyFrom (h : K.Governs c) (i : Instance) (cls : ClassPath) (ty : Ty) :
    K.Meets (fun s => K.Fits s (.component cls) i.value) (c.supplyFrom i cls ty)
      fun s j => K.Fits s (c.classes.suppliedBy cls ty) j.value := by
  unfold Container.supplyFrom
  refine Meets.bind (V := fun _ j => j.ty = .component cls)
    (Meets.ofExcept (fun j hj s _ _ => ?_) fun e he s hs hi => ?_) fun j => ?_
  · obtain ⟨hty, rfl⟩ := Instance.cast_eq_ok_iff.mp hj
    exact hty
  · unfold Instance.cast at he
    split at he
    · cases he
    · next hne =>
      cases he
      exact h.mistyped hs hi hne
  · intro s hs hty
    unfold Instance.ty at hty
    cases hv : j.value with
    | object cls' id =>
      rw [hv] at hty
      cases hty
      exact callObject h cls id ty s hs trivial
    | _ =>
      rw [hv] at hty
      cases hty

/-! ### Bindings -/

/-- What the use of a deferred binding owes, however it came to be so. -/
def Forces (K : Contract) (c : Container) (self : Dependency → Run Instance) (b : Binding) : Prop :=
  ∀ d, b.source.deferral = some d → K.Gives (.component d.subject.cls) (c.force self b.key d)

/-- A source gives what is of the type of its key. -/
theorem provision (h : K.Governs c) {b : Binding} (hb : c.registry.lookup b.key = some b)
    (hself : ∀ e, c.SourceNeeds b.source e → K.Gives e.key.ty (self e))
    (hforce : Forces K c self b) : K.Gives b.key.ty (c.provision self b) := by
  have hprovided : K.Gives (c.providedTy b) (c.provision self b) := by
    unfold Container.provision Container.providedTy
    cases hsource : b.source with
    | given i => exact Meets.succeed fun s hs _ => h.held hs (.given hb hsource)
    | provider p => exact callProvider h hb hsource
    | providerType provider cls ty =>
      refine Meets.bind (hself provider (by rw [hsource]; rfl)) fun i => ?_
      intro s hs hi
      exact supplyFrom h i cls ty s hs (h.provider hs hb hsource hi)
    | constructor cls => exact construct h fun e he => hself e (by rw [hsource]; exact he)
    | injected d => exact hforce d (by rw [hsource]; rfl)
    | injectedProvider d ty =>
      exact Meets.bind (hforce d (by rw [hsource]; rfl)) fun i => supplyFrom h i _ ty
  intro s hs _
  have ho := hprovided s hs trivial
  generalize c.provision self b s = o at ho ⊢
  rcases o with _ | ⟨e | i, t⟩
  · exact ho
  · exact ho
  · exact ⟨ho.1, h.provided ho.1.1 hb ho.2⟩

/-- The end of a run that gives a value of type `ty` may be marked. -/
def Marks (K : Contract) (ty : Ty) (f : Except ConfigurationError Instance → Event) : Prop :=
  ∀ r s, K.Inv s → (∀ i, r = .ok i → K.Fits s ty i.value) → (∀ e, r = .error e → K.Error e) →
    K.Moves s (s.inWorld (s.world.emit (f r)))

/-- Marks around a run do not matter to the type of what it gives. -/
theorem noting {ty : Ty} {x : Run Instance} {f : Except ConfigurationError Instance → Event}
    (hend : Marks K ty f) (hx : K.Gives ty x) : K.Gives ty (x.noting f) :=
  Meets.noting hx (fun _ => lasting_fits _ _) hend

/-- A binding supplies what is of the type of its key. -/
theorem supply {b : Binding} (hbegin : K.Allows (.emit (.supplying b.key)))
    (hend : Marks K b.key.ty (.supplied b.key))
    (hprovision : K.Gives b.key.ty (c.provision self b)) :
    K.Gives b.key.ty (c.supply self b) := hbegin.bind fun _ => noting hend hprovision

/-! ### Scopes -/

/-- An instance that may be given may begin to be kept in a context. -/
def KeepsInContext (K : Contract) : Prop := ∀ {s} (name : String) (key : Key) (i : Instance),
  K.Inv s → K.Fits s key.ty i.value → K.Moves s (s.inWorld (s.world.keepInContext name key i))

/-- Contexts give what is of the type of the key. -/
theorem byRule (h : K.Governs c) (hkeep : KeepsInContext K) {b : Binding}
    (hb : c.registry.lookup b.key = some b) {name : String} {rule : AccessRule}
    (hscope : b.scope = .contextual (.named name rule)) {create : Run Instance}
    (hcreate : K.Gives b.key.ty create) :
    K.Gives b.key.ty (Wiring.byRule name b.key create rule) := by
  have hreplace : ∀ m, rule = .replace m ∨ rule = .fallback m →
      K.Gives b.key.ty (.act (·.makeBy m)) := by
    intro m hrule s hs _
    obtain ⟨hmoves, hfits⟩ := h.makeInstance m.ty m.label s hs trivial
    have hscope' : b.scope = .contextual (.named name (.replace m)) ∨
        b.scope = .contextual (.named name (.fallback m)) := by
      rcases hrule with rfl | rfl
      · exact .inl hscope
      · exact .inr hscope
    exact ⟨hmoves, h.replaced hmoves.1 hb hscope' hfits⟩
  unfold Wiring.byRule
  cases rule with
  | pass => exact hcreate
  | twice => exact Meets.bind hcreate.allows fun _ => hcreate
  | replace m => exact hreplace m (.inl rfl)
  | fallback m =>
    refine hcreate.attempt.bind fun r => ?_
    cases r with
    | ok i => exact Meets.succeed fun _ _ hi => hi
    | error e => exact (hreplace m (.inr rfl)).restrict
  | keep =>
    have hread : K.Meets (fun _ => True) (.read fun s => (s.world.context name).kept.get? b.key)
        fun s r => ∀ i, r = some i → K.Fits s b.key.ty i.value :=
      Meets.read fun s hs _ i hi => h.held hs (.context hb hscope hi)
    refine hread.bind fun r => ?_
    cases r with
    | some i => exact Meets.succeed fun _ _ hi => hi i rfl
    | none =>
      refine Meets.bind hcreate.restrict fun i => ?_
      refine Meets.bind (V := fun s _ => K.Fits s b.key.ty i.value) ?_ fun _ =>
        Meets.succeed fun _ _ hi => hi
      intro s hs hi
      have hmoves := hkeep name b.key i hs hi
      exact ⟨hmoves, K.fits_step hmoves.2 hi⟩

/-- The accessor of a named context. -/
theorem accessed_named (h : K.Governs c) (hkeep : KeepsInContext K) {b : Binding}
    (hb : c.registry.lookup b.key = some b) {name : String} {rule : AccessRule}
    (hscope : b.scope = .contextual (.named name rule)) {create : Run Instance}
    (hcreate : K.Gives b.key.ty create) :
    K.Gives b.key.ty (Wiring.accessed b.key create (.named name rule)) := by
  unfold Wiring.accessed
  refine Meets.bind (h.emit rfl) fun _ => ?_
  refine Meets.bind (V := fun _ _ => True) (Meets.read fun _ _ _ => trivial) fun isOpen => ?_
  cases isOpen with
  | true => exact byRule h hkeep hb hscope hcreate
  | false => exact Meets.fail fun _ _ _ => h.lack _ rfl nofun

/-- The accessors of requests and sessions, given what is owed for each keeper. -/
theorem accessed_keeper (h : K.Governs c) {b : Binding} {create : Run Instance}
    {accessor : Accessor} (haccessor : accessor = .request ∨ accessor = .session)
    (hkeptBy : ∀ keeper notice, (Event.logged notice).isMark = false →
      K.Gives b.key.ty (Wiring.keptBy keeper b.key notice create)) :
    K.Gives b.key.ty (Wiring.accessed b.key create accessor) := by
  unfold Wiring.accessed
  rcases haccessor with rfl | rfl
  · refine Meets.bind (V := fun _ _ => True) (Meets.read fun _ _ _ => trivial) fun e => ?_
    cases e with
    | none => exact Meets.fail fun _ _ _ => h.lack _ rfl nofun
    | some e => exact hkeptBy _ _ rfl
  · refine Meets.bind (V := fun _ _ => True) (Meets.read fun _ _ _ => trivial) fun e => ?_
    cases e with
    | none => exact Meets.fail fun _ _ _ => h.lack _ rfl nofun
    | some e =>
      refine (h.act fun s => c.changes_sessionOf s e.request).bind fun session => ?_
      exact hkeptBy _ _ rfl

/-- A binding in its scope, given what is owed for slots, keepers and otherwise. -/
theorem withinScope (h : K.Governs c) (hkeep : KeepsInContext K) {b : Binding}
    (hb : c.registry.lookup b.key = some b) {create : Run Instance}
    (hcreate : K.Gives b.key.ty create)
    (hslot : b.scope = .singleton → K.Gives b.key.ty (Wiring.inSlot b.key create))
    (hkeeper : ∀ accessor, b.scope = .contextual accessor →
      accessor = .request ∨ accessor = .session →
      K.Gives b.key.ty (Wiring.accessed b.key create accessor)) :
    K.Gives b.key.ty (Wiring.withinScope b create) := by
  unfold Wiring.withinScope
  cases hscope : b.scope with
  | unscoped => exact hcreate
  | singleton => exact hslot hscope
  | contextual accessor =>
    cases accessor with
    | request => exact hkeeper _ hscope (.inl rfl)
    | session => exact hkeeper _ hscope (.inr rfl)
    | named name rule => exact accessed_named h hkeep hb hscope hcreate

/-! ### Dependencies -/

/-- A dependency is answered by what is of its type. -/
theorem answer (h : K.Governs c) {d : Dependency}
    (hself : ∀ e, c.Leads d e → K.Gives e.key.ty (self e))
    (hbinding : ∀ b, c.registry.lookup d.key = some b →
      K.Gives b.key.ty (c.resolveBinding self b)) : K.Gives d.key.ty (c.answer self d) := by
  unfold Container.answer
  cases hb : c.registry.lookup d.key with
  | some b =>
    rw [← Registry.key_of_lookup hb]
    exact hbinding b hb
  | none =>
    cases hjit : c.justInTime d with
    | some cls =>
      have hkey : d.key.ty = .component cls := by
        unfold Container.justInTime at hjit
        split at hjit
        · rw [Dependency.key_eq_of_justInTime hjit]
          rfl
        · cases hjit
      rw [hkey]
      refine construct h fun e he => hself e ?_
      unfold Container.Leads
      rw [hb]
      exact ⟨cls, hjit, he⟩
    | none => exact Meets.fail fun _ _ _ => h.lack _ rfl nofun

/-- A dependency is resolved to what is of its type, in a single step. -/
theorem resolveStep (h : K.Governs c) {d : Dependency} (hend : Marks K d.key.ty (.resolved d))
    (hanswer : K.Gives d.key.ty (c.answer self d)) : K.Gives d.key.ty (c.resolveStep self d) :=
  (h.log _ rfl).bind fun _ => noting hend hanswer

/-! ### The use of a container -/

/-- An instance that is asked for as one of its type is of this type. -/
theorem getAs (h : K.Governs c) {d : Dependency} (hself : K.Gives d.key.ty (c.resolve d)) :
    K.Gives d.key.ty (c.getAs d.key.ty d) := by
  refine hself.bind fun i => Meets.ofExcept (fun j hj s _ hi => ?_) fun e he s hs hi => ?_
  · obtain ⟨-, rfl⟩ := Instance.cast_eq_ok_iff.mp hj
    exact hi
  · unfold Instance.cast at he
    split at he
    · cases he
    · next hne =>
      cases he
      exact h.mistyped hs hi hne

/-- Members may be injected into any object, if it may be reported that it is of another class. -/
theorem injectAny (h : K.Governs c)
    (hmistyped : ∀ expected actual, K.Error (.typeMismatch expected actual))
    (hself : ∀ d, K.Gives d.key.ty (c.resolve d)) (cls target : ClassPath) (id : Nat) :
    K.Allows (c.injectMembers cls target id) :=
  injectObject h (fun e _ => hself e) (fun _ => hmistyped _ _) id

/-- Anything may be asked for as anything, if it may be reported that it is something else. -/
theorem getAnyAs (hmistyped : ∀ expected actual, K.Error (.typeMismatch expected actual)) (ty : Ty)
    {d : Dependency} (hself : K.Gives d.key.ty (c.resolve d)) : K.Allows (c.getAs ty d) := by
  refine Meets.bind hself fun i => ?_
  refine Meets.ofExcept (fun _ _ _ _ _ => trivial) fun e he _ _ _ => ?_
  unfold Instance.cast at he
  split at he
  · cases he
  · cases he
    exact hmistyped _ _

end Compliance

/-! ### Contracts without a view of slots, deferred bindings, marks and keepers -/

namespace Compliance

/-- The slots of singletons may change, where instances that may be given are put into them. -/
def SetsSlots (K : Contract) : Prop := ∀ {s} (key : Key) (cell : Cell), K.Inv s →
  (∀ i, cell = .full i → K.Fits s key.ty i.value) →
  K.Moves s { s with memory := s.memory.setSlot key cell }

/-- A deferred binding may advance, where an object that may be given becomes ready. -/
def SetsReadiness (K : Contract) (c : Container) : Prop :=
  ∀ {s} (b : Binding) (d : Deferral) (r : Readiness), c.registry.lookup b.key = some b →
    b.source.deferral = some d → K.Inv s →
    (∀ i, r = .ready i → K.Fits s (.component d.subject.cls) i.value) →
    K.Moves s { s with memory := s.memory.setReadiness b.key r }

/-- An instance that may be given may begin to be kept for a request or a session. -/
def KeepsAttributes (K : Contract) : Prop :=
  ∀ {s} (keeper : World.Keeper) (key : Key) (i : Instance), K.Inv s →
    (s.world.attributes keeper).get? key = none → K.Fits s key.ty i.value →
    K.Moves s (s.inWorld (s.world.setAttribute keeper key i))

/-- The slot of a singleton gives what is of the type of its key. -/
theorem inSlot (h : K.Governs c) (hendless : ¬ K.total) (hset : SetsSlots K) (key : Key)
    (hlog : K.Allows (.log (.creatingSingleton key))) {create : Run Instance}
    (hcreate : K.Gives key.ty create) : K.Gives key.ty (Wiring.inSlot key create) := by
  unfold Wiring.inSlot
  have hread : K.Meets (fun _ => True) (.read (·.memory.slots.get? key))
      fun s r => ∀ i, r = some (.full i) → K.Fits s key.ty i.value :=
    Meets.read fun s hs _ i hi => h.held hs (.slot hi)
  refine hread.bind fun r => ?_
  rcases r with _ | ⟨_ | _ | i⟩
  · exact hcreate.restrict
  · refine Meets.bind (Meets.remember fun s hs _ => hset key .busy hs nofun) fun _ => ?_
    refine hlog.bind fun _ => hcreate.attempt.bind fun r => ?_
    cases r with
    | ok i =>
      refine Meets.bind (V := fun s _ => K.Fits s key.ty i.value) ?_ fun _ =>
        Meets.succeed fun _ _ hi => hi
      intro s hs hi
      have hmoves := hset key (.full i) hs fun j hj => by
        cases hj
        exact hi
      exact ⟨hmoves, K.fits_step hmoves.2 hi⟩
    | error e =>
      refine Meets.bind (V := fun _ _ => K.Error e) (fun s hs he => ?_) fun _ =>
        Meets.fail fun _ _ he => he
      exact ⟨hset key .empty hs nofun, he⟩
  · exact Meets.stuck fun _ _ _ => hendless
  · exact Meets.succeed fun _ _ hi => hi i rfl

/-- A deferred binding gives an object of its class. -/
theorem force (h : K.Governs c) (hendless : ¬ K.total) (hset : SetsReadiness K c) {b : Binding}
    (hb : c.registry.lookup b.key = some b)
    (hmark : ∀ e : Event, e.use? = some b.key → K.Allows (.emit e))
    (hfailed : K.Error (Container.unavailable b.key))
    (hself : ∀ e, c.SourceNeeds b.source e → K.Gives e.key.ty (self e)) : Forces K c self b := by
  intro d hd
  have hneeds : ∀ e, c.InjectionNeeds d.subject.cls e → K.Gives e.key.ty (self e) := fun e he =>
    hself e (Container.sourceNeeds_of_deferral hd he)
  refine noting (fun r s hs _ _ => (hmark (.forced b.key r) rfl s hs trivial).1) ?_
  unfold Container.useDeferred
  have hread : K.Meets (fun _ => True) (.read (·.memory.readiness b.key))
      fun s r => ∀ i, r = .ready i → K.Fits s (.component d.subject.cls) i.value :=
    Meets.read fun s hs _ i hi => h.held hs (.deferred hb hd hi)
  refine hread.bind fun r => ?_
  cases r with
  | ready i => exact Meets.succeed fun _ _ hi => hi i rfl
  | running => exact Meets.stuck fun _ _ _ => hendless
  | failed => exact Meets.fail fun _ _ _ => hfailed
  | waiting =>
    unfold Container.injectOnce
    refine Meets.bind (Meets.remember fun s hs _ => hset b d .running hb hd hs nofun) fun _ => ?_
    refine (hmark _ rfl).bind fun _ => (carryOut h hb hd hneeds).attempt.bind fun r => ?_
    cases r with
    | ok i =>
      refine Meets.bind (V := fun s _ => K.Fits s (.component d.subject.cls) i.value) ?_ fun _ =>
        Meets.succeed fun _ _ hi => hi
      intro s hs hi
      have hmoves := hset b d (.ready i) hb hd hs fun j hj => by
        cases hj
        exact hi
      exact ⟨hmoves, K.fits_step hmoves.2 hi⟩
    | error e =>
      refine Meets.bind (V := fun _ _ => K.Error e) (fun s hs he => ?_) fun _ =>
        Meets.fail fun _ _ he => he
      exact ⟨hset b d .failed hb hd hs nofun, he⟩

/-- Requests and sessions give what is of the type of the key. -/
theorem keptBy (h : K.Governs c) (hkeep : KeepsAttributes K) (keeper : World.Keeper) (key : Key)
    {notice : Notice} (hnotice : (Event.logged notice).isMark = false) {create : Run Instance}
    (hcreate : K.Gives key.ty create) :
    K.Gives key.ty (Wiring.keptBy keeper key notice create) := by
  unfold Wiring.keptBy
  have hread : K.Meets (fun _ => True) (.read fun s => (s.world.attributes keeper).get? key)
      fun s r => ∀ i, r = some i → K.Fits s key.ty i.value :=
    Meets.read fun s hs _ i hi => h.held hs (.kept hi)
  refine hread.bind fun r => ?_
  cases r with
  | some i => exact Meets.succeed fun _ _ hi => hi i rfl
  | none =>
    refine Meets.bind hcreate.restrict fun i => ?_
    refine Meets.andThen (lasting_fits _ _) (h.log notice hnotice) fun _ => ?_
    refine Meets.act fun s hs hi => ?_
    cases hk : (s.world.attributes keeper).get? key with
    | some kept =>
      rw [World.attributeOrInsert_of_some hk]
      exact ⟨.refl hs, h.held hs (.kept hk)⟩
    | none =>
      rw [World.attributeOrInsert_of_none hk]
      have hmoves := hkeep keeper key i hs hk hi
      exact ⟨hmoves, K.fits_step hmoves.2 hi⟩

end Compliance

/-- What an event tells of an outcome may be so: its instance may be given for the key, or its error
may be reported. -/
def Tells (K : Contract) (s : State) (e : Event) : Prop := ∀ key r, e.outcome? = some (key, r) →
  (∀ i, r = .ok i → K.Fits s key.ty i.value) ∧ ∀ e, r = .error e → K.Error e

/-- A contract allows everything that a container does. It may have its own view of the entries
that tell of deferred bindings, but then says itself that these may be used. -/
structure GovernsAll (K : Contract) (c : Container) : Prop extends Governs K c where
  /-- Runs may never end. -/
  endless : ¬ K.total
  /-- Everything else may be entered in the journal. -/
  mark : ∀ {e : Event} {s : State}, e.use? = none → K.Tells s e → K.Inv s →
    K.Moves s (s.inWorld (s.world.emit e))
  /-- The slots of singletons may change. -/
  slots : Compliance.SetsSlots K
  /-- Requests and sessions may keep instances. -/
  attributes : Compliance.KeepsAttributes K
  /-- Contexts may keep instances. -/
  contexts : Compliance.KeepsInContext K
  /-- Deferred bindings may be used. -/
  forces : ∀ {self : Dependency → Run Instance} {b : Binding}, c.registry.lookup b.key = some b →
    (∀ e, c.SourceNeeds b.source e → K.Gives e.key.ty (self e)) → Compliance.Forces K c self b

namespace GovernsAll

variable (h : K.GovernsAll c)
include h

/-- Entries that tell of no use and of no outcome are allowed. -/
theorem emits {e : Event} (he : e.use? = none) (houtcome : e.outcome? = none) :
    K.Allows (.emit e) :=
  Meets.change fun _ hs _ => h.mark he (fun _ _ hr => nomatch houtcome.symm.trans hr) hs

/-- The outcome for a key may be marked by an event that tells of it. -/
theorem marks {key : Key} {f : Except ConfigurationError Instance → Event}
    (hf : ∀ r, (f r).use? = none) (houtcome : ∀ r, (f r).outcome? = some (key, r)) :
    Compliance.Marks K key.ty f := fun r s hs hok herror =>
  h.mark (hf r) (fun key' r' hr => by
    cases (houtcome r).symm.trans hr
    exact ⟨hok, herror⟩) hs

/-- A binding gives what is of the type of its key. -/
theorem resolveBinding {b : Binding} (hb : c.registry.lookup b.key = some b)
    (hself : ∀ e, c.SourceNeeds b.source e → K.Gives e.key.ty (self e)) :
    K.Gives b.key.ty (c.resolveBinding self b) := by
  have hprovision := Compliance.provision h.toGoverns hb hself (h.forces hb hself)
  have hsupply :=
    Compliance.supply (h.emits rfl rfl) (h.marks (fun _ => rfl) fun _ => rfl) hprovision
  refine Compliance.withinScope h.toGoverns h.contexts hb hsupply (fun _ => ?_)
    fun accessor _ haccessor => ?_
  · exact Compliance.inSlot h.toGoverns h.endless h.slots b.key (h.emits rfl rfl) hsupply
  · exact Compliance.accessed_keeper h.toGoverns haccessor fun keeper notice hnotice =>
      Compliance.keptBy h.toGoverns h.attributes keeper b.key hnotice hsupply

/-- Within any depth, a dependency is resolved to what is of its type. -/
theorem resolveWithin (n : Nat) (d : Dependency) : K.Gives d.key.ty (c.resolveWithin n d) := by
  induction n generalizing d with
  | zero => exact Meets.stuck fun _ _ _ => h.endless
  | succ n ih =>
    refine Compliance.resolveStep h.toGoverns (h.marks (fun _ => rfl) fun _ => rfl) ?_
    refine Compliance.answer h.toGoverns (fun e _ => ih e) fun b hb => ?_
    exact h.resolveBinding (by rw [Registry.key_of_lookup hb, hb]) fun e _ => ih e

/-- A dependency is resolved to what is of its type. -/
theorem resolve (d : Dependency) : K.Gives d.key.ty (c.resolve d) := h.resolveWithin _ d

end GovernsAll

end Contract

end Wiring
