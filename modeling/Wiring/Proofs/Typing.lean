import Wiring.Proofs.Compliance
import Wiring.Proofs.Configuration
import Wiring.Proofs.Grounding
import Wiring.Proofs.Requests

/-!
# Typed Modules and Classes

Instances do not carry the type of the key under which they are kept. It takes three things for the
types to be right anyway. Statements bind keys to sources of their own type. Members take their
arguments in the types of the dependencies that they declare. And what modules and classes do by
themselves causes no type errors. This module says what that is, for actions, members, classes and
statements, and shows that it is passed on to the bindings of a container.

## Conventions

An action that takes its arguments in their declared types may stop at any time, and may do with
what it has read whatever it likes. If an argument cannot be read, it may do anything, too; this
never happens where the arguments fit.

A class may supply values of all types, or copies of a part. In the second case it can only be
bound as a provider of values of the class of this part.

A scope is plain if it is that of a container, of requests or of sessions, or none. Contexts of
other kinds may give instances of any type.

## Main statements

* `Action.Takes`: an action takes its arguments in given types.
* `Action.Takes.error`: it comes to no type error if they fit.
* `Statement.IsTyped`, `ClassTable.IsTyped`: what modules and classes have to keep to.
* `Outline.isTyped_toTable`: members that are lifted take their arguments as before.
* `Builder.isTyped_container`: a container of typed modules and classes is typed.
-/

namespace Wiring

namespace ConfigurationError

/-- What went wrong in the end: the innermost of the errors that an error wraps. -/
def cause : ConfigurationError → ConfigurationError
  | memberInjection _ source | staticInjection _ source | eagerSingleton _ source => source.cause
  | e => e

/-- Whether an error says, by itself or at the end of what it wraps, that a value was not of the
type that was asked for, or that an argument was missing. -/
def isTypeError (e : ConfigurationError) : Bool := e.cause.isMisfit

/-- What containers come to by themselves are no type errors. -/
theorem isTypeError_of_isLack {e : ConfigurationError} (h : e.isLack = true) :
    e.isTypeError = false := by
  cases e <;> first | rfl | cases h

end ConfigurationError

/-! ### Actions and members -/

namespace Action

/-- An action takes arguments in the types `tys`. -/
inductive Takes : List Ty → Action → Prop where
  /-- It stops. It may fail, but not with a type error. -/
  | stop {tys : List Ty} {r : Reading} : (∀ e, r.error = some e → e.isTypeError = false) →
    Takes tys fun _ => r
  /-- It reads the next argument, and goes on with what it has read. -/
  | read {ty : Ty} {tys : List Ty} {f : Except ConfigurationError Instance → Action} :
    (∀ i, i.ty = ty → Takes tys (f (.ok i))) →
    Takes (ty :: tys) fun a => f (a.next ty).1 (a.next ty).2

variable {tys tys' : List Ty} {action : Action}

/-- An action that takes its arguments in their types comes to no type error by itself if the
arguments fit. -/
theorem Takes.error (h : Takes tys action) {a : Arguments}
    (ha : List.Forall₂ (fun ty i => i.ty = ty) tys a.rest) {e : ConfigurationError}
    (he : (action a).error = some e) : e.isTypeError = false := by
  induction h generalizing a with
  | stop hr => exact hr e he
  | @read ty tys f _ ih =>
    obtain ⟨member, rest, taken⟩ := a
    cases ha with
    | @cons _ i _ rest hi hrest =>
      have hnext : Arguments.next ⟨member, i :: rest, taken⟩ ty =
          (.ok i, ⟨member, rest, taken + 1⟩) := by
        simp only [Arguments.next, ← hi, Instance.cast_self]
      simp only [hnext] at he
      exact ih i hi hrest he

/-- Further arguments need not be taken. -/
theorem Takes.append (h : Takes tys action) (tys' : List Ty) : Takes (tys ++ tys') action := by
  induction h with
  | stop hr => exact .stop hr
  | read _ ih => exact .read ih

/-- It does not matter that something was read before. -/
theorem Takes.after (h : Takes tys action) (i : Instance) :
    Takes tys fun a => (action a).after i := by
  induction h with
  | @stop tys r hr => exact .stop (r := r.after i) hr
  | @read ty tys f _ ih => exact .read (f := fun r a => (f r a).after i) ih

/-- What is left to do for an action that reads its arguments one by one, after it has read the
first. -/
def onward (tys : List Ty) (failure : Option ConfigurationError) :
    Except ConfigurationError Instance → Action
  | .error e => fun _ => .failed e
  | .ok i => fun a => (reading tys failure a).after i

/-- Reading several arguments begins with the first. -/
theorem reading_cons (ty : Ty) (tys : List Ty) (failure : Option ConfigurationError) :
    reading (ty :: tys) failure = fun a => onward tys failure (a.next ty).1 (a.next ty).2 := by
  funext a
  simp only [reading, Arguments.readAll_cons]
  cases (a.next ty).1 <;> rfl

/-- An action that reads arguments of some types one by one takes them in these types. -/
theorem takes_reading (tys : List Ty) (failure : Option ConfigurationError)
    (hfailure : ∀ e, failure = some e → e.isTypeError = false) :
    Takes tys (.reading tys failure) := by
  induction tys with
  | nil => exact .stop (r := ⟨[], failure⟩) hfailure
  | cons ty tys ih =>
    rw [reading_cons]
    exact .read fun i _ => ih.after i

end Action

namespace Member

/-- A member takes its arguments in the types of its dependencies. -/
def IsTyped (m : Member) : Prop := Action.Takes (m.dependencies.map fun d => d.key.ty) m.action

variable {m m' : Member}

/-- Fields are typed. -/
theorem isTyped_field (cls : ClassPath) (name : String) (content : Dependency) :
    (field cls name content).IsTyped := Action.takes_reading _ none nofun

/-- Members stay typed if they require more. -/
theorem IsTyped.requiring (h : m.IsTyped) (ds : List Dependency) : (m.requiring ds).IsTyped := by
  unfold IsTyped Member.requiring
  rw [List.map_append]
  exact h.append _

/-- A qualifier does not change what a dependency is to be. -/
theorem IsTyped.qualifiedBy (h : m.IsTyped) (q : Qualifier) : (m.qualifiedBy q).IsTyped := by
  have hmap : ∀ ds : List Dependency,
      (qualifyLast q ds).map (fun d => d.key.ty) = ds.map fun d => d.key.ty := by
    intro ds
    induction ds with
    | nil => rfl
    | cons d ds ih =>
      cases ds with
      | nil => rfl
      | cons d' ds =>
        rw [qualifyLast, List.map_cons, ih, List.map_cons (l := d' :: ds)]
        exact nofun
  unfold IsTyped Member.qualifiedBy
  rw [hmap]
  exact h

/-- A member of a part takes its arguments as a member of the owner as it did before. -/
theorem IsTyped.lift (h : m.IsTyped) {inner : ClassPath} (hm : m.lift inner = some m') :
    m'.IsTyped := by
  unfold Member.lift at hm
  split at hm
  · cases hm
  · cases hm
    exact h
  · cases hm
    exact h

end Member

/-! ### Classes -/

/-- What is declared about a class fits: members take their arguments in the types of their
dependencies, and calls of the objects as providers cause no type errors. -/
structure ClassDecl.IsTyped (decl : ClassDecl) : Prop where
  /-- The members. -/
  members : ∀ m ∈ decl.members, m.IsTyped
  /-- The failures of the objects as providers. -/
  supply : ∀ outcome, decl.supply = .calls outcome → ∀ cls id n e,
    outcome cls id n = .error e → e.isTypeError = false

/-- If objects never fail as providers, only the members matter. -/
theorem ClassDecl.isTyped_of_members {decl : ClassDecl}
    (hsupply : decl.supply = .fresh fun _ => .none) (h : ∀ m ∈ decl.members, m.IsTyped) :
    decl.IsTyped where
  members := h
  supply outcome houtcome cls id n e he := by
    cases hsupply.symm.trans houtcome
    cases he

/-- A class that declares nothing is typed. -/
theorem ClassDecl.isTyped_none : ClassDecl.none.IsTyped :=
  isTyped_of_members rfl fun _ hm => nomatch hm

/-- What is declared about all classes fits. -/
def ClassTable.IsTyped (t : ClassTable) : Prop := ∀ cls, (t.decl cls).IsTyped

/-- Lifted members fit if they did so before. -/
theorem Outline.isTyped_expand {o : Outline}
    (h : ∀ cls m, .member m ∈ o.entriesOf cls → m.IsTyped) (depth : Nat) (cls : ClassPath) :
    ∀ m ∈ (o.expand depth cls).2, m.IsTyped := by
  induction depth generalizing cls with
  | zero => exact fun _ hm => nomatch hm
  | succ depth ih =>
    rw [expand, written_eq]
    intro m hm
    obtain ⟨entry, hentry, hm⟩ := List.mem_flatMap.mp hm
    cases entry with
    | member m' =>
      obtain rfl := List.mem_singleton.mp hm
      exact h cls m hentry
    | lifted inner =>
      obtain ⟨m', hm', hlift⟩ := List.mem_filterMap.mp hm
      exact (ih inner m' hm').lift hlift

/-- The class table of an outline is typed if the members of the outline are, and the failures of
objects as providers are no type errors. -/
theorem Outline.isTyped_toTable {o : Outline}
    (hmembers : ∀ cls m, .member m ∈ o.entriesOf cls → m.IsTyped)
    (hsupply : ∀ e ∈ o.entries, ∀ outcome, e.2.2 = .calls outcome → ∀ cls id n e',
      outcome cls id n = .error e' → e'.isTypeError = false) : o.toTable.IsTyped := by
  refine ClassTable.decl_ofList (P := fun _ decl => decl.IsTyped)
    (fun _ => ClassDecl.isTyped_none) fun e he => ?_
  obtain ⟨⟨cls, entries, supply⟩, hmem, rfl⟩ := List.mem_map.mp he
  exact ⟨isTyped_expand hmembers _ cls, hsupply _ hmem⟩

/-! ### Statements -/

/-- Whether a scope is that of a container, of requests or of sessions, or none. -/
def Scope.isPlain : Scope → Bool
  | contextual (.named ..) => false
  | _ => true

/-- A choice of a source gives values of type `ty`, and causes no type errors. -/
def SourceChoice.IsTyped (t : ClassTable) (ty : Ty) : SourceChoice → Prop
  | value _ => True
  | calls _ outcome => ∀ n e, outcome n = .error e → e.isTypeError = false
  | injectableProvider cls | providerType cls => t.suppliedBy cls ty = ty
  | constructor | injectableInstance => ∃ cls, ty = .component cls

/-- A statement binds a type to a source of this type in a plain scope, binds a part of the current
request, or requests static injection. -/
inductive Statement.IsTyped (t : ClassTable) : Statement → Prop where
  /-- A type is bound. -/
  | bind {ty : Ty} {viaKey : Option Key} {qualifiers : List Qualifier} {scopes : List ScopeStep}
    {source : SourceChoice} : (∀ scope, .inScope scope ∈ scopes → scope.isPlain = true) →
    source.IsTyped t ty → IsTyped t (.bind ty viaKey qualifiers scopes source)
  /-- A part of the current request is bound. -/
  | current {part : RequestPart} {scope : Scope} {eager : Bool} : scope.isPlain = true →
    IsTyped t (.define part.key (.ready (.provider (.current part))) scope eager)
  /-- Static injection of a class is requested. -/
  | injectStatic {cls : ClassPath} : IsTyped t (.injectStatic cls)
  /-- A module of such statements is installed. -/
  | install {ss : List Statement} : (∀ s ∈ ss, IsTyped t s) → IsTyped t (.install ss)

/-- The module for web requests is typed. -/
theorem isTyped_webModule (t : ClassTable) : ∀ s ∈ webModule, s.IsTyped t := by
  intro s hs
  obtain ⟨part, -, rfl⟩ := List.mem_map.mp hs
  exact .current rfl

/-! ### Bindings -/

/-- A source gives values of type `ty`, and causes no type errors. -/
def Source.IsTyped (t : ClassTable) (ty : Ty) : Source → Prop
  | given i => i.ty = ty
  | injected d => ty = .component d.subject.cls
  | provider (.calls ty' _ outcome) =>
    ty' = ty ∧ ∀ n e, outcome n = .error e → e.isTypeError = false
  | provider (.current part) => part.key.ty = ty
  | injectedProvider d ty' => ty' = ty ∧ t.suppliedBy d.subject.cls ty = ty
  | providerType d cls ty' =>
    d.key.ty = .component cls ∧ ty' = ty ∧ t.suppliedBy cls ty = ty
  | constructor cls => ty = .component cls

/-- A binding gives values of the type of its key, in a plain scope. -/
structure Binding.IsTyped (t : ClassTable) (b : Binding) : Prop where
  /-- The scope. -/
  scope : b.scope.isPlain = true
  /-- The source. -/
  source : b.source.IsTyped t b.key.ty

/-- The bindings of a container are typed, and its classes are. -/
structure Container.IsTyped (c : Container) : Prop where
  /-- The bindings. -/
  bindings : ∀ b, c.registry.lookup b.key = some b → b.IsTyped c.classes
  /-- The classes. -/
  classes : c.classes.IsTyped

/-- What a binding provides is of the type of its key. -/
theorem Container.IsTyped.providedTy {c : Container} (h : c.IsTyped) {b : Binding}
    (hb : c.registry.lookup b.key = some b) : c.providedTy b = b.key.ty := by
  have hsource := (h.bindings b hb).source
  unfold Container.providedTy
  cases hs : b.source with
  | provider p =>
    rw [hs] at hsource
    cases p with
    | calls ty label outcome => exact hsource.1
    | current part => exact hsource
  | _ => simp_all [Source.IsTyped]

/-! ### What statements configure -/

variable {t : ClassTable}

/-- A stated key is one of the stated type. -/
theorem ty_statedKey (ty : Ty) (viaKey : Option Key) (qualifiers : List Qualifier) :
    (statedKey ty viaKey qualifiers).ty = ty := by
  have hall : ∀ (qs : List Qualifier) (key : Key), (key.qualifiedByAll qs).ty = key.ty := by
    intro qs
    induction qs with
    | nil => exact fun _ => rfl
    | cons q qs ih => exact fun key => ih (key.qualifiedBy q)
  unfold statedKey
  rw [hall]
  cases viaKey <;> rfl

/-- The scope that plain steps lead to is plain. -/
theorem isPlain_runAll {steps : List ScopeStep} {stated : Scope × Bool}
    (hstated : stated.1.isPlain = true)
    (hsteps : ∀ scope, .inScope scope ∈ steps → scope.isPlain = true) :
    (ScopeStep.runAll steps stated).1.isPlain = true := by
  induction steps generalizing stated with
  | nil => exact hstated
  | cons step steps ih =>
    have hrest : ∀ scope, .inScope scope ∈ steps → scope.isPlain = true := fun scope hscope =>
      hsteps scope (List.mem_cons_of_mem _ hscope)
    cases step with
    | inScope scope => exact ih (hsteps scope List.mem_cons_self) hrest
    | asEagerSingleton => exact ih rfl hrest

/-- The source that a typed choice stands for is typed. -/
theorem SourceChoice.IsTyped.source {choice : SourceChoice} {ty : Ty} (h : choice.IsTyped t ty)
    (w : World) : (choice.source ty w).1.IsTyped t ty := by
  cases choice with
  | value label => exact w.ty_makeInstance ty label
  | calls label outcome => exact ⟨rfl, h⟩
  | injectableProvider cls => exact ⟨rfl, h⟩
  | providerType cls => exact ⟨rfl, rfl, h⟩
  | constructor =>
    obtain ⟨cls, rfl⟩ := h
    rfl
  | injectableInstance =>
    obtain ⟨cls, rfl⟩ := h
    rfl

/-- The definitions of a draft are typed. -/
def Draft.IsTyped (t : ClassTable) (d : Draft) : Prop := ∀ b ∈ d.definitions, b.IsTyped t

/-- A draft stays typed by a typed definition. -/
theorem Draft.IsTyped.define {d : Draft} (h : d.IsTyped t) {b : Binding} (hb : b.IsTyped t) :
    (d.define b).IsTyped t := fun b' hb' =>
  (List.mem_append.mp hb').elim (h b') fun hb' => List.mem_singleton.mp hb' ▸ hb

/-- Requests for static injection define nothing. -/
theorem Draft.definitions_requestStatic (d : Draft) (w : World) (cls : ClassPath) :
    (d.requestStatic w cls).1.definitions = d.definitions := by
  unfold requestStatic
  split <;> rfl

/-- Statements add typed definitions if each of them does. -/
theorem Draft.IsTyped.configureAll {dw : Draft × World} (hd : dw.1.IsTyped t) {ss : List Statement}
    (hss : ∀ s ∈ ss, ∀ dw : Draft × World, dw.1.IsTyped t → (s.configure dw).1.IsTyped t) :
    (configureAll ss dw).1.IsTyped t := by
  induction ss generalizing dw with
  | nil => exact hd
  | cons s rest ih =>
    exact ih (hss s List.mem_cons_self dw hd) fun s hs => hss s (List.mem_cons_of_mem _ hs)

/-- A typed statement adds typed definitions. -/
theorem Statement.IsTyped.configure {s : Statement} (h : s.IsTyped t) {dw : Draft × World}
    (hd : dw.1.IsTyped t) : (s.configure dw).1.IsTyped t := by
  induction h generalizing dw with
  | @bind ty viaKey qualifiers scopes source hscopes hsource =>
    refine hd.define ⟨isPlain_runAll rfl hscopes, ?_⟩
    rw [ty_statedKey]
    exact hsource.source dw.2
  | current hscope => exact hd.define ⟨hscope, rfl⟩
  | @injectStatic cls =>
    intro b hb
    rw [Statement.configure, Draft.definitions_requestStatic] at hb
    exact hd b hb
  | install _ ih =>
    rw [Statement.configure]
    exact hd.configureAll fun s hs _ => ih s hs

/-- The container of typed modules and classes is typed. -/
theorem Builder.isTyped_container (config : ContainerConfig) {ss : List Statement}
    {classes : ClassTable} (w : World) (hss : ∀ s ∈ ss, s.IsTyped classes)
    (hclasses : classes.IsTyped) :
    (((ofConfig config).install ss w).1.container classes).IsTyped where
  bindings b hb := by
    have hempty : (Draft.empty true).IsTyped classes := fun _ hb => nomatch hb
    exact hempty.configureAll (fun s hs _ => (hss s hs).configure) b (Draft.mem_of_lookup hb)
  classes := hclasses

/-- A container is that of typed modules and classes. -/
def Container.FromTyped (c : Container) : Prop :=
  ∃ (config : ContainerConfig) (ss : List Statement) (classes : ClassTable) (w : World),
    (∀ s ∈ ss, s.IsTyped classes) ∧ classes.IsTyped ∧
      c = ((Builder.ofConfig config).install ss w).1.container classes

/-- A container that comes from typed modules is typed. -/
theorem Container.FromTyped.isTyped {c : Container} (h : c.FromTyped) : c.IsTyped := by
  obtain ⟨config, ss, classes, w, hss, hclasses, rfl⟩ := h
  exact Builder.isTyped_container config w hss hclasses

end Wiring
