import Wiring.Container.Availability
import Wiring.Container.Scoped

/-!
# Resolution

Resolving a dependency gives an instance for its key. A bound key is resolved as its binding
says; otherwise the class of the key is constructed just in time, if that is allowed. To
construct an object, the container resolves the dependencies of the constructor, runs it, and
then injects the members of the new object: fields first, then methods. An optional member
whose dependencies are not all available is skipped.

## Conventions

Everything here is stated in terms of `self`, the way to resolve what is needed along the way.
`Container.resolveWithin` ties the knot with a bound on the depth, and `Container.resolve` gives
the bound. Only circular dependencies can exceed it, and then there is no answer. Circular
dependencies may well have one: what a provider or a context does can change from call to call,
and an error that it comes to ends the circle.

## Main statements

* `Container.construct`: a new object of a class.
* `Container.injectPoints`: the injection of the members of an object.
* `Container.provision`: an instance of a binding, regardless of scopes.
* `Container.resolve`: the instance for a dependency.
-/

namespace Wiring

namespace Container

variable (c : Container) (self : Dependency → Run Instance)

/-! ### Arguments -/

/-- Resolve a dependency that `member` cannot do without. -/
def resolveRequired (member : String) (d : Dependency) : Run Instance :=
  if c.registry.contains d.key || (c.justInTime d).isSome then self d
  else .fail (.missingBinding d.key.text member)

/-- The arguments of a member, in order; none if the member is optional and to be skipped. -/
def argumentsFor (member : String) (ds : List Dependency) (optional : Bool) :
    Run (Option (List Instance)) := do
  if optional then
    if let some d ← c.firstUnavailable ds then
      .log (.skipped member d.key)
      return none
  return some (← Run.collect (c.resolveRequired self member) ds)

/-! ### Members -/

/-- The call of a member, with the arguments that it reads and accepts. The journal has the
attempt also if the member fails. -/
def attemptCall (m : Member) (arguments : Arguments) : Run Call := do
  let r := m.action arguments
  let call ← .read (·.world.call m.name r.values)
  .emit (.attempted m.owner call)
  match r.error with
  | some e => .fail e
  | none => return call

/-- Run a member that `cls` lists on an object of class `target`. The member acts on the part of
the object along `path`, and only if the object is of class `cls`. -/
def runMember (cls : ClassPath) (m : Member) (path : List ClassPath) (target : ClassPath)
    (id : Nat) (arguments : Arguments) : Run Unit := do
  if target ≠ cls then .fail (.typeMismatch (TypeName.short cls) "injection target")
  let part ← .act (·.partAlong id path)
  let call ← attemptCall m arguments
  .change (·.record part call)
  .emit (.injected (path.getLast?.getD cls) part call)

/-- Inject a member into an object of class `target`, unless it is to be skipped. -/
def injectPoint (cat : Catalog) (target : ClassPath) (id : Nat) (m : Member) : Run Unit := do
  match m.role with
  | .instanceOf _ path =>
    match ← c.argumentsFor self (cat.memberName m) m.dependencies m.optional with
    | none => return ()
    | some values => runMember cat.cls m path target id (.ofList (cat.memberName m) values)
  | _ => return ()

/-- Inject the members listed in a catalog into an object of class `target`. -/
def injectPoints (cat : Catalog) (target : ClassPath) (id : Nat) : Run Unit :=
  .each (c.injectPoint self cat target id) cat.instancePoints

/-- Inject the members that `cls` declares into an object of class `target`. -/
def injectObject (cls target : ClassPath) (id : Nat) : Run Unit := do
  let cat ← c.catalog cls
  c.injectPoints self cat target id

/-- Run a static member. -/
def runStatic (m : Member) (arguments : Arguments) : Run Unit := do
  .emit (.injectedStatic m.owner (← attemptCall m arguments))

/-- Inject a static member of a class, unless it is to be skipped. -/
def injectStaticPoint (cat : Catalog) (m : Member) : Run Unit := do
  match ← c.argumentsFor self (cat.memberName m) m.dependencies m.optional with
  | none => return ()
  | some values =>
    .log (.injectingStatic (cat.memberName m))
    runStatic m (.ofList (cat.memberName m) values)

/-- Inject the static members of a class. -/
def injectStatics (cls : ClassPath) : Run Unit := do
  let cat ← c.catalog cls
  .each (c.injectStaticPoint self cat) cat.staticPoints

/-- The constructor of a class, or the error that it has none. -/
def constructorOf (cat : Catalog) : Run Member :=
  match cat.constructor with
  | some constructor => .succeed constructor
  | none => .fail (.noConstructor cat.typeName cat.typeName)

/-- The number of a new object of `cls`, given the arguments of its constructor. -/
def runConstructor (cls : ClassPath) (constructor : Member) (arguments : Arguments) :
    Run Nat := do
  let call ← attemptCall constructor arguments
  let id ← .act (·.addObject cls [call] ∅)
  .emit (.constructed cls id call)
  return id

/-- A new object of a class, with its members injected. -/
def construct (cls : ClassPath) : Run Instance := do
  let cat ← c.catalog cls
  let constructor ← constructorOf cat
  let values ← Run.collect (c.resolveRequired self (cat.memberName constructor))
    constructor.dependencies
  .log (.constructing cls)
  let id ← runConstructor cat.cls constructor (.ofList (cat.memberName constructor) values)
  c.injectPoints self cat cls id
  .act (·.wrap (.object cls id))

/-! ### Deferred bindings -/

/-- Inject the members of an object as often as a deferral asks for. -/
def injectRounds (d : Deferral) (id : Nat) : Nat → Run Unit
  | 0 => return ()
  | rounds + 1 => do
    match ← (c.injectObject self d.subject.cls d.subject.cls id).attempt with
    | .ok () => pure ()
    | .error e => if d.forgiving then .emit (.swallowed e) else .fail e
    injectRounds d id rounds

/-- The number of the object to inject for a deferral. -/
def subjectOf : Subject → Run Nat
  | .existing _ id => return id
  | .new cls => .act (·.makeObject cls)

/-- Do what a deferral asks for, and give the injected object. -/
def carryOut (d : Deferral) : Run Instance := do
  let id ← subjectOf d.subject
  c.injectRounds self d id d.rounds
  .act (·.wrap (.object d.subject.cls id))

/-- Do what the deferral of the binding of `key` asks for, and remember what came of it. -/
def injectOnce (key : Key) (d : Deferral) : Run Instance := do
  .remember (·.setReadiness key .running)
  .emit (.preparing key)
  match ← (c.carryOut self d).attempt with
  | .ok i =>
    .remember (·.setReadiness key (.ready i))
    return i
  | .error e =>
    .remember (·.setReadiness key .failed)
    .fail e

/-- The error that a deferred binding cannot be used any more. -/
def unavailable (key : Key) : ConfigurationError :=
  .bindingUnavailable key.text "member injection failed earlier"

/-- The injected object of a deferred binding. The injection is done once, when the object is
first needed; if it fails, the binding cannot be used any more. -/
def useDeferred (key : Key) (d : Deferral) : Run Instance := do
  match ← .read (·.memory.readiness key) with
  | .ready i => return i
  | .running => .stuck
  | .failed => .fail (unavailable key)
  | .waiting => c.injectOnce self key d

/-- The injected object of a deferred binding, with an entry in the journal at the end. -/
def force (key : Key) (d : Deferral) : Run Instance :=
  .noting (.forced key) (c.useDeferred self key d)

/-! ### Providers -/

/-- What a part of the current request is, or the error that there is no request. -/
def currentPart (part : RequestPart) : Run Value := do
  match ← .read (·.world.currentExchange?) with
  | none => .fail (.outOfScope part.key.text Accessor.requestName)
  | some e =>
    match part with
    | .request => return .request e.request
    | .response => return .response e.response
    | .session => return .session (← .act (·.sessionOf e.request))
    | .parameters => return .parameters (← .read (·.world.request e.request)).parameters

/-- What the provider of the binding of `key` supplies. -/
def callProvider (key : Key) : Provider → Run Instance
  | .current part => do
    let v ← currentPart part
    .act (·.wrap v)
  | .calls ty label outcome => do
    let n ← .read (·.memory.callCount key)
    .remember (·.countCall key)
    .emit (.providerCalled label n)
    let made ← .ofExcept (outcome n)
    .act (·.makeInstance ty made)

/-- What an object of class `cls` supplies as a provider of values of type `ty`. -/
def callObject (cls : ClassPath) (id : Nat) (ty : Ty) : Run Instance := do
  match (c.classes.decl cls).supply with
  | .calls outcome =>
    let n ← .act (·.countSupply id)
    .emit (.objectCalled cls id n)
    let made ← .ofExcept (outcome cls id n)
    .act (·.makeInstance ty made)
  | .copyOf part =>
    let owned ← .act (·.partOf id part)
    let history ← .read fun s => ((s.world.object? owned).map Object.history).getD []
    let copy ← .act (·.addObject part history ∅)
    .act (·.wrap (.object part copy))

/-- What an instance supplies as a provider of values of type `ty`, provided that it is an
object of class `cls`. -/
def supplyFrom (i : Instance) (cls : ClassPath) (ty : Ty) : Run Instance := do
  let i ← .ofExcept (i.cast (.component cls))
  match i.value with
  | .object cls id => c.callObject cls id ty
  | _ => .stuck

/-! ### Bindings and dependencies -/

/-- A new instance of a binding, regardless of scopes. -/
def provision (b : Binding) : Run Instance :=
  match b.source with
  | .given i => .succeed i
  | .provider p => callProvider b.key p
  | .providerType provider cls ty => do c.supplyFrom (← self provider) cls ty
  | .constructor cls => c.construct self cls
  | .injected d => c.force self b.key d
  | .injectedProvider d ty => do c.supplyFrom (← c.force self b.key d) d.subject.cls ty

/-- A new instance of a binding, regardless of scopes, with entries in the journal when the
binding begins to supply it and when it is done. -/
def supply (b : Binding) : Run Instance := do
  .emit (.supplying b.key)
  .noting (.supplied b.key) (c.provision self b)

/-- The instance of a binding in its scope. -/
def resolveBinding (b : Binding) : Run Instance := withinScope b (c.supply self b)

/-- The instance for a dependency: that of its binding, or a new object of its class. -/
def answer (d : Dependency) : Run Instance :=
  match c.registry.lookup d.key with
  | some b => c.resolveBinding self b
  | none =>
    match c.justInTime d with
    | some cls => c.construct self cls
    | none => .fail (.noConstructor d.key.text d.key.ty.name)

/-- The instance for a dependency, with entries in the journal before and after. -/
def resolveStep (d : Dependency) : Run Instance := do
  .log (.resolving d.key)
  .noting (.resolved d) (c.answer self d)

/-- The instance for a dependency, where dependencies may nest up to a depth. -/
def resolveWithin : Nat → Dependency → Run Instance
  | 0 => fun _ => .stuck
  | depth + 1 => c.resolveStep (resolveWithin depth)

/-- The depth that is left to circular dependencies, which go round until a provider or a context
ends them. -/
def circularDepth : Nat := 100000

/-- The depth up to which dependencies are resolved. Dependencies that are not circular do not
reach it, since a chain of them meets each bound key and each declared class at most once. -/
def depthBound : Nat := c.registry.size + c.classes.size + 2 + circularDepth

/-- The instance for a dependency. -/
def resolve (d : Dependency) : Run Instance := c.resolveWithin c.depthBound d

/-- Inject the members that `cls` declares into an object of class `target`. -/
def injectMembers (cls target : ClassPath) (id : Nat) : Run Unit :=
  c.injectObject c.resolve cls target id

end Container

end Wiring
