import Wiring.Registry
import Wiring.World

/-!
# Modules

A module is a list of statements: bindings, requests for static injection, and other modules
to install. Configuring a module makes the instances that its statements mention and collects
definitions and requests in a `Draft`, in the order of the statements, depth first.

A binding statement names a type and possibly a key whose qualifier it takes over; qualifiers
and scopes are then put on one after the other, the last one counting.

## Main statements

* `Statement.configure`, `configureAll`: what statements add to a draft.
* `configureAll_eq_flatten`: installing modules is the same as stating what they state.
-/

namespace Wiring

/-! ### Statements -/

/-- A step of a binding statement that sets its scope. -/
inductive ScopeStep where
  /-- Keep instances in a scope. -/
  | inScope (scope : Scope)
  /-- Keep one instance in the container and create it when the container is built. -/
  | asEagerSingleton

/-- A source as a binding statement gives it; its instances are of the stated type. -/
inductive SourceChoice where
  /-- A value made from a label. -/
  | value (label : String)
  /-- A provider of new values, known as `label`; its `n`-th call comes to a value made for the
  label `outcome n`, or to an error. -/
  | calls (label : String) (outcome : Nat → Except ConfigurationError String)
  /-- An object of class `cls`, whose members are injected, as provider. -/
  | injectableProvider (cls : ClassPath)
  /-- An object of class `cls`, which the container is asked for, as provider. -/
  | providerType (cls : ClassPath)
  /-- The constructor of the stated class. -/
  | constructor
  /-- An object of the stated class, whose members are injected. -/
  | injectableInstance

/-- A provider of new values that are numbered. -/
def SourceChoice.provider (label : String) (failure : Nat → Option ConfigurationError) :
    SourceChoice := .calls label (numbered label failure)

/-- A source as a definition gives it directly. -/
inductive DirectSource where
  /-- A value to make. -/
  | value (m : Making)
  /-- A source that needs no value. -/
  | ready (s : Source)

/-- A statement of a module. -/
inductive Statement where
  /-- Bind a type. -/
  | bind (ty : Ty) (viaKey : Option Key) (qualifiers : List Qualifier) (scopes : List ScopeStep)
      (source : SourceChoice)
  /-- Define a binding directly. -/
  | define (key : Key) (source : DirectSource) (scope : Scope) (eager : Bool)
  /-- Request static injection of a class. -/
  | injectStatic (cls : ClassPath)
  /-- Install a module. -/
  | install (statements : List Statement)

/-- The module that binds the objects of the current request. They are read anew by each
resolution, and there is nothing to read outside of a request. -/
def webModule : List Statement :=
  [RequestPart.request, .response, .session, .parameters].map fun part =>
    .define part.key (.ready (.provider (.current part))) .unscoped false

/-! ### Drafts -/

/-- What modules have stated so far. -/
structure Draft where
  /-- Whether repeated requests for static injection are dropped. -/
  distinct : Bool
  /-- The definitions, in order. -/
  definitions : List Binding
  /-- The classes to inject statically, in order. -/
  staticTargets : List ClassPath

namespace Draft

/-- A draft in which nothing is stated. -/
def empty (distinct : Bool) : Draft := ⟨distinct, [], []⟩

/-- Add a definition. -/
def define (d : Draft) (b : Binding) : Draft := { d with definitions := d.definitions ++ [b] }

/-- Add a request for static injection. -/
def requestStatic (d : Draft) (w : World) (cls : ClassPath) : Draft × World :=
  if d.distinct && cls ∈ d.staticTargets then (d, w.log (.repeatedStaticRequest cls))
  else ({ d with staticTargets := d.staticTargets ++ [cls] }, w)

end Draft

/-! ### Configuration -/

/-- The scope and the eagerness that steps lead to, from those stated before. -/
def ScopeStep.runAll : List ScopeStep → Scope × Bool → Scope × Bool
  | [], stated => stated
  | .asEagerSingleton :: rest, _ => runAll rest (.singleton, true)
  | .inScope scope :: rest, (_, eager) => runAll rest (scope, eager)

/-- The source that a choice stands for, for instances of type `ty`. -/
def SourceChoice.source (choice : SourceChoice) (ty : Ty) (w : World) : Source × World :=
  match choice with
  | value label =>
    let (i, w) := w.makeInstance ty label
    (.given i, w)
  | calls label outcome => (.provider (.calls ty label outcome), w)
  | injectableProvider cls =>
    let (id, w) := w.makeObject cls
    (.injectedProvider (.once cls id) ty, w)
  | providerType cls => (.providerType (.injectable cls) cls ty, w)
  | constructor => (.constructor ty.fullName, w)
  | injectableInstance =>
    let (id, w) := w.makeObject ty.fullName
    (.injected (.once ty.fullName id), w)

/-- The source that a direct definition stands for. -/
def DirectSource.source (choice : DirectSource) (w : World) : Source × World :=
  match choice with
  | value m =>
    let (i, w) := w.makeBy m
    (.given i, w)
  | ready s => (s, w)

/-- The key that a binding statement is about: the stated type, with the qualifier of `viaKey`
or the last of the qualifiers. -/
def statedKey (ty : Ty) (viaKey : Option Key) (qualifiers : List Qualifier) : Key :=
  Key.qualifiedByAll (match viaKey with | some key => key.retyped ty | none => .ofTy ty) qualifiers

mutual

/-- What a statement adds to a draft. -/
def Statement.configure : Statement → Draft × World → Draft × World
  | .bind ty viaKey qualifiers scopes source, (d, w) =>
    let (scope, eager) := ScopeStep.runAll scopes (.unscoped, false)
    let (source, w) := source.source ty w
    (d.define ⟨statedKey ty viaKey qualifiers, source, scope, eager⟩, w)
  | .define key source scope eager, (d, w) =>
    let (source, w) := source.source w
    (d.define ⟨key, source, scope, eager⟩, w)
  | .injectStatic cls, (d, w) => d.requestStatic w cls
  | .install statements, dw => configureAll statements dw

/-- What statements add to a draft, in order. -/
def configureAll : List Statement → Draft × World → Draft × World
  | [], dw => dw
  | s :: rest, dw => configureAll rest (s.configure dw)

end

mutual

/-- The statements that a statement comes down to once modules are installed. -/
def Statement.flatten : Statement → List Statement
  | .install statements => flattenAll statements
  | s => [s]

/-- The statements that a list of statements comes down to. -/
def flattenAll : List Statement → List Statement
  | [] => []
  | s :: rest => s.flatten ++ flattenAll rest

end

theorem configureAll_append (ss ts : List Statement) (dw : Draft × World) :
    configureAll (ss ++ ts) dw = configureAll ts (configureAll ss dw) := by
  induction ss generalizing dw with
  | nil => simp [configureAll]
  | cons s ss ih => simp [configureAll, ih]

mutual

theorem Statement.configure_eq_flatten (s : Statement) (dw : Draft × World) :
    s.configure dw = configureAll s.flatten dw := by
  cases s with
  | bind => simp [Statement.flatten, configureAll]
  | define => simp [Statement.flatten, configureAll]
  | injectStatic => simp [Statement.flatten, configureAll]
  | install statements =>
    rw [Statement.flatten, Statement.configure]
    exact configureAll_eq_flatten statements dw

theorem configureAll_eq_flatten (ss : List Statement) (dw : Draft × World) :
    configureAll ss dw = configureAll (flattenAll ss) dw := by
  cases ss with
  | nil => simp [flattenAll]
  | cons s rest =>
    rw [flattenAll, configureAll_append, configureAll, ← Statement.configure_eq_flatten s]
    exact configureAll_eq_flatten rest _

end

end Wiring
