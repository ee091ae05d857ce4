import Wiring.Container.Access

/-!
# Builders

A `Builder` collects a configuration, modules and requests for static injection, and builds a
container from them. Modules are configured at once when they are installed.

What building from a list of modules comes to can be seen at a small application, whose main class
has optional members only: a field and four methods that ask for five unrelated interfaces, one of
them under a name. Its modules bind all of the interfaces or one, and supply objects of the class in
three ways: as an object whose members are injected, through a provider whose members are injected,
and through a provider that the container constructs.

## Main statements

* `Builder.build`: the container that a builder stands for.
* `createContainer`: a container with a standard configuration from a list of modules.
* `Builder.installAll_eq`: installing modules one by one is the same as installing a module that
  installs them all.
* `Builder.requestStatics_eq`, `Builder.install_install`: so is requesting static injection, and
  so is doing one thing after another.
* `Sample.run`: running the small application with some of its modules.
* `Sample.Report`: what became of an object of its main class.
-/

namespace Wiring

/-- What the build of a container or of an application comes to, given the errors it may have. -/
abbrev BuildResult (ε : Type) := Option (Except ε RunningContainer × World)

/-- A container in the making. -/
structure Builder where
  /-- How the container is to work. -/
  config : ContainerConfig
  /-- What the modules have stated so far. -/
  draft : Draft

namespace Builder

/-- The builder with a given configuration, and without modules. -/
def ofConfig (config : ContainerConfig) : Builder := ⟨config, .empty true⟩

/-- Install a module. -/
def install (b : Builder) (statements : List Statement) (w : World) : Builder × World :=
  let (draft, w) := configureAll statements (b.draft, w)
  ({ b with draft }, w)

/-- Install modules in order. -/
def installAll (b : Builder) : List (List Statement) → World → Builder × World
  | [], w => (b, w)
  | statements :: rest, w =>
    let (b, w) := b.install statements w
    b.installAll rest w

/-- Request static injection of classes in order. -/
def requestStatics (b : Builder) : List ClassPath → World → Builder × World
  | [], w => (b, w)
  | cls :: rest, w =>
    let (draft, w) := b.draft.requestStatic w cls
    requestStatics { b with draft } rest w

/-- Build the container. -/
def build (b : Builder) (classes : ClassTable) (w : World) : BuildResult ConfigurationError :=
  b.draft.build b.config classes w

theorem installAll_eq (b : Builder) (modules : List (List Statement)) (w : World) :
    b.installAll modules w = b.install (modules.map .install) w := by
  induction modules generalizing b w with
  | nil => simp [installAll, install, configureAll]
  | cons statements rest ih =>
    simp only [installAll, ih, install, List.map_cons, configureAll, Statement.configure]

theorem requestStatics_eq (b : Builder) (classes : List ClassPath) (w : World) :
    b.requestStatics classes w = b.install (classes.map .injectStatic) w := by
  induction classes generalizing b w with
  | nil => simp [requestStatics, install, configureAll]
  | cons cls rest ih =>
    simp only [requestStatics, ih, install, List.map_cons, configureAll, Statement.configure]

theorem install_install (b : Builder) (ss ts : List Statement) (w : World) :
    (b.install ss w).1.install ts (b.install ss w).2 = b.install (ss ++ ts) w := by
  simp only [install, configureAll_append]

end Builder

/-- Build a container with a standard configuration from modules. -/
def createContainer (modules : List (List Statement)) (classes : ClassTable) (w : World) :
    BuildResult ConfigurationError :=
  let (b, w) := (Builder.ofConfig .standard).install (modules.map .install) w
  b.build classes w

namespace Sample

/-! ### The interfaces and classes of a small application -/

/-- The interfaces, each of which has an implementation. -/
inductive Letter where
  /-- What the field holds. -/
  | a
  /-- The argument of the method with one argument. -/
  | b
  /-- The first argument of the method with two arguments. -/
  | c
  /-- The second argument of the method with two arguments. -/
  | d
  /-- The argument of the method that asks for a name. -/
  | e
  deriving DecidableEq

namespace Letter

/-- All interfaces. -/
def all : List Letter := [a, b, c, d, e]

/-- The path of an interface. -/
def path : Letter → InterfacePath
  | a => "sample::A"
  | b => "sample::B"
  | c => "sample::C"
  | d => "sample::D"
  | e => "sample::E"

/-- The number of the implementation. -/
def id : Letter → Nat
  | a => 0
  | b => 1
  | c => 2
  | d => 3
  | e => 4

/-- The type of an interface. -/
def ty (l : Letter) : Ty := .interface l.path

/-- The key under which the interface is bound. -/
def key : Letter → Key
  | e => Key.qualifiedBy (.ofTy e.ty) (.named "e")
  | l => .ofTy l.ty

/-- The dependency on the interface. -/
def dependency (l : Letter) : Dependency := .ofKey l.key

/-- An implementation of the interface. -/
def implementation (l : Letter) (id : Nat) : Value := .service l.path l.path id

end Letter

/-- The class with optional members. -/
def mainClass : ClassPath := "sample::HasOptionalInjections"

/-- The class of providers of objects of the main class, of which each owns one. -/
def providerClass : ClassPath := "sample::HasOptionalInjectionsProvider"

/-- A class whose constructor is declared optional. -/
def faultyClass : ClassPath := "sample::HasOptionalConstructor"

/-- An optional method of the main class that asks for interfaces. -/
def optionalMethod (name : String) (letters : List Letter) : Member :=
  ((Member.method mainClass name (.reading (letters.map Letter.ty) none)).requiring
    (letters.map Letter.dependency)).withOptional true

/-- The names of the methods. -/
def methodNames : List String :=
  ["method_inject_zero_arguments", "method_inject_one_argument", "method_inject_two_arguments",
   "method_inject_annotated"]

/-- The constructor of a class, which needs nothing. -/
def plainConstructor (cls : ClassPath) : Member := .constructor cls (.reading [] none)

/-- The members of the main class. The field is declared behind the methods. -/
def mainMembers : List Member :=
  plainConstructor mainClass ::
    methodNames.zipWith optionalMethod [[], [.b], [.c, .d], [.e]] ++
    [(Member.field mainClass "a" Letter.a.dependency).withOptional true]

/-- The classes of the application. -/
def classes : ClassTable :=
  Outline.toTable <| .ofList
    [(mainClass, mainMembers.map .member, .fresh fun _ => none),
     (providerClass, [.member (plainConstructor providerClass), .lifted mainClass],
       .copyOf mainClass),
     (faultyClass, [.member ((plainConstructor faultyClass).withOptional true)],
       .fresh fun _ => none)]

/-! ### Its modules -/

/-- The modules of the application. -/
inductive Part where
  /-- All interfaces are bound to their implementations. -/
  | everything
  /-- One interface is bound, to an implementation of its own. -/
  | partly
  /-- The main class is bound to an object whose members are injected. -/
  | toInstance
  /-- The main class is bound to a provider whose members are injected. -/
  | toProviderInstance
  /-- The main class is bound to a provider that the container constructs. -/
  | toProvider
  deriving DecidableEq

/-- The binding of an interface to the implementation with a given number. -/
def bindLetter (l : Letter) (id : Nat) : Statement :=
  .define l.key (.ready (.given ⟨id, l.implementation id⟩)) .unscoped false

/-- The binding of the main class. -/
def bindMain (source : SourceChoice) : Statement :=
  .bind (.component mainClass) none [] [] source

/-- What a module states. -/
def Part.statements : Part → List Statement
  | everything => Letter.all.map fun l => bindLetter l l.id
  | partly => [bindLetter .c Letter.all.length]
  | toInstance => [bindMain .injectableInstance]
  | toProviderInstance => [bindMain (.injectableProvider providerClass)]
  | toProvider => [bindMain (.providerType providerClass)]

/-! ### Running it -/

/-- The world with the implementations of the interfaces. -/
def world : World :=
  let count := Letter.all.length + 1
  { World.new with things := Array.replicate count .service, wrapped := count }

/-- What to do with it. -/
inductive Task where
  /-- Ask for an object of the main class. -/
  | getInstance
  /-- Inject the members of a new object of the main class. -/
  | injectMembers
  /-- Ask for an object of the class with the optional constructor. -/
  | optionalConstructor
  deriving DecidableEq

/-- What the field of an object holds. -/
inductive FieldState where
  /-- What it held from the beginning. -/
  | initial
  /-- The implementation that is bound for all. -/
  | shared
  /-- Another implementation. -/
  | other
  deriving DecidableEq

/-- What became of an object of the main class. -/
structure Report where
  /-- What its field holds. -/
  field : FieldState
  /-- For each other interface, whether the object got the implementation that is bound for all,
  if it got one at all. -/
  received : List (Option Bool)
  /-- For each method, whether it was called. -/
  invoked : List Bool
  /-- The numbers that describe the container. -/
  stats : ContainerStats

/-- The last call of a member. -/
def lastCall (history : List Call) (name : String) : Option Call :=
  (history.filter (·.member = name)).getLast?

/-- Whether the `n`-th argument of the last call of a member is the implementation that is bound
for all. -/
def receives (history : List Call) (name : String) (n : Nat) (l : Letter) : Option Bool :=
  ((lastCall history name).bind (·.arguments[n]?)).map fun
    | .service _ _ id => id = l.id
    | _ => false

/-- What became of an object with the given history. -/
def report (history : List Call) (stats : ContainerStats) : Report where
  field := match receives history "a" 0 .a with
    | none => .initial
    | some true => .shared
    | some false => .other
  received :=
    [receives history "method_inject_one_argument" 0 .b,
     receives history "method_inject_two_arguments" 0 .c,
     receives history "method_inject_two_arguments" 1 .d,
     receives history "method_inject_annotated" 0 .e]
  invoked := methodNames.map fun name => (lastCall history name).isSome
  stats

/-- The number of the object that a task comes to, if it is about the main class. -/
def Task.run (c : Container) : Task → Run (Option Nat)
  | getInstance => do
    match (← c.getInstance mainClass).value with
    | .object _ id => return some id
    | _ => return none
  | injectMembers => do
    let id ← .act (·.makeObject mainClass)
    c.injectMembers mainClass mainClass id
    return some id
  | optionalConstructor => do
    let _ ← c.getInstance faultyClass
    return none

/-- Run the application: build its container and do a task. -/
def run (parts : List Part) (task : Task) :
    Option (Except ConfigurationError (Option Report)) := do
  let (built, w) ← createContainer (parts.map Part.statements) classes world
  match built with
  | .error e => return .error e
  | .ok r =>
    let (result, r, w) ← r.run w task.run
    return result.map fun id =>
      id.map fun id => report (((w.object? id).map Object.history).getD []) r.stats

end Sample

end Wiring
