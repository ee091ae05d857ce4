import Wiring.Container.Resolution

/-!
# Building a Container

A container is built from a draft. The definitions make up its registry. Then the members of
deferred bindings are injected, in the order of the registry; then static members, in the order
of the requests; and then singletons are created ahead of time, in the order of the registry:
all of them, or those that are marked. The first step that fails ends the build, with an error
that names the step and wraps what went wrong.

## Main statements

* `Container.injectDeferred`, `Container.injectStaticTargets`, `Container.createSingletons`:
  the three phases of a build.
* `Draft.build`: the container of a draft.
-/

namespace Wiring

namespace Container

variable (c : Container)

/-- Inject the members of a deferred binding; do nothing about another one. -/
def prepare (b : Binding) : Run Unit :=
  match b.source.deferral with
  | none => return ()
  | some d => .mapError (.memberInjection b.key.text) do
    let _ ← c.force c.resolve b.key d

/-- Inject the members of all deferred bindings. -/
def injectDeferred : Run Unit := .each c.prepare c.registry.toList

/-- Inject the static members of a class. -/
def injectStaticTarget (cls : ClassPath) : Run Unit :=
  .mapError (.staticInjection (TypeName.short cls)) (c.injectStatics c.resolve cls)

/-- Inject all static members. -/
def injectStaticTargets : Run Unit := do
  .each c.injectStaticTarget c.staticTargets
  if !c.staticTargets.isEmpty then .log (.staticsInjected c.staticTargets.length)

/-- Whether a binding is a singleton to be created ahead of time. -/
def isAhead (b : Binding) : Bool := b.scope.isSingleton && (c.config.eager || b.eager)

/-- Create a singleton ahead of time. -/
def createAhead (b : Binding) : Run Unit := do
  .log (.creatingAhead b.key)
  .mapError (.eagerSingleton b.key.text) do
    let _ ← c.resolveBinding c.resolve b

/-- Create all singletons that are to be created ahead of time. -/
def createSingletons : Run Unit := .each c.createAhead (c.registry.toList.filter c.isAhead)

/-- What is done to a new container before it is used. -/
def start : Run Unit := do
  c.injectDeferred
  c.injectStaticTargets
  c.createSingletons
  .log (.built (← .read fun s => c.stats s.memory))

end Container

/-- A container together with what it remembers. -/
structure RunningContainer where
  /-- The container. -/
  container : Container
  /-- What it remembers. -/
  memory : Memory

/-- The registry of definitions, and the notices that registering them gives rise to. -/
def Registry.announced (definitions : List Binding) : Registry × List Notice :=
  definitions.foldl (fun (r, notices) b => (r.register b, notices ++ r.noticesOf b)) (.empty, [])

namespace Draft

/-- The container that a draft describes, before anything is done to it. -/
def container (d : Draft) (config : ContainerConfig) (classes : ClassTable) : Container :=
  ⟨config, .ofDefinitions d.definitions, d.staticTargets, classes⟩

/-- Build the container of a draft. -/
def build (d : Draft) (config : ContainerConfig) (classes : ClassTable) (w : World) :
    Option (Except ConfigurationError RunningContainer × World) :=
  let c := d.container config classes
  let w := (Registry.announced d.definitions).2.foldl World.log w
  (c.start ⟨c.initialMemory, w⟩).map fun (r, s) => (r.map fun _ => ⟨c, s.memory⟩, s.world)

end Draft

end Wiring
