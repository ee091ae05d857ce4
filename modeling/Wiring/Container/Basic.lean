import Wiring.Module
import Wiring.Run

/-!
# Containers

A container is built from a configuration, the bindings in force, the classes to inject
statically, and the class table. None of these change afterwards; what changes is the memory
of the container.

Catalogs are built when they are first needed and then kept. A class whose member table has no
catalog is asked again the next time. Looking for a catalog touches only the `Notebook`: the
kept catalogs and the journal.

## Main statements

* `catalogOf`: the catalog of a class, from the kept ones or newly built.
* `Container.initialMemory`: a slot for each singleton, and nothing else.
* `Container.justInTime`: which class may be constructed for a dependency.
-/

namespace Wiring

/-- A container: what is fixed when it is built. -/
structure Container where
  /-- How it works. -/
  config : ContainerConfig
  /-- The bindings in force. -/
  registry : Registry
  /-- The classes to inject statically. -/
  staticTargets : List ClassPath
  /-- The declared classes. -/
  classes : ClassTable

/-- What looking for a catalog touches. -/
structure Notebook where
  /-- The catalogs that were built. -/
  catalogs : Table ClassPath Catalog
  /-- What happened. -/
  journal : Array Event

namespace Notebook

/-- Enter an event in the journal. -/
def emit (nb : Notebook) (e : Event) : Notebook := { nb with journal := nb.journal.push e }

/-- Write a notice to the log. -/
def log (nb : Notebook) (n : Notice) : Notebook := nb.emit (.logged n)

/-- Whether `f` holds of all elements of a list, asked from the left up to the first of which
it does not. -/
def all {α : Type} (f : α → Notebook → Bool × Notebook) : List α → Notebook → Bool × Notebook
  | [], nb => (true, nb)
  | a :: as, nb =>
    match f a nb with
    | (true, nb) => all f as nb
    | (false, nb) => (false, nb)

/-- The first element of a list of which `f` does not hold, asked from the left. -/
def firstFailing {α : Type} (f : α → Notebook → Bool × Notebook) :
    List α → Notebook → Option α × Notebook
  | [], nb => (none, nb)
  | a :: as, nb =>
    match f a nb with
    | (true, nb) => firstFailing f as nb
    | (false, nb) => (some a, nb)

end Notebook

/-- Enter in the journal that the member table of `cls` is read. -/
def ClassTable.consult (t : ClassTable) (cls : ClassPath) (nb : Notebook) : Notebook :=
  (cls :: (t.decl cls).consulted).foldl (fun nb c => nb.emit (.membersRead c)) nb

/-- The catalog of a class, built anew. -/
def ClassTable.newCatalog (t : ClassTable) (cls : ClassPath) (nb : Notebook) :
    Except ConfigurationError Catalog × Notebook :=
  (Catalog.build cls (t.members cls), t.consult cls nb)

/-- The catalog of a class: the kept one, or a new one, which is then kept. -/
def catalogOf (t : ClassTable) (cls : ClassPath) (nb : Notebook) :
    Except ConfigurationError Catalog × Notebook :=
  match nb.catalogs.get? cls with
  | some c => (.ok c, nb)
  | none =>
    match t.newCatalog cls nb with
    | (.error e, nb) => (.error e, nb)
    | (.ok c, nb) =>
      let nb := nb.log (.catalogBuilt cls c.instancePoints.length c.staticPoints.length)
      (.ok c, { nb with catalogs := nb.catalogs.insert cls c })

namespace State

/-- The notebook of a state. -/
def notebook (s : State) : Notebook := ⟨s.memory.catalogs, s.world.journal⟩

/-- The state with another notebook. -/
def withNotebook (s : State) (nb : Notebook) : State :=
  ⟨{ s.memory with catalogs := nb.catalogs }, { s.world with journal := nb.journal }⟩

end State

/-- A computation on the notebook as a run. -/
def Run.note {α : Type} (f : Notebook → α × Notebook) : Run α := fun s =>
  let (a, nb) := f s.notebook
  some (.ok a, s.withNotebook nb)

namespace Memory

/-- Nothing is remembered. -/
def empty : Memory := ⟨∅, ∅, ∅, ∅⟩

/-- An empty slot for each singleton of a registry. -/
def ofRegistry (r : Registry) : Memory :=
  { empty with
    slots := .ofList <| (r.toList.filter (·.scope.isSingleton)).map fun b => (b.key, .empty) }

/-- The number of slots. -/
def slotCount (m : Memory) : Nat := m.slots.size

/-- Whether the slot of a key is full. -/
def isInstantiated (m : Memory) (key : Key) : Bool :=
  match m.slots.get? key with
  | some (.full _) => true
  | _ => false

/-- The number of full slots. -/
def fullCount (m : Memory) : Nat :=
  (m.slots.values.filter fun | .full _ => true | _ => false).length

/-- How far a deferred binding is. -/
def readiness (m : Memory) (key : Key) : Readiness := (m.deferred.get? key).getD .waiting

/-- Put a cell into the slot of a key. -/
def setSlot (m : Memory) (key : Key) (c : Cell) : Memory :=
  { m with slots := m.slots.insert key c }

/-- Say how far a deferred binding is. -/
def setReadiness (m : Memory) (key : Key) (r : Readiness) : Memory :=
  { m with deferred := m.deferred.insert key r }

/-- How often the provider of a binding was called. -/
def callCount (m : Memory) (key : Key) : Nat := (m.calls.get? key).getD 0

/-- Count a call of the provider of a binding. -/
def countCall (m : Memory) (key : Key) : Memory :=
  { m with calls := m.calls.insert key (m.callCount key + 1) }

end Memory

namespace Container

/-- What a new container remembers: that none of its singletons has been created. -/
def initialMemory (c : Container) : Memory := .ofRegistry c.registry

/-- The class to construct for a dependency whose key is not bound, if that is allowed. -/
def justInTime (c : Container) (d : Dependency) : Option ClassPath :=
  if c.config.jitBindings then d.justInTime else none

/-- The numbers that describe a container. -/
def stats (c : Container) (m : Memory) : ContainerStats :=
  { bindings := c.registry.size
    singletons := m.slotCount
    created := m.fullCount
    staticTargets := c.staticTargets.length
    catalogs := m.catalogs.size }

/-- Whether a key is bound. -/
def hasBinding (c : Container) (key : Key) : Bool := c.registry.contains key

/-- The catalog of a class, or the error that there is none. -/
def catalog (c : Container) (cls : ClassPath) : Run Catalog := do
  .ofExcept (← .note (catalogOf c.classes cls))

end Container

end Wiring
