import Wiring.Container.Build

/-!
# Using a Container

What an application asks of a running container: instances by class, type, name or key, handles
that ask anew each time, and the injection of objects made elsewhere. An instance is handed out
as one of the type that was asked for.

## Main statements

* `RunningContainer.run`: running a computation of a container.
* `Container.getAs`: the instance for a dependency, as one of a given type.
* `Container.getInstance`, `Container.getNamed`: the instance for a class or a name.
-/

namespace Wiring

namespace Container

variable (c : Container)

/-- The instance for a dependency, as one of type `ty`. -/
def getAs (ty : Ty) (d : Dependency) : Run Instance := do
  let i ← c.resolve d
  .ofExcept (i.cast ty)

/-- An object of a class, constructed if the class is not bound. -/
def getInstance (cls : ClassPath) : Run Instance := c.getAs (.component cls) (.injectable cls)

/-- The instance bound for a type. -/
def get (ty : Ty) : Run Instance := c.getAs ty (.ofTy ty)

/-- The instance bound for a type under a name. -/
def getNamed (ty : Ty) (name : String) : Run Instance :=
  c.getAs ty ((Dependency.ofTy ty).qualifiedBy (.named name))

/-- The instance bound for a key, as one of type `ty`. -/
def getFor (ty : Ty) (key : Key) : Run Instance := c.getAs ty (.ofKey key)

end Container

namespace RunningContainer

/-- Run a computation of a container. -/
def run {α : Type} (r : RunningContainer) (w : World) (x : Container → Run α) :
    Option (Except ConfigurationError α × RunningContainer × World) :=
  (x r.container ⟨r.memory, w⟩).map fun (a, s) => (a, { r with memory := s.memory }, s.world)

/-- The numbers that describe a running container. -/
def stats (r : RunningContainer) : ContainerStats := r.container.stats r.memory

end RunningContainer

end Wiring
