import Wiring.Container.Basic

/-!
# Availability

Before an optional member is injected, the container checks whether its dependencies are
available. A bound key is available. Otherwise the class of the key must be constructible just
in time, and what its constructor and its required members depend on must be available too.
The check follows these dependencies and looks at catalogs only; it creates nothing.

A class that is already on the path of the check counts as available, so the check ends on
circular dependencies. A class without a catalog counts as available as well: using it reports
what is wrong with it.

## Main statements

* `Container.availableWithin`: the check, with a bound on the length of its path.
* `Container.canResolve`: the check with a bound that no path reaches.
-/

namespace Wiring

/-- What must be available for objects of a class to be constructed: what its constructor and
its required members depend on. -/
def Catalog.requirements (cat : Catalog) (constructor : Member) : List Dependency :=
  constructor.dependencies ++
    (cat.instancePoints.filter (!·.optional)).flatMap Member.dependencies

namespace Container

/-- Whether a dependency is available, when the classes on `path` are taken to be. A path can
grow by `depth` classes; beyond that, everything counts as available. -/
def availableWithin (c : Container) : Nat → List ClassPath → Dependency → Notebook →
    Bool × Notebook
  | depth, path, d, nb =>
    if c.registry.contains d.key then (true, nb)
    else
      match c.justInTime d with
      | none => (false, nb)
      | some cls =>
        match catalogOf c.classes cls nb with
        | (.error _, nb) => (true, nb)
        | (.ok cat, nb) =>
          match cat.constructor with
          | none => (false, nb)
          | some constructor =>
            if cls ∈ path then (true, nb)
            else
              match depth with
              | 0 => (true, nb)
              | depth + 1 =>
                Notebook.all (c.availableWithin depth (cls :: path))
                  (cat.requirements constructor) nb

/-- Whether a dependency is available. A class on the path has a constructor and so is one of
the declared classes, so no path is longer than their list. -/
def available (c : Container) (d : Dependency) : Notebook → Bool × Notebook :=
  c.availableWithin c.classes.size [] d

/-- Whether resolving a dependency can succeed. -/
def canResolve (c : Container) (d : Dependency) : Run Bool := .note (c.available d)

/-- The first of some dependencies that is not available. -/
def firstUnavailable (c : Container) (ds : List Dependency) : Run (Option Dependency) :=
  .note (Notebook.firstFailing c.available ds)

end Container

end Wiring
