import Wiring.Proofs.Notebook

/-!
# What Is Needed for a Dependency

A resolution may ask for further dependencies on its way. Which these are is told by the bindings
and by the catalogs of the classes that are read: what a constructor depends on, and the members
that are injected, be they optional or not, and the provider that a binding names.

## Conventions

Static members do not count, for they are not injected when an object of their class is.

## Main statements

* `Container.InjectionNeeds`, `Container.ConstructionNeeds`, `Container.StaticNeeds`: what a class
  may ask for.
* `Container.Leads`: the dependencies that resolving a dependency may ask for.
* `Container.Misses`: a class cannot do without something that nothing can supply.
-/

namespace Wiring

/-- A class cannot do without what its member `m` depends on: `m` is its constructor, or it is to
be injected and not optional. -/
def Catalog.Insists (cat : Catalog) (m : Member) : Prop :=
  cat.constructor = some m ∨ (m ∈ cat.instancePoints ∨ m ∈ cat.staticPoints) ∧ m.optional = false

namespace Container

variable (c : Container)

/-! ### What is asked for along the way -/

/-- The injection of an object of class `cls` may ask for `e`. -/
def InjectionNeeds (cls : ClassPath) (e : Dependency) : Prop :=
  ∃ cat, c.classes.catalog cls = .ok cat ∧ ∃ m ∈ cat.instancePoints, e ∈ m.dependencies

/-- The construction of an object of class `cls` may ask for `e`. -/
def ConstructionNeeds (cls : ClassPath) (e : Dependency) : Prop :=
  c.InjectionNeeds cls e ∨
    ∃ cat m, c.classes.catalog cls = .ok cat ∧ cat.constructor = some m ∧ e ∈ m.dependencies

/-- The static injection of class `cls` may ask for `e`. -/
def StaticNeeds (cls : ClassPath) (e : Dependency) : Prop :=
  ∃ cat, c.classes.catalog cls = .ok cat ∧ ∃ m ∈ cat.staticPoints, e ∈ m.dependencies

/-- The provision from a source may ask for `e`. -/
def SourceNeeds (source : Source) (e : Dependency) : Prop :=
  match source with
  | .constructor cls => c.ConstructionNeeds cls e
  | .injected d | .injectedProvider d _ => c.InjectionNeeds d.subject.cls e
  | .providerType provider _ _ => e = provider
  | .given _ | .provider _ => False

/-- The resolution of `d` may ask for `e`: from a bound key, the dependencies of the class that
its source constructs or injects, or its provider; and else, those of the class that is constructed
just in time. Optional members count like required ones. -/
def Leads (d e : Dependency) : Prop :=
  match c.registry.lookup d.key with
  | some b => c.SourceNeeds b.source e
  | none => ∃ cls, c.justInTime d = some cls ∧ c.ConstructionNeeds cls e

/-- A class cannot do without a dependency of its member `requiredBy`, of which the key prints as
`key`, but the key is not bound and no class may be constructed for it. -/
def Misses (key requiredBy : String) : Prop :=
  ∃ cls cat m d, c.classes.catalog cls = .ok cat ∧ cat.Insists m ∧ d ∈ m.dependencies ∧
    c.registry.contains d.key = false ∧ c.justInTime d = none ∧ key = d.key.text ∧
    requiredBy = cat.memberName m

variable {c}

/-- A deferred binding may ask for what the injection of its object may ask for. -/
theorem sourceNeeds_of_deferral {source : Source} {d : Deferral} (hd : source.deferral = some d)
    {e : Dependency} (he : c.InjectionNeeds d.subject.cls e) : c.SourceNeeds source e := by
  cases source <;> cases hd <;> exact he

/-- What a binding may ask for is what its key leads to. -/
theorem leads_of_needs {d e : Dependency} {b : Binding} (hb : c.registry.lookup d.key = some b)
    (he : c.SourceNeeds b.source e) : c.Leads d e := by
  unfold Leads
  rw [hb]
  exact he

/-- What a class may ask for that is constructed just in time is what its key leads to. -/
theorem leads_of_class {d e : Dependency} {cls : ClassPath}
    (hb : c.registry.lookup d.key = none) (hcls : c.justInTime d = some cls)
    (he : c.ConstructionNeeds cls e) : c.Leads d e := by
  unfold Leads
  rw [hb]
  exact ⟨cls, hcls, he⟩

end Container

end Wiring
