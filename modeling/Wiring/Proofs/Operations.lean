import Wiring.Container.Access
import Wiring.Proofs.Follows

/-!
# Operations of a Container

What is done with a container in the course of time is a list of operations. A container may be
built, dependencies may be resolved, members may be injected, and it may be asked what can be
resolved. Meanwhile the world goes on. An operation that fails does not keep the next ones from
being done, and it may be done again.

## Conventions

Whatever happens in between does not look at the journal. Apart from that it may be anything: a
request that is entered, a context that is closed, another container at work.

## Main statements

* `Operation.run`: what an operation does.
* `Container.operate`: operations one after another.
-/

namespace Wiring

/-- What may be done with a container, or happen in between. -/
inductive Operation where
  /-- The container is built. -/
  | start
  /-- A dependency is resolved. -/
  | resolve (d : Dependency)
  /-- An instance is asked for as one of a type. -/
  | get (ty : Ty) (d : Dependency)
  /-- The members that `cls` declares are injected into an object of class `target`. -/
  | inject (cls target : ClassPath) (id : Nat)
  /-- The static members of a class are injected. -/
  | injectStatics (cls : ClassPath)
  /-- It is asked whether a dependency can be resolved. -/
  | ask (d : Dependency)
  /-- Something happens in the world. -/
  | meanwhile (f : World → World) (blind : World.BlindChange f)

/-- What an operation comes to if it succeeds. -/
inductive Reply where
  /-- Something was done. -/
  | done
  /-- An instance. -/
  | handed (i : Instance)
  /-- Whether a dependency can be resolved. -/
  | told (b : Bool)

/-- The instance that is handed over. -/
def Reply.instance? : Reply → Option Instance
  | done => none
  | handed i => some i
  | told _ => none

theorem Reply.instance?_eq_some {r : Reply} {i : Instance} :
    r.instance? = some i ↔ r = .handed i := by
  cases r <;> simp [instance?]

/-- What an operation does. -/
def Operation.run (c : Container) : Operation → Run Reply
  | start => do
    c.start
    return .done
  | resolve d => return .handed (← c.resolve d)
  | get ty d => return .handed (← c.getAs ty d)
  | inject cls target id => do
    c.injectMembers cls target id
    return .done
  | injectStatics cls => do
    c.injectStatics c.resolve cls
    return .done
  | ask d => return .told (← c.canResolve d)
  | meanwhile f _ => do
    .change f
    return .done

/-- Whether an operation is one of the container, and not something that happens in the world. -/
def Operation.isOwn : Operation → Bool
  | meanwhile .. => false
  | _ => true

/-- What operations come to, one after another. -/
def Container.operate (c : Container) (ops : List Operation) :
    Run (List (Except ConfigurationError Reply)) :=
  Run.collect (fun op => (op.run c).attempt) ops

end Wiring
