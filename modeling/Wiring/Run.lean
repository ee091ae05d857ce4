import Wiring.Catalog
import Wiring.World

/-!
# Runs of a Container

A container remembers singletons, deferred bindings, catalogs and how often its providers were
called; that is its `Memory`. A `Run` is a computation of a container: from a memory and the
world it comes to a value or an error, and to a new memory and world. What it did before an
error stays done.

## Conventions

A run need not come to an end: a container whose bindings need each other in a circle that
nothing breaks never answers, and neither does one that asks for a value while that very value
is being created. Such a run is `none` at the state it starts from.

## Main statements

* `Run.bind_eq`, `Run.pure_eq`: how runs follow one another.
* `Run.attempt_eq`: an attempted run never fails.
* `Run.andThen_assoc`: it does not matter how steps are grouped.
-/

namespace Wiring

/-- A place for a value that is created at most once. -/
inductive Cell where
  /-- There is no value. -/
  | empty
  /-- The value is being created. -/
  | busy
  /-- The value is there. -/
  | full (i : Instance)
  deriving DecidableEq

/-- How far a deferred binding is. -/
inductive Readiness where
  /-- Its members wait for injection. -/
  | waiting
  /-- Its members are being injected. -/
  | running
  /-- The injection failed, and will not be tried again. -/
  | failed
  /-- The object can be used. -/
  | ready (i : Instance)
  deriving DecidableEq

/-- What a container remembers. -/
structure Memory where
  /-- The singletons. -/
  slots : Table Key Cell
  /-- The deferred bindings. -/
  deferred : Table Key Readiness
  /-- How often the provider of a binding was called. -/
  calls : Table Key Nat
  /-- The catalogs that were built. -/
  catalogs : Table ClassPath Catalog

/-- What a container remembers and acts on. -/
structure State where
  /-- What it remembers. -/
  memory : Memory
  /-- What it acts on. -/
  world : World

/-- A computation of a container, which fails, succeeds or never comes to an end. -/
def Run (α : Type) : Type := State → Option (Except ConfigurationError α × State)

namespace Run

variable {α β γ : Type}

/-- The run that does nothing and comes to `a`. -/
def succeed (a : α) : Run α := fun s => some (.ok a, s)

/-- Go on with `f` from where `x` succeeds. -/
def andThen (x : Run α) (f : α → Run β) : Run β := fun s =>
  match x s with
  | none => none
  | some (.error e, s') => some (.error e, s')
  | some (.ok a, s') => f a s'

instance : Monad Run where
  pure := succeed
  bind := andThen

/-- The run that does nothing and fails. -/
def fail (e : ConfigurationError) : Run α := fun s => some (.error e, s)

/-- The run that never comes to an end. -/
def stuck : Run α := fun _ => none

/-- The run that comes to a given result. -/
def ofExcept : Except ConfigurationError α → Run α
  | .ok a => succeed a
  | .error e => fail e

/-- The run that succeeds with the result of `x`, be it a value or an error. -/
def attempt (x : Run α) : Run (Except ConfigurationError α) := fun s =>
  (x s).map fun (r, s') => (.ok r, s')

/-- Do `x`, and change its error. -/
def mapError (f : ConfigurationError → ConfigurationError) (x : Run α) : Run α := fun s =>
  (x s).map fun (r, s') => (r.mapError f, s')

/-- Do `x`, and enter in the journal what it came to. -/
def noting (f : Except ConfigurationError α → Event) (x : Run α) : Run α := fun s =>
  (x s).map fun (r, s') => (r, { s' with world := s'.world.emit (f r) })

/-- Read the state. -/
def read (f : State → α) : Run α := fun s => some (.ok (f s), s)

/-- Act on the world. -/
def act (f : World → α × World) : Run α := fun s =>
  let (a, w) := f s.world
  some (.ok a, { s with world := w })

/-- Change the world. -/
def change (f : World → World) : Run Unit := fun s =>
  some (.ok (), { s with world := f s.world })

/-- Change the memory. -/
def remember (f : Memory → Memory) : Run Unit := fun s =>
  some (.ok (), { s with memory := f s.memory })

/-- Enter an event in the journal. -/
def emit (e : Event) : Run Unit := change (·.emit e)

/-- Write a notice to the log. -/
def log (n : Notice) : Run Unit := change (·.log n)

/-- Do `f` for each element of a list, from the left, up to the first that fails. -/
def each (f : α → Run Unit) : List α → Run Unit
  | [] => succeed ()
  | a :: as => andThen (f a) fun _ => each f as

/-- The results of `f` for each element of a list, from the left, up to the first that
fails. -/
def collect (f : α → Run β) : List α → Run (List β)
  | [] => succeed []
  | a :: as => andThen (f a) fun b => andThen (collect f as) fun bs => succeed (b :: bs)

/-! ### Laws -/

theorem pure_eq (a : α) (s : State) : (pure a : Run α) s = some (.ok a, s) := rfl

/-- A run goes on if it succeeds, and stops otherwise. -/
theorem bind_eq (x : Run α) (f : α → Run β) (s : State) :
    (x >>= f) s =
      match x s with
      | none => none
      | some (.error e, s') => some (.error e, s')
      | some (.ok a, s') => f a s' := rfl

/-- A run whose errors are kept apart never fails. -/
theorem attempt_eq (x : Run α) (s : State) :
    x.attempt s = (x s).map fun (r, s') => (.ok r, s') := rfl

/-- Nothing has to be done after a run. -/
theorem andThen_succeed (x : Run α) : x.andThen succeed = x := by
  funext s
  rcases h : x s with _ | ⟨_ | _, _⟩ <;> simp [andThen, h, succeed]

/-- Three runs one after another. -/
theorem andThen_assoc (x : Run α) (f : α → Run β) (g : β → Run γ) :
    (x.andThen f).andThen g = x.andThen fun a => (f a).andThen g := by
  funext s
  rcases h : x s with _ | ⟨_ | _, _⟩ <;> simp [andThen, h]

instance : LawfulMonad Run :=
  LawfulMonad.mk' Run andThen_succeed (fun _ _ => rfl) andThen_assoc

end Run

end Wiring
