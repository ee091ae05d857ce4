import Wiring.Container.Basic

/-!
# Scoped Instances

How an instance that belongs to a scope is obtained. The way to create it, a run, is given; the
scope decides whether to use it. A singleton is created once and kept in its slot; if creating
it fails, the slot is empty again and the next attempt starts over. A contextual instance is
left to the accessor of its context.

## Main statements

* `withinScope`: an instance of a binding, given the way to create one.
* `inSlot`: the singleton of a slot.
* `accessed`: the instance that a context keeps.
-/

namespace Wiring

/-- The instance in the slot of `key`, created by `create` if the slot is empty. Without a slot
an instance is created. -/
def inSlot (key : Key) (create : Run Instance) : Run Instance := do
  match ← .read (·.memory.slots.get? key) with
  | none => create
  | some (.full i) => return i
  | some .busy => .stuck
  | some .empty =>
    .remember (·.setSlot key .busy)
    .log (.creatingSingleton key)
    match ← create.attempt with
    | .ok i =>
      .remember (·.setSlot key (.full i))
      return i
    | .error e =>
      .remember (·.setSlot key .empty)
      .fail e

/-- The instance that a request or session keeps under `key`, created by `create` and then kept
if there is none. -/
def keptBy (keeper : World.Keeper) (key : Key) (notice : Notice) (create : Run Instance) :
    Run Instance := do
  match ← .read (fun s => (s.world.attributes keeper).get? key) with
  | some i => return i
  | none =>
    let i ← create
    .log notice
    .act (·.attributeOrInsert keeper key i)

/-- The instance that an open context gives for `key`, where `create` creates one. -/
def byRule (name : String) (key : Key) (create : Run Instance) : AccessRule → Run Instance
  | .pass => create
  | .twice => do
    let _ ← create
    create
  | .replace m => .act (·.makeBy m)
  | .fallback m => do
    match ← create.attempt with
    | .ok i => return i
    | .error _ => .act (·.makeBy m)
  | .keep => do
    match ← .read (fun s => (s.world.context name).kept.get? key) with
    | some i => return i
    | none =>
      let i ← create
      .change (·.keepInContext name key i)
      return i

/-- The instance that the context of an accessor gives for `key`, where `create` creates one. -/
def accessed (key : Key) (create : Run Instance) : Accessor → Run Instance
  | .request => do
    match ← .read (·.world.currentExchange?) with
    | none => .fail (.outOfScope key.text Accessor.requestName)
    | some e => keptBy (.request e.request) key (.keptInRequest key) create
  | .session => do
    match ← .read (·.world.currentExchange?) with
    | none => .fail (.outOfScope key.text Accessor.sessionName)
    | some e =>
      let session ← .act (·.sessionOf e.request)
      keptBy (.session session) key (.keptInSession key) create
  | .named name rule => do
    .emit (.contextConsulted name key)
    if ← .read (fun s => (s.world.context name).isOpen) then byRule name key create rule
    else .fail (.outOfScope key.text name)

/-- An instance of a binding, where `create` creates one. -/
def withinScope (b : Binding) (create : Run Instance) : Run Instance :=
  match b.scope with
  | .unscoped => create
  | .singleton => inSlot b.key create
  | .contextual accessor => accessed b.key create accessor

end Wiring
