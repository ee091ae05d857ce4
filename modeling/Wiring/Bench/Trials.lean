import Wiring.Bench.Step

/-!
# Trials without a Container

The parts of a container can be tried out one by one: registering definitions, keeping
instances in scopes, looking for catalogs, and running single members.

## Main statements

* `Bench.define`: the registry of some statements.
* `ScopeUse.perform`: resolving a binding in its scope, with a given way to create instances.
* `Bench.findCatalog`: looking for a catalog among those that are kept.
* `MemberUse.perform`: running a single member with given arguments.
-/

namespace Wiring

namespace Bench

/-- Run a computation of a container that remembers nothing but `m`. -/
def runWith {α : Type} (m : Memory) (x : Run α) :
    Trial (Except Failure α × Memory) := fun b =>
  match x ⟨m, b.world⟩ with
  | none => ((.error .unending, m), b)
  | some (result, s) => ((result.mapError .configuration, s.memory), { b with world := s.world })

/-- The draft of some statements, and the registry of its definitions. -/
def define (statements : List Statement) : Trial (Draft × Registry) := do
  let draft ← act fun w => configureAll statements (.empty false, w)
  let (registry, notices) := Registry.announced draft.definitions
  change fun w => notices.foldl World.log w
  return (draft, registry)

end Bench

open Bench

/-! ### Scopes -/

/-- Something to do with bindings in scopes. -/
inductive ScopeUse where
  /-- Open or close a context. -/
  | setContext (name : String) (isOpen : Bool)
  /-- Resolve the binding of a key, from the first or the other registry. An instance is created
  by making a value, or creating one fails with a message. -/
  | resolve (key : Key) (fromOther : Bool) (creation : Except String Making)

/-- What the use of a scope comes to. -/
inductive ScopeAnswer where
  /-- It was done. -/
  | done
  /-- The key is not bound. -/
  | noBinding
  /-- A binding was resolved: the name of the type and the text of the instance, whether the slot
  of the key is full, the number of slots and of full slots, and the lines written up to it. -/
  | resolved (result : Except Failure (String × String)) (isInstantiated : Bool)
      (slots full : Nat) (lines : List String)

/-- The run that creates an instance for `key`. -/
def creating (key : Key) (creation : Except String Making) : Run Instance := do
  .emit .provisioned
  match creation with
  | .error message => .fail (.providerFailed key.text message)
  | .ok m => .act (·.makeBy m)

/-- What a use of scopes comes to; the slots are those in `m`. -/
def ScopeUse.perform (items other : Registry) (m : Memory) :
    ScopeUse → Trial (ScopeAnswer × Memory)
  | setContext name isOpen => do
    change (·.setContext name isOpen)
    return (.done, m)
  | resolve key fromOther creation => do
    match (if fromOther then other else items).lookup key with
    | none => return (.noBinding, m)
    | some binding =>
      let (result, m) ← runWith m (withinScope binding (creating key creation))
      let result ← match result with
        | .error failure => pure (.error failure)
        | .ok i => do pure (.ok (i.ty.name, ← caption i.value))
      return (.resolved result (m.isInstantiated key) m.slotCount m.fullCount (← takeLines), m)

/-- What uses of scopes come to, in order. -/
def ScopeUse.performAll (items other : Registry) :
    Memory → List ScopeUse → Trial (List ScopeAnswer)
  | _, [] => return []
  | m, u :: rest => do
    let (answer, m) ← u.perform items other m
    return answer :: (← performAll items other m rest)

/-- What uses of scopes come to, where the slots are those of the first registry. -/
def tryScopes (items other : List Statement) (uses : List ScopeUse) :
    Trial (List ScopeAnswer) := do
  let (_, items) ← define items
  let (_, other) ← define other
  ScopeUse.performAll items other (.ofRegistry items) uses

/-! ### Catalogs -/

/-- What looking for a catalog comes to. -/
structure CatalogAnswer where
  /-- The catalog. -/
  result : Except ConfigurationError Catalog
  /-- Whether the catalog was kept from before. -/
  shared : Bool
  /-- The number of catalogs that are kept afterwards. -/
  kept : Nat
  /-- The lines written up to it. -/
  lines : List String

/-- The catalog of `cls`, built anew, or found among those that are kept. -/
def Bench.findCatalog (cls : ClassPath) (anew : Bool) (catalogs : Table ClassPath Catalog) :
    Trial (CatalogAnswer × Table ClassPath Catalog) := do
  let classes := (← get).classes
  let find := if anew then classes.newCatalog cls else catalogOf classes cls
  let (result, catalogs') ← act fun w =>
    let (result, nb) := find ⟨catalogs, w.journal⟩
    ((result, nb.catalogs), { w with journal := nb.journal })
  return (⟨result, catalogs.contains cls, catalogs'.size, ← takeLines⟩, catalogs')

/-- Look for catalogs in order. -/
def Bench.findCatalogs : Table ClassPath Catalog → List (ClassPath × Bool) →
    Trial (List CatalogAnswer)
  | _, [] => return []
  | catalogs, (cls, anew) :: rest => do
    let (answer, catalogs) ← findCatalog cls anew catalogs
    return answer :: (← findCatalogs catalogs rest)

/-! ### Members -/

/-- The use of a single member. -/
structure MemberUse where
  /-- The class whose table lists the member. -/
  cls : ClassPath
  /-- The member. -/
  member : Member
  /-- The values to make for its arguments. -/
  values : List Making
  /-- The class of the new object that a member of an object is run on. -/
  target : ClassPath
  /-- The class that a constructed object is taken to be of. -/
  expected : ClassPath

namespace MemberUse

/-- The run of a constructor, whose object must be of the expected class. -/
def construct (u : MemberUse) (values : List Instance) : Run Instance := do
  let id ← Container.runConstructor u.cls u.member (.ofList u.member.name values)
  if u.expected ≠ u.cls then
    .fail (.typeMismatch (TypeName.short u.expected) "constructed value")
  .act (·.wrap (.object u.cls id))

/-- What the use of a member comes to. -/
def perform (u : MemberUse) : Trial Answer := do
  let values ← makeAll u.values
  let arguments := Arguments.ofList u.member.name values
  match u.member.role with
  | .constructor =>
    match ← runWith .empty (u.construct values) with
    | (.error failure, _) => return .failed failure
    | (.ok i, _) => return .typed i.ty.name (← caption i.value)
  | .instanceOf _ path =>
    let id ← act (·.makeObject u.target)
    match ← runWith .empty (Container.runMember u.cls u.member path u.target id arguments) with
    | (.error failure, _) => return .failed failure
    | (.ok (), _) => return .shown (← exhibit (.object u.target id))
  | .static _ =>
    match ← runWith .empty (Container.runStatic u.member arguments) with
    | (.error failure, _) => return .failed failure
    | (.ok (), _) => return .done

/-- What uses of members come to, in order, with the lines written up to each. -/
def performAll : List MemberUse → Trial (List Report)
  | [] => return []
  | u :: rest => do
    let answer ← u.perform
    let lines ← takeLines
    return (answer, lines) :: (← performAll rest)

end MemberUse

end Wiring
