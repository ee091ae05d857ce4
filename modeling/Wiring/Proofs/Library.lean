import Wiring.Proofs.Likeness
import Wiring.Proofs.Operations

/-!
# Containers With Another Way to Find Catalogs

A container keeps the catalogs that it built. To say what this changes, one compares it with a
container that does the same but finds catalogs in another way. A `Library` is a container together
with a way to find catalogs, and what it does is what the container does, with this way put in the
place of the one that keeps them. `Container.library` is the container as it is, and
`Container.rebuilding` builds each catalog anew, as often as it is asked for.

Two libraries of one container do the same if they find the same catalogs, from states that
correspond.

## Main statements

* `Library.operate`: what a library does by operations one after another.
* `Container.operate_library`: a container is a library that keeps catalogs.
* `Library.Matching.availableWithin`: libraries that find out the same about some dependencies.
* `Library.Agree`: two ways to find catalogs come to the same.
* `Library.follows_operate`: libraries that find the same catalogs do the same.
-/

namespace Wiring

/-- A way to find the catalog of a class. -/
abbrev Finder := ClassPath → Notebook → Except ConfigurationError Catalog × Notebook

/-- A container with a way to find catalogs. -/
structure Library where
  /-- The container. -/
  container : Container
  /-- How catalogs are found. -/
  find : Finder

/-- The container as it is: it keeps the catalogs that it built. -/
def Container.library (c : Container) : Library := ⟨c, catalogOf c.classes⟩

/-- The container without kept catalogs: each is built anew whenever it is asked for. -/
def Container.rebuilding (c : Container) : Library := ⟨c, c.classes.newCatalog⟩

namespace Library

variable (l : Library) (self : Dependency → Run Instance)

/-! ### Availability -/

/-- Whether a dependency is available, when the classes on `path` are taken to be. -/
def availableWithin (l : Library) : Nat → List ClassPath → Dependency → Notebook → Bool × Notebook
  | depth, path, d, nb =>
    if l.container.registry.contains d.key then (true, nb)
    else
      match l.container.justInTime d with
      | none => (false, nb)
      | some cls =>
        match l.find cls nb with
        | (.error _, nb) => (true, nb)
        | (.ok cat, nb) =>
          match cat.constructor with
          | none => (false, nb)
          | some constructor =>
            if cls ∈ path then (true, nb)
            else
              match depth with
              | 0 => (true, nb)
              | depth + 1 =>
                Notebook.all (l.availableWithin depth (cls :: path))
                  (cat.requirements constructor) nb

/-- Whether a dependency is available. -/
def available (d : Dependency) : Notebook → Bool × Notebook :=
  l.availableWithin l.container.classes.size [] d

/-- Whether resolving a dependency can succeed. -/
def canResolve (d : Dependency) : Run Bool := .note (l.available d)

/-- The first of some dependencies that is not available. -/
def firstUnavailable (ds : List Dependency) : Run (Option Dependency) :=
  .note (Notebook.firstFailing l.available ds)

/-- The catalog of a class, or the error that there is none. -/
def catalog (cls : ClassPath) : Run Catalog := do
  .ofExcept (← .note (l.find cls))

/-! ### Members -/

/-- The arguments of a member, in order; none if the member is optional and to be skipped. -/
def argumentsFor (member : String) (ds : List Dependency) (optional : Bool) :
    Run (Option (List Instance)) := do
  if optional then
    if let some d ← l.firstUnavailable ds then
      .log (.skipped member d.key)
      return none
  return some (← Run.collect (l.container.resolveRequired self member) ds)

/-- Inject a member into an object of class `target`, unless it is to be skipped. -/
def injectPoint (cat : Catalog) (target : ClassPath) (id : Nat) (m : Member) : Run Unit := do
  match m.role with
  | .instanceOf _ path =>
    match ← l.argumentsFor self (cat.memberName m) m.dependencies m.optional with
    | none => return ()
    | some values =>
      Container.runMember cat.cls m path target id (.ofList (cat.memberName m) values)
  | _ => return ()

/-- Inject the members listed in a catalog into an object of class `target`. -/
def injectPoints (cat : Catalog) (target : ClassPath) (id : Nat) : Run Unit :=
  .each (l.injectPoint self cat target id) cat.instancePoints

/-- Inject the members that `cls` declares into an object of class `target`. -/
def injectObject (cls target : ClassPath) (id : Nat) : Run Unit := do
  let cat ← l.catalog cls
  l.injectPoints self cat target id

/-- Inject a static member of a class, unless it is to be skipped. -/
def injectStaticPoint (cat : Catalog) (m : Member) : Run Unit := do
  match ← l.argumentsFor self (cat.memberName m) m.dependencies m.optional with
  | none => return ()
  | some values =>
    .log (.injectingStatic (cat.memberName m))
    Container.runStatic m (.ofList (cat.memberName m) values)

/-- Inject the static members of a class. -/
def injectStatics (cls : ClassPath) : Run Unit := do
  let cat ← l.catalog cls
  .each (l.injectStaticPoint self cat) cat.staticPoints

/-- A new object of a class, with its members injected. -/
def construct (cls : ClassPath) : Run Instance := do
  let cat ← l.catalog cls
  let constructor ← Container.constructorOf cat
  let values ← Run.collect (l.container.resolveRequired self (cat.memberName constructor))
    constructor.dependencies
  .log (.constructing cls)
  let id ← Container.runConstructor cat.cls constructor
    (.ofList (cat.memberName constructor) values)
  l.injectPoints self cat cls id
  .act (·.wrap (.object cls id))

/-! ### Deferred bindings -/

/-- Inject the members of an object as often as a deferral asks for. -/
def injectRounds (d : Deferral) (id : Nat) : Nat → Run Unit
  | 0 => return ()
  | rounds + 1 => do
    match ← (l.injectObject self d.subject.cls d.subject.cls id).attempt with
    | .ok () => pure ()
    | .error e => if d.forgiving then .emit (.swallowed e) else .fail e
    injectRounds d id rounds

/-- Do what a deferral asks for, and give the injected object. -/
def carryOut (d : Deferral) : Run Instance := do
  let id ← Container.subjectOf d.subject
  l.injectRounds self d id d.rounds
  .act (·.wrap (.object d.subject.cls id))

/-- Do what the deferral of the binding of `key` asks for, and remember what came of it. -/
def injectOnce (key : Key) (d : Deferral) : Run Instance := do
  .remember (·.setReadiness key .running)
  .emit (.preparing key)
  match ← (l.carryOut self d).attempt with
  | .ok i =>
    .remember (·.setReadiness key (.ready i))
    return i
  | .error e =>
    .remember (·.setReadiness key .failed)
    .fail e

/-- The injected object of a deferred binding. -/
def useDeferred (key : Key) (d : Deferral) : Run Instance := do
  match ← .read (·.memory.readiness key) with
  | .ready i => return i
  | .running => .stuck
  | .failed => .fail (Container.unavailable key)
  | .waiting => l.injectOnce self key d

/-- The injected object of a deferred binding, with an entry in the journal at the end. -/
def force (key : Key) (d : Deferral) : Run Instance :=
  .noting (.forced key) (l.useDeferred self key d)

/-! ### Bindings and dependencies -/

/-- A new instance of a binding, regardless of scopes. -/
def provision (b : Binding) : Run Instance :=
  match b.source with
  | .given i => .succeed i
  | .provider p => Container.callProvider b.key p
  | .providerType provider cls ty => do l.container.supplyFrom (← self provider) cls ty
  | .constructor cls => l.construct self cls
  | .injected d => l.force self b.key d
  | .injectedProvider d ty => do
    l.container.supplyFrom (← l.force self b.key d) d.subject.cls ty

/-- A new instance of a binding, with entries in the journal before and after. -/
def supply (b : Binding) : Run Instance := do
  .emit (.supplying b.key)
  .noting (.supplied b.key) (l.provision self b)

/-- The instance of a binding in its scope. -/
def resolveBinding (b : Binding) : Run Instance := withinScope b (l.supply self b)

/-- The instance for a dependency: that of its binding, or a new object of its class. -/
def answer (d : Dependency) : Run Instance :=
  match l.container.registry.lookup d.key with
  | some b => l.resolveBinding self b
  | none =>
    match l.container.justInTime d with
    | some cls => l.construct self cls
    | none => .fail (.noConstructor d.key.text d.key.ty.name)

/-- The instance for a dependency, with entries in the journal before and after. -/
def resolveStep (d : Dependency) : Run Instance := do
  .log (.resolving d.key)
  .noting (.resolved d) (l.answer self d)

/-- The instance for a dependency, where dependencies may nest up to a depth. -/
def resolveWithin : Nat → Dependency → Run Instance
  | 0 => fun _ => .stuck
  | depth + 1 => l.resolveStep (resolveWithin depth)

/-- The instance for a dependency. -/
def resolve (d : Dependency) : Run Instance := l.resolveWithin l.container.depthBound d

/-! ### Builds and operations -/

/-- Inject the members of a deferred binding; do nothing about another one. -/
def prepare (b : Binding) : Run Unit :=
  match b.source.deferral with
  | none => return ()
  | some d => .mapError (.memberInjection b.key.text) do
    let _ ← l.force l.resolve b.key d

/-- Inject the static members of a class. -/
def injectStaticTarget (cls : ClassPath) : Run Unit :=
  .mapError (.staticInjection (TypeName.short cls)) (l.injectStatics l.resolve cls)

/-- Inject all static members. -/
def injectStaticTargets : Run Unit := do
  .each l.injectStaticTarget l.container.staticTargets
  if !l.container.staticTargets.isEmpty then
    .log (.staticsInjected l.container.staticTargets.length)

/-- Create a singleton ahead of time. -/
def createAhead (b : Binding) : Run Unit := do
  .log (.creatingAhead b.key)
  .mapError (.eagerSingleton b.key.text) do
    let _ ← l.resolveBinding l.resolve b

/-- What is done to a new container before it is used. -/
def start : Run Unit := do
  .each l.prepare l.container.registry.toList
  l.injectStaticTargets
  .each l.createAhead (l.container.registry.toList.filter l.container.isAhead)
  .log (.built (← .read fun s => l.container.stats s.memory))

/-- What an operation does. -/
def run : Operation → Run Reply
  | .start => do
    l.start
    return .done
  | .resolve d => return .handed (← l.resolve d)
  | .get ty d => do
    let i ← l.resolve d
    return .handed (← .ofExcept (i.cast ty))
  | .inject cls target id => do
    l.injectObject l.resolve cls target id
    return .done
  | .injectStatics cls => do
    l.injectStatics l.resolve cls
    return .done
  | .ask d => return .told (← l.canResolve d)
  | .meanwhile f _ => do
    .change f
    return .done

/-- What operations come to, one after another. -/
def operate (ops : List Operation) : Run (List (Except ConfigurationError Reply)) :=
  Run.collect (fun op => (l.run op).attempt) ops

end Library

/-! ### The container as it is -/

namespace Container

variable (c : Container) (self : Dependency → Run Instance)

/-- The library of a container tells what is available within a depth as the container does. -/
theorem availableWithin_library (depth : Nat) :
    c.library.availableWithin depth = c.availableWithin depth := by
  induction depth with
  | zero =>
    funext path d nb
    rw [Library.availableWithin.eq_def, Container.availableWithin.eq_def]
    rfl
  | succ depth ih =>
    funext path d nb
    rw [Library.availableWithin.eq_def, Container.availableWithin.eq_def]
    simp only [ih]
    rfl

/-- It tells what is available. -/
theorem available_library : c.library.available = c.available := by
  funext d
  exact congrFun (congrFun (c.availableWithin_library _) []) d

/-- It tells what can be resolved. -/
theorem canResolve_library : c.library.canResolve = c.canResolve := by
  funext d
  rw [Library.canResolve, canResolve, available_library]

/-- It resolves arguments as the container does. -/
theorem argumentsFor_library : c.library.argumentsFor self = c.argumentsFor self := by
  funext member ds optional
  rw [Library.argumentsFor, argumentsFor, Library.firstUnavailable, firstUnavailable,
    available_library]
  rfl

/-- It injects the members of a catalog as the container does. -/
theorem injectPoints_library : c.library.injectPoints self = c.injectPoints self := by
  funext cat target id
  have hpoint : c.library.injectPoint self cat target id = c.injectPoint self cat target id := by
    funext m
    rewrite [Library.injectPoint, injectPoint, argumentsFor_library]
    rfl
  rw [Library.injectPoints, injectPoints, hpoint]

/-- It injects members as the container does. -/
theorem injectObject_library : c.library.injectObject self = c.injectObject self := by
  funext cls target id
  rw [Library.injectObject, injectObject, injectPoints_library]
  rfl

/-- It injects static members as the container does. -/
theorem injectStatics_library : c.library.injectStatics self = c.injectStatics self := by
  have hpoint : c.library.injectStaticPoint self = c.injectStaticPoint self := by
    funext cat m
    rewrite [Library.injectStaticPoint, injectStaticPoint, argumentsFor_library]
    rfl
  funext cls
  rw [Library.injectStatics, injectStatics, hpoint]
  rfl

/-- It constructs classes as the container does. -/
theorem construct_library : c.library.construct self = c.construct self := by
  funext cls
  rw [Library.construct, construct, injectPoints_library]
  rfl

/-- It uses deferred bindings as the container does. -/
theorem force_library : c.library.force self = c.force self := by
  have hrounds : ∀ d id n, c.library.injectRounds self d id n = c.injectRounds self d id n := by
    intro d id n
    induction n with
    | zero => rfl
    | succ n ih =>
      rewrite [Library.injectRounds, injectRounds, injectObject_library, ih]
      rfl
  have hcarryOut : c.library.carryOut self = c.carryOut self := by
    funext d
    rw [Library.carryOut, carryOut]
    simp only [hrounds]
  funext key d
  rewrite [Library.force, force, Library.useDeferred, useDeferred, Library.injectOnce, injectOnce,
    hcarryOut]
  rfl

/-- It resolves bindings as the container does. -/
theorem resolveBinding_library : c.library.resolveBinding self = c.resolveBinding self := by
  funext b
  rw [Library.resolveBinding, resolveBinding, Library.supply, supply, Library.provision, provision,
    construct_library, force_library]
  rfl

/-- It resolves dependencies as the container does, within any depth. -/
theorem resolveWithin_library (depth : Nat) :
    c.library.resolveWithin depth = c.resolveWithin depth := by
  induction depth with
  | zero => rfl
  | succ depth ih =>
    funext d
    rw [Library.resolveWithin, resolveWithin, Library.resolveStep, resolveStep, Library.answer,
      answer, ih, resolveBinding_library, construct_library]
    rfl

/-- It resolves dependencies as the container does. -/
theorem resolve_library : c.library.resolve = c.resolve := by
  funext d
  exact congrFun (c.resolveWithin_library c.depthBound) d

/-- It is built as the container is. -/
theorem start_library : c.library.start = c.start := by
  have hprepare : c.library.prepare = c.prepare := by
    funext b
    rewrite [Library.prepare, prepare, resolve_library, force_library]
    rfl
  have htargets : c.library.injectStaticTargets = c.injectStaticTargets := by
    have htarget : c.library.injectStaticTarget = c.injectStaticTarget := by
      funext cls
      rw [Library.injectStaticTarget, injectStaticTarget, resolve_library, injectStatics_library]
    rw [Library.injectStaticTargets, injectStaticTargets, htarget]
    rfl
  have hahead : c.library.createAhead = c.createAhead := by
    funext b
    rw [Library.createAhead, createAhead, resolve_library, resolveBinding_library]
  rw [Library.start, start, injectDeferred, createSingletons, hprepare, htargets, hahead]
  rfl

/-- A container is a library that keeps the catalogs that it built. -/
theorem operate_library (ops : List Operation) : c.library.operate ops = c.operate ops := by
  have hrun : c.library.run = Operation.run c := by
    funext op
    cases op with
    | start => rw [Library.run, Operation.run, start_library]
    | resolve d => rw [Library.run, Operation.run, resolve_library]
    | get ty d =>
      rw [Library.run, Operation.run, resolve_library, getAs, bind_assoc]
    | inject cls target id =>
      rw [Library.run, Operation.run, resolve_library, injectObject_library, injectMembers]
    | injectStatics cls =>
      rw [Library.run, Operation.run, resolve_library, injectStatics_library]
    | ask d => rw [Library.run, Operation.run, canResolve_library]
    | meanwhile f blind => rfl
  rw [Library.operate, operate, hrun]

end Container

/-! ### Libraries that find the same catalogs -/

/-- Two questions about notebooks have the same answers in states that correspond, and the states
correspond again afterwards. -/
def Matches {α : Type} (R : State → State → Prop) (f g : Notebook → α × Notebook) : Prop :=
  ∀ s t, R s t → (f s.notebook).1 = (g t.notebook).1 ∧
    R (s.withNotebook (f s.notebook).2) (t.withNotebook (g t.notebook).2)

section

variable {α : Type} {R : State → State → Prop}

/-- Asking about all elements of a list matches if each question does. -/
theorem Matches.all {f g : α → Notebook → Bool × Notebook} {as : List α}
    (h : ∀ a ∈ as, Matches R (f a) (g a)) : Matches R (Notebook.all f as) (Notebook.all g as) := by
  induction as with
  | nil => exact fun _ _ hR => ⟨rfl, hR⟩
  | cons a as ih =>
    intro s t hR
    have hrest := ih fun b hb => h b (List.mem_cons_of_mem a hb)
    obtain ⟨hanswer, hR'⟩ := h a List.mem_cons_self s t hR
    rw [Notebook.all, Notebook.all]
    rcases hf : f a s.notebook with ⟨b, nb⟩
    rcases hg : g a t.notebook with ⟨b', nb'⟩
    rw [hf, hg] at hanswer hR'
    obtain rfl : b = b' := hanswer
    cases b with
    | false => exact ⟨rfl, hR'⟩
    | true => exact hrest _ _ hR'

/-- So does looking for the first one of which something does not hold. -/
theorem Matches.firstFailing {f g : α → Notebook → Bool × Notebook} {as : List α}
    (h : ∀ a ∈ as, Matches R (f a) (g a)) :
    Matches R (Notebook.firstFailing f as) (Notebook.firstFailing g as) := by
  induction as with
  | nil => exact fun _ _ hR => ⟨rfl, hR⟩
  | cons a as ih =>
    intro s t hR
    have hrest := ih fun b hb => h b (List.mem_cons_of_mem a hb)
    obtain ⟨hanswer, hR'⟩ := h a List.mem_cons_self s t hR
    rw [Notebook.firstFailing, Notebook.firstFailing]
    rcases hf : f a s.notebook with ⟨b, nb⟩
    rcases hg : g a t.notebook with ⟨b', nb'⟩
    rw [hf, hg] at hanswer hR'
    obtain rfl : b = b' := hanswer
    cases b with
    | false => exact ⟨rfl, hR'⟩
    | true => exact hrest _ _ hR'

end

namespace Library

/-- Two libraries bind the same of some dependencies, find the same catalogs from states that
correspond, and go on to no other dependencies when they find out whether one of these is
available. -/
structure Matching (D : Dependency → Prop) (R : State → State → Prop) (l l' : Library) : Prop where
  /-- The same dependencies are bound. -/
  contains : ∀ d, D d → l.container.registry.contains d.key = l'.container.registry.contains d.key
  /-- The same classes may be constructed for them. -/
  jit : ∀ d, D d → l.container.justInTime d = l'.container.justInTime d
  /-- The same catalogs are found. -/
  find : ∀ cls, Matches R (l.find cls) (l'.find cls)
  /-- What a class requires that is to be constructed is one of the dependencies. -/
  closed : ∀ s t, R s t → ∀ d cls cat m, D d → l.container.registry.contains d.key = false →
    l.container.justInTime d = some cls → (l.find cls s.notebook).1 = .ok cat →
    cat.constructor = some m → ∀ e ∈ cat.requirements m, D e

namespace Matching

variable {D : Dependency → Prop} {R : State → State → Prop} {l l' : Library} {d : Dependency}
  (h : Matching D R l l')
include h

/-- One step of the walks along what has to be constructed. -/
theorem availableWithin_step (hd : D d) {n : Nat} (path : List ClassPath)
    (hnext : ∀ k, n = k + 1 → ∀ path e, D e →
      Matches R (l.availableWithin k path e) (l'.availableWithin k path e)) :
    Matches R (l.availableWithin n path d) (l'.availableWithin n path d) := by
  intro s t hst
  rw [Library.availableWithin.eq_def l, Library.availableWithin.eq_def l']
  dsimp only
  rw [← h.contains d hd, ← h.jit d hd]
  by_cases hbound : l.container.registry.contains d.key = true
  · rw [if_pos hbound, if_pos hbound]
    exact ⟨rfl, hst⟩
  rw [if_neg hbound, if_neg hbound]
  cases hjit : l.container.justInTime d with
  | none => exact ⟨rfl, hst⟩
  | some cls =>
    have hclosed := h.closed s t hst d cls
    obtain ⟨hfound, hst'⟩ := h.find cls s t hst
    dsimp only
    rcases hs : l.find cls s.notebook with ⟨r, nb⟩
    rcases ht : l'.find cls t.notebook with ⟨r', nb'⟩
    rw [hs, ht] at hfound hst'
    obtain rfl : r = r' := hfound
    cases r with
    | error e => exact ⟨rfl, hst'⟩
    | ok cat =>
      dsimp only
      cases hm : cat.constructor with
      | none => exact ⟨rfl, hst'⟩
      | some m =>
        dsimp only
        split
        · exact ⟨rfl, hst'⟩
        · cases n with
          | zero => exact ⟨rfl, hst'⟩
          | succ n =>
            refine Matches.all (fun e he => hnext n rfl _ e ?_) _ _ hst'
            exact hclosed cat m hd (Bool.eq_false_iff.mpr hbound) hjit (by rw [hs]) hm e he

/-- Such libraries find out in the same way whether a dependency is available. -/
theorem availableWithin (n : Nat) (path : List ClassPath) (hd : D d) :
    Matches R (l.availableWithin n path d) (l'.availableWithin n path d) := by
  induction n generalizing d path with
  | zero => exact h.availableWithin_step hd path nofun
  | succ n ih =>
    refine h.availableWithin_step hd path fun k hk path e he => ?_
    cases hk
    exact ih path he

end Matching

/-- Two ways for a container to find catalogs, which come to the same from states that
correspond. -/
structure Agree (R : State → State → Prop) (c : Container) (f g : Finder) : Prop where
  /-- What is done to the world keeps the correspondence. -/
  like : Likeness R
  /-- The states remember the same under each key. -/
  shares : ∀ key, Shares R key
  /-- The same catalogs are found. -/
  find : ∀ cls, Matches R (f cls) (g cls)
  /-- The notices that the container is built keep the correspondence. -/
  built : ∀ {s t : State}, R s t → R { s with world := s.world.log (.built (c.stats s.memory)) }
    { t with world := t.world.log (.built (c.stats t.memory)) }

namespace Agree

variable {R : State → State → Prop} {lockstep : Prop} {c : Container} {f g : Finder}
  {self self' : Dependency → Run Instance} (h : Agree R c f g)
include h

/-! ### Availability -/

/-- Two libraries of one container match if they find the same catalogs. -/
theorem matching : Matching (fun _ => True) R ⟨c, f⟩ ⟨c, g⟩ where
  contains _ _ := rfl
  jit _ _ := rfl
  find := h.find
  closed := by intros; trivial

/-- They tell the same about what is available within a depth. -/
theorem availableWithin (depth : Nat) (path : List ClassPath) (d : Dependency) :
    Matches R (Library.availableWithin ⟨c, f⟩ depth path d)
      (Library.availableWithin ⟨c, g⟩ depth path d) := h.matching.availableWithin depth path trivial

/-- They tell the same about what can be resolved. -/
theorem canResolve (d : Dependency) :
    Follows lockstep R (Library.canResolve ⟨c, f⟩ d) (Library.canResolve ⟨c, g⟩ d) :=
  Follows.note (h.availableWithin _ [] d)

/-- They find the same catalogs. -/
theorem catalog (cls : ClassPath) :
    Follows lockstep R (Library.catalog ⟨c, f⟩ cls) (Library.catalog ⟨c, g⟩ cls) :=
  (Follows.note (h.find cls)).bind fun r => Follows.ofExcept r

/-! ### Members -/

variable (hself : ∀ d, Follows lockstep R (self d) (self' d))
include hself

omit h in
/-- They require the same of the resolution of dependencies. -/
theorem collect (member : String) (ds : List Dependency) :
    Follows lockstep R (Run.collect (c.resolveRequired self member) ds)
      (Run.collect (c.resolveRequired self' member) ds) :=
  Follows.collect fun d _ => Likeness.resolveRequired rfl (hself d) member

/-- They resolve arguments alike. -/
theorem argumentsFor (member : String) (ds : List Dependency) (optional : Bool) :
    Follows lockstep R (Library.argumentsFor ⟨c, f⟩ self member ds optional)
      (Library.argumentsFor ⟨c, g⟩ self' member ds optional) := by
  have hrequired : Follows lockstep R
      (do return some (← Run.collect (c.resolveRequired self member) ds))
      (do return some (← Run.collect (c.resolveRequired self' member) ds)) :=
    (collect hself member ds).bind fun values => Follows.succeed (some values)
  unfold Library.argumentsFor
  cases optional with
  | false => exact hrequired
  | true =>
    have hfirst : Matches R (Notebook.firstFailing (Library.available ⟨c, f⟩) ds)
        (Notebook.firstFailing (Library.available ⟨c, g⟩) ds) :=
      .firstFailing fun d _ => h.availableWithin _ [] d
    refine Follows.bind (Follows.note hfirst) fun d => ?_
    cases d with
    | none => exact hrequired
    | some d => exact (h.like.log _).bind fun _ => Follows.succeed none

/-- They inject the members of a catalog alike. -/
theorem injectPoints (cat : Catalog) (target : ClassPath) (id : Nat) :
    Follows lockstep R (Library.injectPoints ⟨c, f⟩ self cat target id)
      (Library.injectPoints ⟨c, g⟩ self' cat target id) := by
  refine Follows.each fun m _ => ?_
  unfold Library.injectPoint
  cases m.role with
  | constructor => exact Follows.succeed ()
  | static form => exact Follows.succeed ()
  | instanceOf form path =>
    refine (h.argumentsFor hself _ _ _).bind fun values => ?_
    cases values with
    | none => exact Follows.succeed ()
    | some values => exact h.like.runMember _ m path target id _

/-- They inject members alike. -/
theorem injectObject (cls target : ClassPath) (id : Nat) :
    Follows lockstep R (Library.injectObject ⟨c, f⟩ self cls target id)
      (Library.injectObject ⟨c, g⟩ self' cls target id) :=
  (h.catalog cls).bind fun cat => h.injectPoints hself cat target id

/-- They inject static members alike. -/
theorem injectStatics (cls : ClassPath) :
    Follows lockstep R (Library.injectStatics ⟨c, f⟩ self cls)
      (Library.injectStatics ⟨c, g⟩ self' cls) := by
  refine (h.catalog cls).bind fun cat => Follows.each fun m _ => ?_
  refine (h.argumentsFor hself _ _ _).bind fun values => ?_
  cases values with
  | none => exact Follows.succeed ()
  | some values =>
    refine (h.like.log _).bind fun _ => ?_
    exact (h.like.attemptCall m _).bind fun call => h.like.emit _

/-- They construct classes alike. -/
theorem construct (cls : ClassPath) :
    Follows lockstep R (Library.construct ⟨c, f⟩ self cls)
      (Library.construct ⟨c, g⟩ self' cls) := by
  refine (h.catalog cls).bind fun cat => ?_
  refine (Likeness.constructorOf rfl rfl).bind ?_
  rintro m _ ⟨rfl, -⟩
  refine (collect hself _ _).bind fun values => ?_
  refine (h.like.log _).bind fun _ => ?_
  refine (h.like.runConstructor cat.cls m _).bind fun id => ?_
  exact (h.injectPoints hself cat cls id).bind fun _ => h.like.act (World.blind_wrap _)

/-! ### Deferred bindings -/

/-- They do alike what a deferral calls for. -/
theorem carryOut (d : Deferral) :
    Follows lockstep R (Library.carryOut ⟨c, f⟩ self d) (Library.carryOut ⟨c, g⟩ self' d) := by
  have hrounds : ∀ id n, Follows lockstep R (Library.injectRounds ⟨c, f⟩ self d id n)
      (Library.injectRounds ⟨c, g⟩ self' d id n) := by
    intro id n
    induction n with
    | zero => exact Follows.succeed ()
    | succ n ih =>
      refine (h.injectObject hself _ _ id).attempt.bind fun r => ?_
      rcases r with e | ⟨⟩
      · dsimp only
        split
        · exact (h.like.emit _).bind fun _ => ih
        · exact (Follows.fail e).bind fun _ => ih
      · exact ih
  refine (h.like.subjectOf d.subject).bind fun id => ?_
  exact (hrounds id _).bind fun _ => h.like.act (World.blind_wrap _)

/-- They use deferred bindings alike. -/
theorem force (key : Key) (d : Deferral) :
    Follows lockstep R (Library.force ⟨c, f⟩ self key d) (Library.force ⟨c, g⟩ self' key d) := by
  have hkey := h.shares key
  refine h.like.noting ?_
  refine (Follows.read fun s t hR => hkey.readiness hR).bind fun r => ?_
  cases r with
  | ready i => exact Follows.succeed i
  | running => exact Follows.stuck
  | failed => exact Follows.fail _
  | waiting =>
    refine (Likeness.setReadiness hkey .running).bind fun _ => (h.like.emit _).bind fun _ => ?_
    refine (h.carryOut hself d).attempt.bind fun r => ?_
    cases r with
    | ok i => exact (Likeness.setReadiness hkey (.ready i)).bind fun _ => Follows.succeed i
    | error e => exact (Likeness.setReadiness hkey .failed).bind fun _ => Follows.fail e

/-! ### Bindings and dependencies -/

/-- They resolve bindings alike. -/
theorem resolveBinding (b : Binding) :
    Follows lockstep R (Library.resolveBinding ⟨c, f⟩ self b)
      (Library.resolveBinding ⟨c, g⟩ self' b) := by
  refine h.like.withinScope (h.shares b.key) ?_
  refine (h.like.emit _).bind fun _ => h.like.noting ?_
  have hsupply := fun cls => (rfl : (c.classes.decl cls).supply = (c.classes.decl cls).supply)
  unfold Library.provision
  cases b.source with
  | given i => exact Follows.succeed i
  | provider p => exact h.like.callProvider (h.shares b.key) p
  | providerType provider cls ty =>
    exact (hself provider).bind fun i => h.like.supplyFrom hsupply i cls ty
  | constructor cls => exact h.construct hself cls
  | injected d => exact h.force hself b.key d
  | injectedProvider d ty =>
    exact (h.force hself b.key d).bind fun i => h.like.supplyFrom hsupply i _ ty

/-- They take the steps of a resolution alike. -/
theorem resolveStep (d : Dependency) :
    Follows lockstep R (Library.resolveStep ⟨c, f⟩ self d)
      (Library.resolveStep ⟨c, g⟩ self' d) := by
  refine (h.like.log _).bind fun _ => h.like.noting ?_
  unfold Library.answer
  dsimp only
  cases c.registry.lookup d.key with
  | some b => exact h.resolveBinding hself b
  | none =>
    dsimp only
    cases c.justInTime d with
    | some cls => exact h.construct hself cls
    | none => exact Follows.fail _

omit hself

/-- They resolve dependencies alike, within any depth. -/
theorem resolveWithin (n : Nat) (d : Dependency) :
    Follows lockstep R (Library.resolveWithin ⟨c, f⟩ n d)
      (Library.resolveWithin ⟨c, g⟩ n d) := by
  induction n generalizing d with
  | zero => exact Follows.stuck
  | succ n ih => exact h.resolveStep ih d

/-- They resolve dependencies alike. -/
theorem resolve (d : Dependency) :
    Follows lockstep R (Library.resolve ⟨c, f⟩ d) (Library.resolve ⟨c, g⟩ d) :=
  h.resolveWithin _ d

/-! ### Builds and operations -/

/-- They are built alike. -/
theorem start : Follows lockstep R (Library.start ⟨c, f⟩) (Library.start ⟨c, g⟩) := by
  refine (Follows.each fun b _ => ?_).bind fun _ => Follows.bind ?_ fun _ =>
    (Follows.each fun b _ => ?_).bind fun _ => ?_
  · unfold Library.prepare
    cases b.source.deferral with
    | none => exact Follows.succeed ()
    | some d =>
      exact Follows.mapError _ ((h.force h.resolve b.key d).bind fun _ => Follows.succeed ())
  · refine (Follows.each fun cls _ => ?_).bind fun _ => ?_
    · exact Follows.mapError _ (h.injectStatics h.resolve cls)
    · dsimp only
      split
      · exact h.like.log _
      · exact Follows.succeed ()
  · refine (h.like.log _).bind fun _ => Follows.mapError _ ?_
    exact (h.resolveBinding h.resolve b).bind fun _ => Follows.succeed ()
  · exact fun _ t hR => ⟨_, rfl, h.built hR⟩

/-- They do all operations alike. -/
theorem run (op : Operation) :
    Follows lockstep R (Library.run ⟨c, f⟩ op) (Library.run ⟨c, g⟩ op) := by
  cases op with
  | start => exact h.start.bind fun _ => Follows.succeed _
  | resolve d => exact (h.resolve d).bind fun _ => Follows.succeed _
  | get ty d =>
    exact (h.resolve d).bind fun i => (Follows.ofExcept _).bind fun _ => Follows.succeed _
  | inject cls target id =>
    exact (h.injectObject h.resolve cls target id).bind fun _ => Follows.succeed _
  | injectStatics cls => exact (h.injectStatics h.resolve cls).bind fun _ => Follows.succeed _
  | ask d => exact (h.canResolve d).bind fun _ => Follows.succeed _
  | meanwhile f blind => exact (h.like.change blind).bind fun _ => Follows.succeed _

/-- Libraries that find the same catalogs do the same by all operations, one after another. -/
theorem follows_operate (ops : List Operation) :
    Follows lockstep R (Library.operate ⟨c, f⟩ ops) (Library.operate ⟨c, g⟩ ops) :=
  Follows.collect fun op _ => (h.run op).attempt

end Agree

end Library

end Wiring
