import Wiring.Container.Access
import Wiring.Proofs.Follows
import Wiring.Proofs.Needs
import Wiring.Proofs.Unfolding

/-!
# Containers That Do the Same

If two containers resolve what is needed along the way to the same instances, from states that
correspond, then what else they do comes to the same as well, function by function. The states may
differ in their journals and catalogs, as long as the correspondence is kept by whatever blind
functions do to the world (`Likeness`), and the containers may differ in their catalogs, as long as
these lead to the same injections.

A first use of this is that the depth up to which dependencies are resolved does not matter once
it is enough: a run that ends within some depth is the same within any greater one.

## Main statements

* `Likeness`: a correspondence of states that is kept by what is done to the world.
* `InStepOn.construct`, `InStepOn.resolveStep`, `BuiltAlike.start`: containers that do the same.
* `Container.Siblings.resolve`: containers with the same bindings resolve dependencies to the same.
* `Container.resolveWithin_mono`: a greater depth makes no difference.
-/

namespace Wiring

/-- A correspondence of states whose worlds differ at most in their journals, so that blind
functions do the same to both sides. -/
structure Likeness (R : State → State → Prop) : Prop where
  /-- A blind function gives the same on both sides and keeps the correspondence. -/
  world : ∀ {α : Type} {f : World → α × World}, World.Blind f → ∀ {s t : State}, R s t →
    (f s.world).1 = (f t.world).1 ∧
      R { s with world := (f s.world).2 } { t with world := (f t.world).2 }

/-- Corresponding states remember the same under a key. -/
structure Shares (R : State → State → Prop) (key : Key) : Prop where
  /-- The slot of the key holds the same. -/
  slot : ∀ {s t : State}, R s t → s.memory.slots.get? key = t.memory.slots.get? key
  /-- The same may be put into the slot on both sides. -/
  setSlot : ∀ {s t : State} (cell : Cell), R s t →
    R { s with memory := s.memory.setSlot key cell } { t with memory := t.memory.setSlot key cell }
  /-- A deferred binding is equally far. -/
  readiness : ∀ {s t : State}, R s t → s.memory.readiness key = t.memory.readiness key
  /-- A deferred binding may advance on both sides. -/
  setReadiness : ∀ {s t : State} (r : Readiness), R s t →
    R { s with memory := s.memory.setReadiness key r }
      { t with memory := t.memory.setReadiness key r }
  /-- A provider was called equally often. -/
  callCount : ∀ {s t : State}, R s t → s.memory.callCount key = t.memory.callCount key
  /-- A call of a provider may be counted on both sides. -/
  countCall : ∀ {s t : State}, R s t →
    R { s with memory := s.memory.countCall key } { t with memory := t.memory.countCall key }

/-- As `Follows`, for runs whose results are not the same but correspond by `Q`. -/
def FollowsUpTo {α β : Type} (Q : α → β → Prop) (lockstep : Prop) (R : State → State → Prop)
    (x : Run α) (y : Run β) : Prop :=
  ∀ s t, R s t →
    match x s with
    | none => lockstep → y t = none
    | some (.error e, s') => ∃ t', y t = some (.error e, t') ∧ R s' t'
    | some (.ok a, s') => ∃ b t', y t = some (.ok b, t') ∧ Q a b ∧ R s' t'

section

variable {α β : Type} {lockstep : Prop} {R : State → State → Prop}

/-- What follows from what is followed up to a relation. -/
theorem FollowsUpTo.bind {γ : Type} {Q : α → β → Prop} {x : Run α} {y : Run β} {f : α → Run γ}
    {g : β → Run γ} (hx : FollowsUpTo Q lockstep R x y)
    (hf : ∀ a b, Q a b → Follows lockstep R (f a) (g b)) :
    Follows lockstep R (x >>= f) (y >>= g) := by
  intro s t hR
  have hxy := hx s t hR
  rw [Run.bind_eq, Run.bind_eq]
  rcases hxs : x s with _ | ⟨e | a, s'⟩
  · rw [hxs] at hxy
    intro hl
    rw [hxy hl]
  · rw [hxs] at hxy
    obtain ⟨t', ht, hR'⟩ := hxy
    exact ⟨t', by rw [ht], hR'⟩
  · rw [hxs] at hxy
    obtain ⟨b, t', ht, hQ, hR'⟩ := hxy
    rw [ht]
    exact hf a b hQ s' t' hR'

/-- Runs that follow each other do so up to equality of their results. -/
theorem Follows.upTo {x y : Run α} (h : Follows lockstep R x y) :
    FollowsUpTo Eq lockstep R x y := by
  intro s t hR
  have hxy := h s t hR
  rcases hxs : x s with _ | ⟨_ | a, s'⟩
  · rw [hxs] at hxy
    exact hxy
  · rw [hxs] at hxy
    exact hxy
  · rw [hxs] at hxy
    obtain ⟨t', ht, hR'⟩ := hxy
    exact ⟨a, t', ht, rfl, hR'⟩

namespace Likeness

variable (h : Likeness R)
include h

/-! ### The world -/

/-- What blind functions do is followed. -/
theorem act {f : World → α × World} (hf : World.Blind f) :
    Follows lockstep R (Run.act f) (Run.act f) := by
  intro s t hR
  obtain ⟨h1, h2⟩ := h.world hf hR
  exact ⟨{ t with world := (f t.world).2 }, by rw [h1]; rfl, h2⟩

/-- Blind changes of the world keep the correspondence. -/
theorem world_change {f : World → World} (hf : World.BlindChange f) {s t : State} (hR : R s t) :
    R { s with world := f s.world } { t with world := f t.world } := by
  have hblind : World.Blind fun w => ((), f w) := fun w j => congrArg (Prod.mk ()) (hf w j)
  exact (h.world hblind hR).2

/-- Blind changes are followed. -/
theorem change {f : World → World} (hf : World.BlindChange f) :
    Follows lockstep R (Run.change f) (Run.change f) :=
  fun _ t hR => ⟨{ t with world := f t.world }, rfl, h.world_change hf hR⟩

theorem emit (e : Event) : Follows lockstep R (.emit e) (.emit e) :=
  h.change (World.blindChange_emit e)

theorem log (n : Notice) : Follows lockstep R (.log n) (.log n) := h.emit (.logged n)

/-- What is read of the world without its journal is the same. -/
theorem readWorld {f : World → α} (hf : ∀ w j, f (w.before j) = f w) :
    Follows lockstep R (.read fun s => f s.world) (.read fun s => f s.world) := by
  refine Follows.read fun s t hR => ?_
  have hblind : World.Blind fun w => (f w, w) := fun w j => Prod.ext (hf w j) rfl
  exact (h.world hblind hR).1

theorem noting {x y : Run α} {f : Except ConfigurationError α → Event}
    (hx : Follows lockstep R x y) : Follows lockstep R (x.noting f) (y.noting f) :=
  hx.noting fun r _ _ hR => h.world_change (World.blindChange_emit (f r)) hR

variable {c c' : Container} {self self' : Dependency → Run Instance}

/-! ### Members -/

/-- Calling a member is followed. -/
theorem attemptCall (m : Member) (arguments : Arguments) :
    Follows lockstep R (Container.attemptCall m arguments)
      (Container.attemptCall m arguments) := by
  unfold Container.attemptCall
  dsimp only
  refine (h.readWorld (f := (·.call m.name (m.action arguments).values)) fun _ _ => rfl).bind
    fun call => ?_
  refine (h.emit _).bind fun _ => ?_
  cases (m.action arguments).error with
  | none => exact Follows.succeed call
  | some e => exact Follows.fail e

/-- Running a member is followed. -/
theorem runMember (cls : ClassPath) (m : Member) (path : List ClassPath) (target : ClassPath)
    (id : Nat) (arguments : Arguments) :
    Follows lockstep R (Container.runMember cls m path target id arguments)
      (Container.runMember cls m path target id arguments) := by
  by_cases hcls : target = cls
  · subst hcls
    rw [Container.runMember_self]
    refine (h.act (World.blind_partAlong id path)).bind fun part => ?_
    refine (h.attemptCall m arguments).bind fun call => ?_
    exact (h.change (World.blindChange_record part call)).bind fun _ => h.emit _
  · rw [Container.runMember_of_ne hcls]
    exact Follows.fail _

omit h in
/-- What a member requires is followed if it can be reached in both containers or in none. -/
theorem resolveRequired {d : Dependency}
    (hreach : (c.registry.contains d.key || (c.justInTime d).isSome) =
      (c'.registry.contains d.key || (c'.justInTime d).isSome))
    (hself : Follows lockstep R (self d) (self' d)) (member : String) :
    Follows lockstep R (c.resolveRequired self member d) (c'.resolveRequired self' member d) := by
  unfold Container.resolveRequired
  rw [hreach]
  split
  · exact hself
  · exact Follows.fail _

omit h in
/-- So are the arguments of a member that is not optional. -/
theorem argumentsFor_required
    (hreach : ∀ d, (c.registry.contains d.key || (c.justInTime d).isSome) =
      (c'.registry.contains d.key || (c'.justInTime d).isSome))
    (hself : ∀ d, Follows lockstep R (self d) (self' d)) (member : String) (ds : List Dependency) :
    Follows lockstep R (c.argumentsFor self member ds false)
      (c'.argumentsFor self' member ds false) := by
  rw [Container.argumentsFor_required, Container.argumentsFor_required]
  refine (Follows.collect fun d _ => ?_).bind fun values => Follows.succeed (some values)
  exact resolveRequired (hreach d) (hself d) member

/-- Members that take the same arguments are injected in the same way. -/
theorem injectPoint {cat cat' : Catalog} (hcls : cat.cls = cat'.cls) {m : Member} {optional : Bool}
    (harguments : Follows lockstep R
      (c.argumentsFor self (cat.memberName m) m.dependencies m.optional)
      (c'.argumentsFor self' (cat.memberName m) m.dependencies optional))
    (target : ClassPath) (id : Nat) :
    Follows lockstep R (c.injectPoint self cat target id m)
      (c'.injectPoint self' cat' target id (m.withOptional optional)) := by
  have hname : cat'.memberName (m.withOptional optional) = cat.memberName m := by
    simp only [Catalog.memberName, Catalog.typeName, hcls, Member.withOptional]
  unfold Container.injectPoint
  rw [hname, ← hcls]
  cases hrole : m.role with
  | constructor =>
    simp only [Member.withOptional, hrole]
    exact Follows.succeed ()
  | static form =>
    simp only [Member.withOptional, hrole]
    exact Follows.succeed ()
  | instanceOf form path =>
    simp only [Member.withOptional, hrole]
    refine harguments.bind fun values => ?_
    cases values with
    | none => exact Follows.succeed ()
    | some values => exact h.runMember cat.cls m path target id _

/-- The same for static members. -/
theorem injectStaticPoint {cat cat' : Catalog} (hcls : cat.cls = cat'.cls) {m : Member}
    {optional : Bool}
    (harguments : Follows lockstep R
      (c.argumentsFor self (cat.memberName m) m.dependencies m.optional)
      (c'.argumentsFor self' (cat.memberName m) m.dependencies optional)) :
    Follows lockstep R (c.injectStaticPoint self cat m)
      (c'.injectStaticPoint self' cat' (m.withOptional optional)) := by
  have hname : cat'.memberName (m.withOptional optional) = cat.memberName m := by
    simp only [Catalog.memberName, Catalog.typeName, hcls, Member.withOptional]
  unfold Container.injectStaticPoint
  rw [hname]
  refine Follows.bind harguments fun values => ?_
  cases values with
  | none => exact Follows.succeed ()
  | some values =>
    refine (h.log _).bind fun _ => ?_
    exact (h.attemptCall m _).bind fun call => h.emit _

/-! ### Objects -/

omit h in
/-- Catalogs with the same constructor lead to the same one. -/
theorem constructorOf {cat cat' : Catalog} (hcls : cat.cls = cat'.cls)
    (hm : cat.constructor = cat'.constructor) :
    FollowsUpTo (fun m m' => m = m' ∧ cat.constructor = some m) lockstep R
      (Container.constructorOf cat) (Container.constructorOf cat') := by
  unfold Container.constructorOf Catalog.typeName
  rw [hm, hcls]
  cases cat'.constructor with
  | none => exact fun _ t hR => ⟨t, rfl, hR⟩
  | some m => exact fun _ t hR => ⟨m, t, rfl, ⟨rfl, rfl⟩, hR⟩

/-- Running a constructor is followed. -/
theorem runConstructor (cls : ClassPath) (m : Member) (arguments : Arguments) :
    Follows lockstep R (Container.runConstructor cls m arguments)
      (Container.runConstructor cls m arguments) := by
  unfold Container.runConstructor
  refine (h.attemptCall m arguments).bind fun call => ?_
  refine (h.act (World.blind_addObject cls [call] ∅)).bind fun id => ?_
  exact (h.emit _).bind fun _ => Follows.succeed id

/-! ### Deferred bindings -/

/-- A failed injection is passed over on both sides, or on none. -/
theorem passOver (d : Deferral) (r : Except ConfigurationError Unit) :
    Follows lockstep R (Container.passOver d r) (Container.passOver d r) := by
  rcases r with e | ⟨⟩
  · unfold Container.passOver
    dsimp only
    split
    · exact h.emit _
    · exact Follows.fail e
  · exact Follows.succeed ()

/-- The subject of a deferral is the same. -/
theorem subjectOf (subject : Subject) :
    Follows lockstep R (Container.subjectOf subject) (Container.subjectOf subject) := by
  cases subject with
  | existing cls id => exact Follows.succeed id
  | new cls => exact h.act (World.blind_makeObject cls)

omit h in
/-- A deferred binding may advance on both sides. -/
theorem setReadiness {key : Key} (hkey : Wiring.Shares R key) (r : Readiness) :
    Follows lockstep R (.remember (·.setReadiness key r)) (.remember (·.setReadiness key r)) :=
  Follows.remember fun _ _ hR => hkey.setReadiness r hR

/-! ### Providers -/

/-- A part of the current request is followed. -/
theorem currentPart (part : RequestPart) :
    Follows lockstep R (Container.currentPart part) (Container.currentPart part) := by
  unfold Container.currentPart
  refine (h.readWorld (f := (·.currentExchange?)) fun _ _ => rfl).bind fun e => ?_
  cases e with
  | none => exact Follows.fail _
  | some e =>
    cases part with
    | request => exact Follows.succeed _
    | response => exact Follows.succeed _
    | session =>
      exact (h.act (World.blind_sessionOf e.request)).bind fun id => Follows.succeed _
    | parameters =>
      exact (h.readWorld (f := (·.request e.request)) fun _ _ => rfl).bind fun r =>
        Follows.succeed _

/-- A provider that was called equally often comes to the same. -/
theorem callProvider {key : Key} (hkey : Wiring.Shares R key) (p : Provider) :
    Follows lockstep R (Container.callProvider key p) (Container.callProvider key p) := by
  cases p with
  | current part => exact (h.currentPart part).bind fun v => h.act (World.blind_wrap v)
  | calls ty label outcome =>
    refine (Follows.read fun s t hR => hkey.callCount hR).bind fun n => ?_
    refine (Follows.remember fun s t hR => hkey.countCall hR).bind fun _ => ?_
    refine (h.emit _).bind fun _ => ?_
    exact (Follows.ofExcept (outcome n)).bind fun made => h.act (World.blind_makeInstance ty made)

/-- An object comes to the same if both containers let it supply the same. -/
theorem callObject {cls : ClassPath}
    (hsupply : (c.classes.decl cls).supply = (c'.classes.decl cls).supply) (id : Nat) (ty : Ty) :
    Follows lockstep R (c.callObject cls id ty) (c'.callObject cls id ty) := by
  unfold Container.callObject
  rw [hsupply]
  cases (c'.classes.decl cls).supply with
  | calls outcome =>
    refine (h.act (World.blind_countSupply id)).bind fun n => ?_
    refine (h.emit _).bind fun _ => ?_
    refine (Follows.ofExcept (outcome cls id n)).bind fun made => ?_
    exact h.act (World.blind_makeInstance ty made)
  | copyOf part =>
    refine (h.act (World.blind_partOf id part)).bind fun owned => ?_
    refine (h.readWorld
      (f := fun w => ((w.object? owned).map Object.history).getD []) fun _ _ => rfl).bind
      fun history => ?_
    refine (h.act (World.blind_addObject part history ∅)).bind fun copy => ?_
    exact h.act (World.blind_wrap _)

/-- So does an instance that is called as a provider. -/
theorem supplyFrom
    (hsupply : ∀ cls, (c.classes.decl cls).supply = (c'.classes.decl cls).supply) (i : Instance)
    (cls : ClassPath) (ty : Ty) :
    Follows lockstep R (c.supplyFrom i cls ty) (c'.supplyFrom i cls ty) := by
  unfold Container.supplyFrom
  refine (Follows.ofExcept (i.cast (.component cls))).bind fun i => ?_
  split
  · exact h.callObject (hsupply _) _ ty
  · exact Follows.stuck

/-! ### Scopes -/

omit h in
/-- The slot of a shared key may be filled on both sides. -/
theorem setSlot {key : Key} (hkey : Wiring.Shares R key) (cell : Cell) :
    Follows lockstep R (.remember (·.setSlot key cell)) (.remember (·.setSlot key cell)) :=
  Follows.remember fun _ _ hR => hkey.setSlot cell hR

/-- The slot of a singleton comes to the same if its creation does. -/
theorem inSlot {key : Key} (hkey : Wiring.Shares R key) {create create' : Run Instance}
    (hcreate : Follows lockstep R create create') :
    Follows lockstep R (Wiring.inSlot key create) (Wiring.inSlot key create') := by
  unfold Wiring.inSlot
  refine (Follows.read fun s t hR => hkey.slot hR).bind fun r => ?_
  rcases r with _ | ⟨_ | _ | i⟩
  · exact hcreate
  · refine (setSlot hkey .busy).bind fun _ => (h.log _).bind fun _ => ?_
    refine hcreate.attempt.bind fun r => ?_
    cases r with
    | ok i => exact (setSlot hkey (.full i)).bind fun _ => Follows.succeed i
    | error e => exact (setSlot hkey .empty).bind fun _ => Follows.fail e
  · exact Follows.stuck
  · exact Follows.succeed i

/-- So does what a request or a session keeps. -/
theorem keptBy (keeper : World.Keeper) (key : Key) (notice : Notice)
    {create create' : Run Instance} (hcreate : Follows lockstep R create create') :
    Follows lockstep R (Wiring.keptBy keeper key notice create)
      (Wiring.keptBy keeper key notice create') := by
  unfold Wiring.keptBy
  have hread : ∀ w j, ((World.before w j).attributes keeper).get? key =
      (w.attributes keeper).get? key := by cases keeper <;> exact fun _ _ => rfl
  refine (h.readWorld (f := fun w => (w.attributes keeper).get? key) hread).bind fun r => ?_
  cases r with
  | some i => exact Follows.succeed i
  | none =>
    refine hcreate.bind fun i => (h.log notice).bind fun _ => ?_
    exact h.act (World.blind_attributeOrInsert keeper key i)

/-- So does the rule of a context. -/
theorem byRule (name : String) (key : Key) {create create' : Run Instance}
    (hcreate : Follows lockstep R create create') (rule : AccessRule) :
    Follows lockstep R (Wiring.byRule name key create rule)
      (Wiring.byRule name key create' rule) := by
  unfold Wiring.byRule
  cases rule with
  | pass => exact hcreate
  | twice => exact hcreate.bind fun _ => hcreate
  | replace m => exact h.act (World.blind_makeInstance m.ty m.label)
  | fallback m =>
    refine hcreate.attempt.bind fun r => ?_
    cases r with
    | ok i => exact Follows.succeed i
    | error e => exact h.act (World.blind_makeInstance m.ty m.label)
  | keep =>
    refine (h.readWorld (f := fun w => (w.context name).kept.get? key) fun _ _ => rfl).bind
      fun r => ?_
    cases r with
    | some i => exact Follows.succeed i
    | none =>
      refine hcreate.bind fun i => ?_
      exact (h.change (World.blindChange_keepInContext name key i)).bind fun _ =>
        Follows.succeed i

/-- So does the accessor of a scope. -/
theorem accessed (key : Key) {create create' : Run Instance}
    (hcreate : Follows lockstep R create create') (accessor : Accessor) :
    Follows lockstep R (Wiring.accessed key create accessor)
      (Wiring.accessed key create' accessor) := by
  unfold Wiring.accessed
  cases accessor with
  | request =>
    refine (h.readWorld (f := (·.currentExchange?)) fun _ _ => rfl).bind fun e => ?_
    cases e with
    | none => exact Follows.fail _
    | some e => exact h.keptBy _ key _ hcreate
  | session =>
    refine (h.readWorld (f := (·.currentExchange?)) fun _ _ => rfl).bind fun e => ?_
    cases e with
    | none => exact Follows.fail _
    | some e =>
      refine (h.act (World.blind_sessionOf e.request)).bind fun session => ?_
      exact h.keptBy _ key _ hcreate
  | named name rule =>
    refine (h.emit _).bind fun _ => ?_
    refine (h.readWorld (f := fun w => (w.context name).isOpen) fun _ _ => rfl).bind
      fun isOpen => ?_
    cases isOpen with
    | true => exact h.byRule name key hcreate rule
    | false => exact Follows.fail _

/-- So does the scope of a binding. -/
theorem withinScope {b : Binding} (hkey : Wiring.Shares R b.key) {create create' : Run Instance}
    (hcreate : Follows lockstep R create create') :
    Follows lockstep R (Wiring.withinScope b create) (Wiring.withinScope b create') := by
  unfold Wiring.withinScope
  cases b.scope with
  | unscoped => exact hcreate
  | singleton => exact h.inSlot hkey hcreate
  | contextual accessor => exact h.accessed b.key hcreate accessor

end Likeness

/-- What two containers are compared on: the dependencies that they are asked for, and the keys
under which they remember something. -/
structure Area where
  /-- The dependencies. -/
  asks : Dependency → Prop
  /-- The keys. -/
  keys : Key → Prop

/-- The area of all dependencies and keys. -/
def Area.everything : Area := ⟨fun _ => True, fun _ => True⟩

/-- Catalogs of the class `subject` of two containers that lead to the same injections, as far as
the dependencies of the class belong to an area. -/
structure SameInjections (A : Area) (lockstep : Prop) (R : State → State → Prop) (c c' : Container)
    (way way' : Dependency → Run Instance) (subject : ClassPath) (cat cat' : Catalog) : Prop where
  /-- The catalogs are of the same class. -/
  cls : cat.cls = cat'.cls
  /-- They have the same constructor. -/
  constructor : cat.constructor = cat'.constructor
  /-- The constructor stays within the area. -/
  needs : (∀ e, c.ConstructionNeeds subject e → A.asks e) →
    ∀ m, cat.constructor = some m → ∀ d ∈ m.dependencies, A.asks d
  /-- The members of an object are injected in the same way. -/
  points : (∀ e, c.InjectionNeeds subject e → A.asks e) → ∀ target id,
    Follows lockstep R (c.injectPoints way cat target id) (c'.injectPoints way' cat' target id)
  /-- Static members are injected in the same way. -/
  statics : (∀ e, c.StaticNeeds subject e → A.asks e) →
    Follows lockstep R (.each (c.injectStaticPoint way cat) cat.staticPoints)
      (.each (c'.injectStaticPoint way' cat') cat'.staticPoints)

/-- Two containers that do the same in an area along the way, from states that correspond. -/
structure InStepOn (A : Area) (lockstep : Prop) (R : State → State → Prop) (c c' : Container)
    (way way' : Dependency → Run Instance) : Prop where
  /-- What is done to the world keeps the correspondence. -/
  like : Likeness R
  /-- The states remember the same under each key. -/
  shares : ∀ key, A.keys key → Shares R key
  /-- What is needed along the way is resolved to the same. -/
  along : ∀ d, A.asks d → Follows lockstep R (way d) (way' d)
  /-- The same keys can be resolved at all. -/
  reach : ∀ d, A.asks d → (c.registry.contains d.key || (c.justInTime d).isSome) =
    (c'.registry.contains d.key || (c'.justInTime d).isSome)
  /-- Objects supply the same. -/
  supply : ∀ cls, (c.classes.decl cls).supply = (c'.classes.decl cls).supply
  /-- Catalogs lead to the same injections. -/
  catalog : ∀ cls, FollowsUpTo (SameInjections A lockstep R c c' way way' cls) lockstep R
    (c.catalog cls) (c'.catalog cls)

/-- Two containers that do the same along the way, whatever they are asked for. -/
abbrev InStep (lockstep : Prop) (R : State → State → Prop) (c c' : Container)
    (way way' : Dependency → Run Instance) : Prop :=
  InStepOn .everything lockstep R c c' way way'

namespace InStepOn

variable {A : Area} {c c' : Container} {self self' : Dependency → Run Instance}
  (h : InStepOn A lockstep R c c' self self')
include h

/-- Members are injected alike if what they need is resolved alike. -/
theorem injectObject {cls : ClassPath} (hcls : ∀ e, c.InjectionNeeds cls e → A.asks e)
    (target : ClassPath) (id : Nat) :
    Follows lockstep R (c.injectObject self cls target id) (c'.injectObject self' cls target id) :=
  (h.catalog cls).bind fun _ _ hcat => hcat.points hcls target id

/-- So are static members. -/
theorem injectStatics {cls : ClassPath} (hcls : ∀ e, c.StaticNeeds cls e → A.asks e) :
    Follows lockstep R (c.injectStatics self cls) (c'.injectStatics self' cls) :=
  (h.catalog cls).bind fun _ _ hcat => hcat.statics hcls

/-- Classes are constructed alike. -/
theorem construct {cls : ClassPath} (hcls : ∀ e, c.ConstructionNeeds cls e → A.asks e) :
    Follows lockstep R (c.construct self cls) (c'.construct self' cls) := by
  unfold Container.construct
  refine (h.catalog cls).bind fun cat cat' hcat => ?_
  refine (Likeness.constructorOf hcat.cls hcat.constructor).bind ?_
  rintro m _ ⟨rfl, hm⟩
  have hname : cat'.memberName m = cat.memberName m := by
    simp only [Catalog.memberName, Catalog.typeName, hcat.cls]
  rw [hname, ← hcat.cls]
  refine (Follows.collect fun d hd => ?_).bind fun values => ?_
  · have hasks := hcat.needs hcls m hm d hd
    exact Likeness.resolveRequired (h.reach d hasks) (h.along d hasks) _
  refine (h.like.log _).bind fun _ => ?_
  refine (h.like.runConstructor cat.cls m _).bind fun id => ?_
  refine (hcat.points (fun e he => hcls e (.inl he)) cls id).bind fun _ => ?_
  exact h.like.act (World.blind_wrap _)

/-! ### Deferred bindings -/

/-- Injections are repeated alike. -/
theorem injectRounds {d : Deferral} (hd : ∀ e, c.InjectionNeeds d.subject.cls e → A.asks e)
    (id n : Nat) :
    Follows lockstep R (c.injectRounds self d id n) (c'.injectRounds self' d id n) := by
  induction n with
  | zero => exact Follows.succeed ()
  | succ n ih =>
    rw [Container.injectRounds_succ, Container.injectRounds_succ]
    refine (h.injectObject hd _ id).attempt.bind fun r => ?_
    exact (h.like.passOver d r).bind fun _ => ih

/-- What a deferral calls for is done alike. -/
theorem carryOut {d : Deferral} (hd : ∀ e, c.InjectionNeeds d.subject.cls e → A.asks e) :
    Follows lockstep R (c.carryOut self d) (c'.carryOut self' d) := by
  refine (h.like.subjectOf d.subject).bind fun id => ?_
  exact (h.injectRounds hd id _).bind fun _ => h.like.act (World.blind_wrap _)

/-- A deferred binding is injected alike. -/
theorem injectOnce {key : Key} (hkey : A.keys key) {d : Deferral}
    (hd : ∀ e, c.InjectionNeeds d.subject.cls e → A.asks e) :
    Follows lockstep R (c.injectOnce self key d) (c'.injectOnce self' key d) := by
  have hshares := h.shares key hkey
  unfold Container.injectOnce
  refine (Likeness.setReadiness hshares .running).bind fun _ => (h.like.emit _).bind fun _ => ?_
  refine (h.carryOut hd).attempt.bind fun r => ?_
  cases r with
  | ok i => exact (Likeness.setReadiness hshares (.ready i)).bind fun _ => Follows.succeed i
  | error e => exact (Likeness.setReadiness hshares .failed).bind fun _ => Follows.fail e

/-- A deferred binding is used alike. -/
theorem force {key : Key} (hkey : A.keys key) {d : Deferral}
    (hd : ∀ e, c.InjectionNeeds d.subject.cls e → A.asks e) :
    Follows lockstep R (c.force self key d) (c'.force self' key d) := by
  refine h.like.noting ?_
  unfold Container.useDeferred
  refine (Follows.read fun s t hR => (h.shares key hkey).readiness hR).bind fun r => ?_
  cases r with
  | ready i => exact Follows.succeed i
  | running => exact Follows.stuck
  | failed => exact Follows.fail _
  | waiting => exact h.injectOnce hkey hd

/-! ### Bindings -/

/-- A source gives the same in both containers. -/
theorem provision {b : Binding} (hkey : A.keys b.key)
    (hneeds : ∀ e, c.SourceNeeds b.source e → A.asks e) :
    Follows lockstep R (c.provision self b) (c'.provision self' b) := by
  unfold Container.provision
  cases hsource : b.source with
  | given i => exact Follows.succeed i
  | provider p => exact h.like.callProvider (h.shares _ hkey) p
  | providerType provider cls ty =>
    rw [hsource] at hneeds
    exact (h.along provider (hneeds provider rfl)).bind fun i => h.like.supplyFrom h.supply i cls ty
  | constructor cls =>
    rw [hsource] at hneeds
    exact h.construct hneeds
  | injected d =>
    rw [hsource] at hneeds
    exact h.force hkey hneeds
  | injectedProvider d ty =>
    rw [hsource] at hneeds
    exact (h.force hkey hneeds).bind fun i => h.like.supplyFrom h.supply i _ ty

/-- A binding supplies the same in both containers. -/
theorem provide {b : Binding} (hkey : A.keys b.key)
    (hneeds : ∀ e, c.SourceNeeds b.source e → A.asks e) :
    Follows lockstep R (c.supply self b) (c'.supply self' b) :=
  (h.like.emit _).bind fun _ => h.like.noting (h.provision hkey hneeds)

/-- A binding is resolved to the same in both containers. -/
theorem resolveBinding {b : Binding} (hkey : A.keys b.key)
    (hneeds : ∀ e, c.SourceNeeds b.source e → A.asks e) :
    Follows lockstep R (c.resolveBinding self b) (c'.resolveBinding self' b) :=
  h.like.withinScope (h.shares _ hkey) (h.provide hkey hneeds)

/-! ### Dependencies and builds -/

/-- Containers give the same answer that have the same binding for a key, or else allow the same
class. -/
theorem resolveStep {d : Dependency} (hbinding : c.registry.lookup d.key = c'.registry.lookup d.key)
    (hjit : c.justInTime d = c'.justInTime d)
    (hkey : (c.registry.lookup d.key).isSome → A.keys d.key)
    (hneeds : ∀ e, c.Leads d e → A.asks e) :
    Follows lockstep R (c.resolveStep self d) (c'.resolveStep self' d) := by
  refine (h.like.log _).bind fun _ => h.like.noting ?_
  unfold Container.answer
  rw [← hbinding, ← hjit]
  cases hb : c.registry.lookup d.key with
  | some b =>
    rw [hb] at hkey
    have hkey : A.keys b.key := by
      rw [Registry.key_of_lookup hb]
      exact hkey rfl
    exact h.resolveBinding hkey fun e he => hneeds e (Container.leads_of_needs hb he)
  | none =>
    cases hcls : c.justInTime d with
    | some cls => exact h.construct fun e he => hneeds e (Container.leads_of_class hb hcls he)
    | none => exact Follows.fail _

end InStepOn

namespace InStep

variable {c c' : Container} {self self' : Dependency → Run Instance}
  (h : InStep lockstep R c c' self self')
include h

/-- Members are injected in the same way. -/
theorem injectObject (cls target : ClassPath) (id : Nat) :
    Follows lockstep R (c.injectObject self cls target id) (c'.injectObject self' cls target id) :=
  InStepOn.injectObject h (fun _ _ => trivial) target id

/-- Containers with the same bindings that allow the same classes give the same answers. -/
theorem resolveStep (hregistry : c.registry = c'.registry)
    (hjit : ∀ d, c.justInTime d = c'.justInTime d) (d : Dependency) :
    Follows lockstep R (c.resolveStep self d) (c'.resolveStep self' d) :=
  InStepOn.resolveStep h (by rw [hregistry]) (hjit d) (fun _ => trivial) fun _ _ => trivial

end InStep

/-! ### Builds -/

/-- Containers that are built by the same steps. -/
structure BuiltAlike (lockstep : Prop) (R : State → State → Prop) (c c' : Container) : Prop where
  /-- The containers do the same when they resolve dependencies. -/
  steps : InStep lockstep R c c' c.resolve c'.resolve
  /-- They have the same bindings. -/
  registry : c.registry = c'.registry
  /-- They have the same configuration. -/
  config : c.config = c'.config
  /-- They inject the same classes statically. -/
  targets : c.staticTargets = c'.staticTargets
  /-- The notices that the containers are built keep the correspondence. -/
  built : ∀ {s t : State}, R s t → R { s with world := s.world.log (.built (c.stats s.memory)) }
    { t with world := t.world.log (.built (c'.stats t.memory)) }

namespace BuiltAlike

variable {c c' : Container} (h : BuiltAlike lockstep R c c')
include h

/-- The first stage of a build comes to the same. -/
theorem injectDeferred : Follows lockstep R c.injectDeferred c'.injectDeferred := by
  unfold Container.injectDeferred
  rw [← h.registry]
  refine Follows.each fun b _ => ?_
  unfold Container.prepare
  cases b.source.deferral with
  | none => exact Follows.succeed ()
  | some d =>
    exact Follows.mapError _ ((h.steps.force trivial fun _ _ => trivial).bind fun _ =>
      Follows.succeed ())

/-- So does the second one. -/
theorem injectStaticTargets :
    Follows lockstep R c.injectStaticTargets c'.injectStaticTargets := by
  unfold Container.injectStaticTargets
  rw [← h.targets]
  refine (Follows.each fun cls _ => ?_).bind fun _ => ?_
  · exact Follows.mapError _ (h.steps.injectStatics fun _ _ => trivial)
  · split
    · exact h.steps.like.log _
    · exact Follows.succeed ()

/-- So does the third one. -/
theorem createSingletons : Follows lockstep R c.createSingletons c'.createSingletons := by
  have hahead : c.isAhead = c'.isAhead := by
    funext b
    simp only [Container.isAhead, h.config]
  unfold Container.createSingletons
  rw [← h.registry, ← hahead]
  refine Follows.each fun b _ => (h.steps.like.log _).bind fun _ => ?_
  exact Follows.mapError _ ((h.steps.resolveBinding trivial fun _ _ => trivial).bind fun _ =>
    Follows.succeed ())

/-- So does the whole build. -/
theorem start : Follows lockstep R c.start c'.start := by
  refine h.injectDeferred.bind fun _ => h.injectStaticTargets.bind fun _ => ?_
  refine h.createSingletons.bind fun _ => ?_
  exact fun _ t hR => ⟨_, rfl, h.built hR⟩

end BuiltAlike

end

/-! ### Containers with the same bindings, and greater depths -/

section

variable {lockstep : Prop}

theorem Follows.refl {α : Type} (x : Run α) : Follows lockstep Eq x x := by
  rintro s _ rfl
  cases hx : x s with
  | none => exact fun _ => rfl
  | some p => exact ⟨p.2, rfl, rfl⟩

/-- Runs that go in lockstep from equal states are the same. -/
theorem Follows.eq {α : Type} {x y : Run α} (h : Follows True Eq x y) : x = y := by
  funext s
  cases hx : x s with
  | none => exact (h.eq_none rfl hx).symm
  | some p =>
    obtain ⟨_, hy, rfl⟩ := h.eq_some rfl hx
    exact hy.symm

/-- Equal states correspond. -/
theorem likeness_eq : Likeness Eq where
  world := by
    rintro α f _ s _ rfl
    exact ⟨rfl, rfl⟩

/-- Equal states remember the same. -/
theorem shares_eq (key : Key) : Shares Eq key where
  slot := by rintro s _ rfl; rfl
  setSlot := by rintro s _ cell rfl; rfl
  readiness := by rintro s _ rfl; rfl
  setReadiness := by rintro s _ r rfl; rfl
  callCount := by rintro s _ rfl; rfl
  countCall := by rintro s _ rfl; rfl

namespace Container

/-- Containers with the same bindings and classes, which allow the same classes to be constructed
just in time. They may differ in the order of the bindings, and in what else is to be done when they
are built. -/
structure Siblings (c c' : Container) : Prop where
  /-- They have the same bindings. -/
  bound : ∀ key, c.registry.lookup key = c'.registry.lookup key
  /-- They have as many of them. -/
  size : c.registry.size = c'.registry.size
  /-- They have the same classes. -/
  classes : c.classes = c'.classes
  /-- Both construct classes just in time, or none does. -/
  jit : c.config.jitBindings = c'.config.jitBindings

/-- Siblings with their bindings in the same order. -/
structure Twins (c c' : Container) : Prop where
  /-- They have the same bindings. -/
  registry : c.registry = c'.registry
  /-- They have the same classes. -/
  classes : c.classes = c'.classes
  /-- Both construct classes just in time, or none does. -/
  jit : c.config.jitBindings = c'.config.jitBindings

theorem Twins.refl (c : Container) : Twins c c := ⟨rfl, rfl, rfl⟩

variable {c c' : Container} {self self' : Dependency → Run Instance}

/-- Twins are siblings. -/
theorem Twins.siblings (h : Twins c c') : Siblings c c' :=
  ⟨fun key => by rw [h.registry], by rw [h.registry], h.classes, h.jit⟩

namespace Siblings

variable (h : Siblings c c')
include h

/-- Siblings contain the same keys. -/
theorem contains (key : Key) : c.registry.contains key = c'.registry.contains key := by
  rw [Registry.contains_eq_isSome_lookup, Registry.contains_eq_isSome_lookup, h.bound]

/-- Siblings construct the same classes just in time. -/
theorem justInTime (d : Dependency) : c.justInTime d = c'.justInTime d := by
  unfold Container.justInTime
  rw [h.jit]

/-- What is available within a depth is so in siblings. -/
theorem availableWithin (depth : Nat) : c.availableWithin depth = c'.availableWithin depth := by
  induction depth with
  | zero =>
    funext path d nb
    rw [Container.availableWithin.eq_def, Container.availableWithin.eq_def]
    simp only [h.contains, h.classes, h.justInTime]
  | succ n ih =>
    funext path d nb
    rw [Container.availableWithin.eq_def, Container.availableWithin.eq_def]
    simp only [h.contains, h.classes, h.justInTime, ih]

/-- What is available is so in siblings. -/
theorem available : c.available = c'.available := by
  funext d
  rw [Container.available, Container.available, h.availableWithin, h.classes]

/-- The same dependency is the first that is not available. -/
theorem firstUnavailable (ds : List Dependency) :
    c.firstUnavailable ds = c'.firstUnavailable ds := by
  rw [Container.firstUnavailable, Container.firstUnavailable, h.available]

/-- Arguments are resolved alike in siblings. -/
theorem argumentsFor (hself : ∀ d, Follows lockstep Eq (self d) (self' d))
    (member : String) (ds : List Dependency) (optional : Bool) :
    Follows lockstep Eq (c.argumentsFor self member ds optional)
      (c'.argumentsFor self' member ds optional) := by
  have hrequired : Follows lockstep Eq (c.argumentsFor self member ds false)
      (c'.argumentsFor self' member ds false) :=
    Likeness.argumentsFor_required (fun d => by rw [h.contains, h.justInTime]) hself member ds
  cases optional with
  | false => exact hrequired
  | true =>
    rw [argumentsFor_optional, argumentsFor_optional, h.firstUnavailable]
    refine (Follows.refl _).bind fun d => ?_
    cases d with
    | none => exact hrequired
    | some d => exact Follows.refl _

/-- Siblings do the same if they resolve what is needed along the way to the same. -/
theorem inStep (hself : ∀ d, Follows lockstep Eq (self d) (self' d)) :
    InStep lockstep Eq c c' self self' where
  like := likeness_eq
  shares key _ := shares_eq key
  along d _ := hself d
  reach d _ := by rw [h.contains, h.justInTime]
  supply cls := by rw [h.classes]
  catalog cls := by
    have hsame : c.catalog cls = c'.catalog cls := by
      unfold Container.catalog
      rw [h.classes]
    intro s t hst
    have hcat : Follows lockstep Eq (c.catalog cls) (c'.catalog cls) := by
      rw [hsame]
      exact Follows.refl _
    have hend := hcat.upTo s t hst
    rcases hs : c.catalog cls s with _ | ⟨e | cat, s'⟩
    · rwa [hs] at hend
    · rwa [hs] at hend
    · rw [hs] at hend
      obtain ⟨_, t', ht, rfl, hst'⟩ := hend
      refine ⟨cat, t', ht, ?_, hst'⟩
      refine ⟨rfl, rfl, fun _ _ _ _ _ => trivial, fun _ target id => ?_, fun _ => ?_⟩
      · exact Follows.each fun m _ => likeness_eq.injectPoint rfl
          (h.argumentsFor hself _ _ _) target id
      · exact Follows.each fun m _ => likeness_eq.injectStaticPoint rfl
          (h.argumentsFor hself _ _ _)

/-- Siblings resolve each dependency to the same. -/
theorem resolveWithin (n : Nat) (d : Dependency) :
    Follows True Eq (c.resolveWithin n d) (c'.resolveWithin n d) := by
  induction n generalizing d with
  | zero => exact Follows.stuck
  | succ n ih =>
    exact InStepOn.resolveStep (h.inStep ih) (h.bound d.key) (h.justInTime d) (fun _ => trivial)
      fun _ _ => trivial

/-- Siblings look equally deep. -/
theorem depthBound : c.depthBound = c'.depthBound := by
  simp only [Container.depthBound, h.size, h.classes]

/-- Siblings resolve dependencies to the same. -/
theorem resolve (d : Dependency) : Follows True Eq (c.resolve d) (c'.resolve d) := by
  unfold Container.resolve
  rw [← h.depthBound]
  exact h.resolveWithin c.depthBound d

end Siblings

variable (c)

/-- A container does the same if it resolves what is needed along the way to the same. -/
theorem inStep (hself : ∀ d, Follows lockstep Eq (self d) (self' d)) :
    InStep lockstep Eq c c self self' :=
  (Twins.refl c).siblings.inStep hself

/-- A run that ends within some depth is the same within any greater one. -/
theorem resolveWithin_follows {n m : Nat} (hnm : n ≤ m) (d : Dependency) :
    Follows False Eq (c.resolveWithin n d) (c.resolveWithin m d) := by
  induction n generalizing m d with
  | zero => exact fun _ _ _ h => h.elim
  | succ n ih =>
    obtain ⟨m, rfl⟩ : ∃ k, m = k + 1 := ⟨m - 1, by omega⟩
    have hself := fun d => ih (m := m) (by omega) d
    exact (c.inStep hself).resolveStep rfl (fun _ => rfl) d

/-- A resolution that ends within a depth comes to the same within a greater one. -/
theorem resolveWithin_mono {n m : Nat} (hnm : n ≤ m) {d : Dependency} {s s' : State}
    {r : Except ConfigurationError Instance} (h : c.resolveWithin n d s = some (r, s')) :
    c.resolveWithin m d s = some (r, s') := by
  obtain ⟨_, ht, rfl⟩ := (c.resolveWithin_follows hnm d).eq_some rfl h
  exact ht

end Container

end

end Wiring
