import Wiring.Proofs.Deeds

/-!
# What the Functions of a Container Keep To

If a discipline admits the effects of a container, then what the container does keeps to it,
function by function, for the deeds of a container are effects. Such a discipline does not care
which things are touched and which classes are constructed: everything may be touched, and every
class may be constructed.

Everything is stated for a way `self` to resolve what is needed along the way that keeps to the
discipline itself, and a discipline may have its own view of slots, deferred bindings and marks.

## Main statements

* `Discipline.Admits.deeds`: a discipline that admits effects admits deeds.
* `Conduct.construct`, `Conduct.injectObject`, `Conduct.injectStatics`: the use of catalogs.
* `Conduct.provision`: the supply of instances.
* `Conduct.withinScope`: the scopes, given the way to create an instance.
* `Conduct.start`: the building of a container.
* `Discipline.AdmitsAll`: disciplines without a view of their own.
-/

namespace Wiring

namespace Discipline

variable {D : Discipline} {c : Container} {self : Dependency → Run Instance}

/-- Deeds are effects. -/
theorem Admits.deeds (h : D.Admits c) : D.AdmitsDeeds c fun _ _ => True where
  deed hs hdeed := h.effect hs hdeed.effect
  fresh := h.fresh
  mentioned := h.mentioned
  known _ := trivial
  part _ _ _ _ := trivial
  lasting _ _ _ _ _ := trivial

/-- Every class may be constructed. -/
theorem Admits.constructs (h : D.Admits c) (cls : ClassPath) : D.Constructs c cls where
  begins _ he := h.emit (Event.isMark_of_constructs he)
  ends := (h.looks.catalog cls).weaken (fun _ h => h) fun _ _ _ _ he =>
    h.emit (Event.isMark_of_constructs he)

namespace Conduct

/-! ### Arguments and members -/

/-- Arguments are resolved by effects. -/
theorem argumentsFor (h : D.Admits c) (hself : ∀ d, D.Gives (self d)) (member : String)
    (ds : List Dependency) (optional : Bool) :
    D.Allows (c.argumentsFor self member ds optional) :=
  Deeds.argumentsFor h.deeds hself member ds optional

/-- Members are called by effects. -/
theorem attemptCall (h : D.Admits c) (m : Member) (arguments : Arguments) :
    D.Allows (Container.attemptCall m arguments) := Deeds.attemptCall h.deeds m arguments

/-- So are they run. -/
theorem runMember (h : D.Admits c) (cls : ClassPath) (m : Member) (path : List ClassPath)
    (target : ClassPath) (id : Nat) (arguments : Arguments) :
    D.Allows (Container.runMember cls m path target id arguments) :=
  Deeds.runMember h.deeds cls m path target id arguments

/-- A member is injected by effects. -/
theorem injectPoint (h : D.Admits c) (hself : ∀ d, D.Gives (self d)) (cat : Catalog)
    (target : ClassPath) (id : Nat) (m : Member) :
    D.Allows (c.injectPoint self cat target id m) := Deeds.injectPoint h.deeds hself cat target id m

/-- So are all members of a catalog. -/
theorem injectPoints (h : D.Admits c) (hself : ∀ d, D.Gives (self d)) (cat : Catalog)
    (target : ClassPath) (id : Nat) : D.Allows (c.injectPoints self cat target id) :=
  Deeds.injectPoints h.deeds hself cat target id

/-- So are the members that a class declares. -/
theorem injectObject (h : D.Admits c) (hself : ∀ d, D.Gives (self d)) (cls target : ClassPath)
    (id : Nat) : D.Allows (c.injectObject self cls target id) :=
  Deeds.injectObject h.deeds hself cls target id

/-- So is a static member. -/
theorem injectStaticPoint (h : D.Admits c) (hstage : Stages D 1) (hself : ∀ d, D.Gives (self d))
    (cat : Catalog) (m : Member) : D.Allows (c.injectStaticPoint self cat m) :=
  Deeds.injectStaticPoint h.deeds hstage hself cat m

/-- So are all static members of a class. -/
theorem injectStatics (h : D.Admits c) (hstage : Stages D 1) (hself : ∀ d, D.Gives (self d))
    (cls : ClassPath) : D.Allows (c.injectStatics self cls) :=
  Deeds.injectStatics h.deeds hstage hself cls

/-! ### Objects -/

/-- A constructor makes an object that is known. -/
theorem runConstructor (h : D.Admits c) (cls : ClassPath) (m : Member) (arguments : Arguments) :
    D.Ensures (fun _ => True) (Container.runConstructor cls m arguments) D.Known :=
  Deeds.runConstructor h.deeds (h.constructs cls).begins m arguments

/-- Constructing a class gives what is known. -/
theorem construct (h : D.Admits c) (hself : ∀ d, D.Gives (self d)) (cls : ClassPath) :
    D.Gives (c.construct self cls) := Deeds.construct h.deeds hself (h.constructs cls)

/-! ### Deferred bindings -/

/-- Failed injections are passed over by an effect. -/
theorem passOver (h : D.Admits c) (d : Deferral) (r : Except ConfigurationError Unit) :
    D.Allows (Container.passOver d r) := Deeds.passOver h.deeds d r

/-- The subject of a deferral is known. -/
theorem subjectOf (h : D.Admits c) {b : Binding} (hb : c.registry.lookup b.key = some b)
    {d : Deferral} (hd : b.source.deferral = some d) :
    D.Ensures (fun _ => True) (Container.subjectOf d.subject) D.Known :=
  Deeds.subjectOf h.deeds hb hd

/-- A deferred binding gives what is known, if its marks and its progress are admitted. -/
theorem force (h : D.Admits c) (hset : SetsReadiness D) (hself : ∀ d, D.Gives (self d))
    {b : Binding} (hb : c.registry.lookup b.key = some b) {d : Deferral}
    (hd : b.source.deferral = some d) (hbegin : D.Allows (.emit (.preparing b.key)))
    (hend : Marks D (.forced b.key)) : D.Gives (c.force self b.key d) :=
  Deeds.force h.deeds hset hself hb hd hbegin hend

/-! ### Providers -/

/-- Providers give what is known. -/
theorem callProvider (h : D.Admits c) (key : Key) (p : Provider) :
    D.Gives (Container.callProvider key p) := Deeds.callProvider h.deeds key p

/-- So do instances that are called as providers. -/
theorem supplyFrom (h : D.Admits c) (i : Instance) (cls : ClassPath) (ty : Ty) :
    D.Gives (c.supplyFrom i cls ty) :=
  (Deeds.supplyFrom h.deeds i cls ty).weaken (fun _ _ _ _ => trivial) fun _ _ h => h

/-! ### Bindings and scopes -/

/-- So do sources. -/
theorem provision (h : D.Admits c) (hself : ∀ d, D.Gives (self d)) {b : Binding}
    (hb : c.registry.lookup b.key = some b)
    (hforce : ∀ d, b.source.deferral = some d → D.Gives (c.force self b.key d)) :
    D.Gives (c.provision self b) :=
  Deeds.provision h.deeds hself hb (fun cls _ => h.constructs cls) hforce

/-- So do slots, if it is admitted that they are filled. -/
theorem inSlot (h : D.Admits c) (hset : SetsSlots D) (key : Key)
    (hlog : D.Allows (.log (.creatingSingleton key))) {create : Run Instance}
    (hcreate : D.Gives create) : D.Gives (Wiring.inSlot key create) :=
  Deeds.inSlot h.deeds hset key hlog hcreate

/-- So do the accessors of scopes. -/
theorem accessed (h : D.Admits c) (key : Key) {create : Run Instance} (hcreate : D.Gives create)
    (accessor : Accessor) : D.Gives (Wiring.accessed key create accessor) :=
  Deeds.accessed h.deeds key hcreate accessor

/-- So do scopes. -/
theorem withinScope (h : D.Admits c) {b : Binding} {create : Run Instance}
    (hslot : b.scope = .singleton → D.Gives (Wiring.inSlot b.key create))
    (hcreate : b.scope ≠ .singleton → D.Gives create) :
    D.Gives (Wiring.withinScope b create) := Deeds.withinScope h.deeds hslot hcreate

/-! ### Dependencies -/

/-- A dependency is answered by what is known. -/
theorem answer (h : D.Admits c) (hself : ∀ d, D.Gives (self d)) {d : Dependency}
    (hbinding : ∀ b, c.registry.lookup d.key = some b → D.Gives (c.resolveBinding self b)) :
    D.Gives (c.answer self d) :=
  Deeds.answer h.deeds hself hbinding fun cls _ _ => h.constructs cls

/-- So is it resolved, if its mark is admitted. -/
theorem resolveStep (h : D.Admits c) {d : Dependency} (hend : Marks D (.resolved d))
    (hanswer : D.Gives (c.answer self d)) : D.Gives (c.resolveStep self d) :=
  Deeds.resolveStep (h.log _ rfl) hend hanswer

/-! ### The building of a container -/

/-- Classes that were requested statically are injected by effects. -/
theorem injectStaticTargets (h : D.Admits c) (hstage : Stages D 1)
    (hself : ∀ d, D.Gives (c.resolve d)) : D.Allows c.injectStaticTargets :=
  Deeds.injectStaticTargets h.deeds hstage hself

/-- A container is built by effects, if the stages and marks are admitted. -/
theorem start (h : D.Admits c) (hstage : Stages D 3) (hself : ∀ d, D.Gives (c.resolve d))
    (hforce : ∀ b ∈ c.registry.toList, ∀ d, b.source.deferral = some d →
      D.Gives (c.force c.resolve b.key d))
    (hbinding : ∀ b ∈ c.registry.toList, D.Gives (c.resolveBinding c.resolve b)) :
    D.Allows c.start := Deeds.start h.deeds hstage hself hforce hbinding

end Conduct

/-! ### Disciplines without a view of slots, deferred bindings and marks -/

/-- A discipline admits everything that a container does once it is built. -/
structure AdmitsAll (D : Discipline) (c : Container) : Prop extends Admits D c where
  /-- Deferred bindings may advance. -/
  readiness : Conduct.SetsReadiness D
  /-- The slots of singletons may change. -/
  slots : Conduct.SetsSlots D
  /-- Everything may be entered in the journal that does not tell of a later stage of a build. -/
  mark : ∀ (e : Event) (s : State), e.stage = 0 → D.Inv s →
    D.Moves s (s.inWorld (s.world.emit e))

namespace AdmitsAll

variable (h : D.AdmitsAll c)
include h

/-- It admits all deeds as well. -/
theorem allDeeds : D.AdmitsAllDeeds c fun _ _ => True where
  toAdmitsDeeds := h.deeds
  readiness := h.readiness
  slots := h.slots
  mark := h.mark

/-- Deferred bindings give what is known. -/
theorem force (hself : ∀ d, D.Gives (self d)) {b : Binding}
    (hb : c.registry.lookup b.key = some b) {d : Deferral} (hd : b.source.deferral = some d) :
    D.Gives (c.force self b.key d) := h.allDeeds.force hself hb hd

/-- So do bindings. -/
theorem resolveBinding (hself : ∀ d, D.Gives (self d)) {b : Binding}
    (hb : c.registry.lookup b.key = some b) : D.Gives (c.resolveBinding self b) :=
  h.allDeeds.resolveBinding hself hb

/-- A dependency is answered by what is known. -/
theorem answer (hself : ∀ d, D.Gives (self d)) (d : Dependency) : D.Gives (c.answer self d) :=
  h.allDeeds.answer hself d

/-- So is it resolved within a depth. -/
theorem resolveWithin (n : Nat) (d : Dependency) : D.Gives (c.resolveWithin n d) :=
  h.allDeeds.resolveWithin n d

/-- So is it resolved. -/
theorem resolve (d : Dependency) : D.Gives (c.resolve d) := h.resolveWithin _ d

/-- A container is built by effects, if the stages are admitted. -/
theorem start (hstage : Conduct.Stages D 3) : D.Allows c.start := h.allDeeds.start hstage

end AdmitsAll

end Discipline

end Wiring
