import Wiring.Container.Access
import Wiring.Proofs.Effects
import Wiring.Proofs.Unfolding

/-!
# What the Functions of a Container Do

Effects are changes of a state whoever makes them. A container does not make any effect: it changes
things only that it can come across, the things that it makes have no parts yet, and some entries
it makes in their place only: that a dependency is about to be resolved, or that a class is
constructed. Such effects are its *deeds*. If a discipline admits the deeds of a container, then
what the container does keeps to it, function by function. Such a discipline may forbid, for
example, that certain objects are touched, or that certain classes are constructed.

Everything is stated for a way `self` to resolve what is needed along the way that keeps to the
discipline itself. A discipline may have its own view of slots, deferred bindings, marks and
constructions. So the lemmas about these take what the discipline says about them as assumptions,
and the lemmas about the functions around them assume that resolving a binding, say, keeps to the
discipline, however that came to be.

## Conventions

What may be touched is told by a predicate `T` of the state. What is known may be touched, and so
may the parts of what may be touched. Members are injected only into what may be touched.

## Main statements

* `Deed`: a small change of a state that a container makes.
* `Discipline.AdmitsDeeds`: a discipline admits the deeds of a container.
* `Deeds.injectObject`, `Deeds.injectStatics`: the injection of members.
* `Deeds.construct`: a class is constructed, if its construction may be entered.
* `Deeds.provision`, `Deeds.withinScope`, `Deeds.answer`: what a resolution does.
* `Deeds.start`: the building of a container.
* `Discipline.AdmitsAllDeeds`: disciplines without a view of slots, deferred bindings, marks and
  constructions.
-/

namespace Wiring

/-- The class of which an event tells that it is constructed, or about to be. -/
def Event.constructs? : Event → Option ClassPath
  | constructed cls .. | logged (.constructing cls) => some cls
  | _ => none

/-- Whether an event is neither a mark, nor tells that a class is constructed or that a dependency
is about to be resolved. -/
def Event.isOrdinary : Event → Bool
  | constructed .. | logged (.constructing _) | logged (.resolving _) => false
  | e => !e.isMark

/-- Ordinary events are not among the marks. -/
theorem Event.isMark_of_isOrdinary {e : Event} (h : e.isOrdinary = true) : e.isMark = false := by
  unfold isOrdinary at h
  split at h
  · cases h
  · cases h
  · cases h
  · simpa using h

/-- Readings are ordinary. -/
theorem Event.isOrdinary_of_isReading {e : Event} (h : e.isReading = true) :
    e.isOrdinary = true := by
  unfold isReading at h
  split at h
  · rfl
  · rfl
  · cases h

/-- That a class is constructed is not among the marks. -/
theorem Event.isMark_of_constructs {e : Event} {cls : ClassPath} (h : e.constructs? = some cls) :
    e.isMark = false := by
  unfold constructs? at h
  split at h
  · rfl
  · rfl
  · cases h

/-- A small change of the state of a container that the container makes by itself, where things of
which `T` holds may be touched and known things may be kept. -/
inductive Deed (c : Container) (D : Discipline) (T : State → Nat → Prop) (s : State) :
    State → Prop where
  /-- An ordinary entry in the journal. -/
  | emit (e : Event) : e.isOrdinary = true → Deed c D T s (s.inWorld (s.world.emit e))
  /-- A thing comes to be that has no parts. -/
  | thing (t : Thing) : t.IsBare →
    Deed c D T s (s.inWorld { s.world with things := s.world.things.push t })
  /-- An object changes that may be touched, and so may the parts that it gets. It keeps its
  parts. -/
  | object (id : Nat) (f : Object → Object) : T s id →
    (∀ o, s.world.object? id = some o → o.ProlongedBy (f o)) →
    (∀ o cls part, (f o).parts.get? cls = some part → o.parts.get? cls = some part ∨
      T s part ∧ ∃ o', s.world.object? part = some o') →
    Deed c D T s (s.inWorld (s.world.modifyObject id f))
  /-- An effect that has nothing to do with things and the journal. -/
  | aside {s' : State} : Effect c (D.Knows s) s s' → s'.world.things = s.world.things →
    s'.world.journal = s.world.journal → Deed c D T s s'

/-- Deeds are effects. -/
theorem Deed.effect {c : Container} {D : Discipline} {T : State → Nat → Prop} {s s' : State}
    (h : Deed c D T s s') : Effect c (D.Knows s) s s' := by
  cases h with
  | emit e he => exact .emit e (Event.isMark_of_isOrdinary he)
  | thing t hbare => exact .thing t hbare
  | object id f _ hgoes hnew =>
    exact .object id f hgoes fun o cls part hpart => (hnew o cls part hpart).imp_right And.right
  | aside heffect _ _ => exact heffect

namespace Discipline

variable {D : Discipline} {c : Container} {T : State → Nat → Prop} {α β : Type}

namespace Ensures

variable {Q : State → Prop} {W : State → β → Prop}

/-- A fact that has nothing to do with states may be used where it is needed. -/
theorem of_fact {p : Prop} {x : Run β} (h : p → D.Ensures (fun _ => True) x W) :
    D.Ensures (fun _ => p) x W := fun s hs hp => h hp s hs trivial

/-- A fact that lasts may be used again and again. -/
theorem keeping {x : Run α} {y : α → Run β} (hQ : D.Lasting Q)
    (hx : D.Ensures Q x fun _ _ => True) (hy : ∀ a, D.Ensures Q (y a) W) :
    D.Ensures Q (x >>= y) W := by
  have h : D.Ensures Q x fun s _ => Q s :=
    (hx.frame hQ).weaken (fun _ h => ⟨h, h⟩) fun _ _ h => h.2
  exact h.bind hy

/-- A fact that lasts and that each step keeps is kept by all of them. -/
theorem each_keeping {f : α → Run Unit} {as : List α} (hQ : D.Lasting Q)
    (h : ∀ a ∈ as, D.Ensures Q (f a) fun _ _ => True) :
    D.Ensures Q (Run.each f as) fun _ _ => True := by
  induction as with
  | nil => exact succeed fun _ _ _ => trivial
  | cons a as ih =>
    exact keeping hQ (h a (by simp)) fun _ => ih fun b hb => h b (by simp [hb])

end Ensures

/-- A discipline admits the deeds of a container, where things of which `T` holds may be touched. -/
structure AdmitsDeeds (D : Discipline) (c : Container) (T : State → Nat → Prop) : Prop where
  /-- Deeds are admitted. -/
  deed : ∀ {s s'}, D.Inv s → Deed c D T s s' → D.Moves s s'
  /-- A new thing is known. -/
  fresh : ∀ {s : State} (t : Thing), D.Inv s →
    D.Known (s.inWorld { s.world with things := s.world.things.push t }) s.world.things.size
  /-- Things that are referred to are known. -/
  mentioned : ∀ {s : State} {id : Nat}, D.Inv s → c.Mentions s id → D.Known s id
  /-- Known things may be touched. -/
  known : ∀ {s : State} {id : Nat}, D.Known s id → T s id
  /-- The parts of what may be touched may be touched. -/
  part : ∀ {s : State} {id part : Nat} {o : Object} {cls : ClassPath}, D.Inv s → T s id →
    s.world.object? id = some o → o.parts.get? cls = some part → T s part
  /-- What may be touched may be touched later on. -/
  lasting : ∀ id, D.Lasting fun s => T s id

namespace AdmitsDeeds

variable (h : D.AdmitsDeeds c T) {s : State}
include h

/-! ### Changes of the world -/

/-- Looking for catalogs is among the deeds. -/
theorem reading : D.AdmitsReading c where
  read hs e he := h.deed hs (.emit e (Event.isOrdinary_of_isReading he))
  keep hs cls cat hnone hcat := h.deed hs (.aside (.catalog cls cat hnone hcat) rfl rfl)

theorem emit {e : Event} (he : e.isOrdinary = true) : D.Allows (.emit e) :=
  Ensures.change fun _ hs _ => h.deed hs (.emit e he)

theorem log {n : Notice} (hn : (Event.logged n).isOrdinary = true) : D.Allows (.log n) :=
  h.emit hn

/-- An instance that is made of a value is known if what the value refers to is. -/
theorem wrap (v : Value) : D.Ensures (fun s => ∀ id, v.thing? = some id → D.Known s id)
    (.act (·.wrap v)) D.Knows := by
  refine Ensures.act fun s hs hv => ?_
  obtain ⟨hs', hstep⟩ := h.deed hs (.aside (.wrap v) rfl rfl)
  exact ⟨hs', hstep, fun id hid => D.known_step hstep (hv id hid)⟩

/-- An instance that is made of a known object is known. -/
theorem wrapObject (cls : ClassPath) (id : Nat) :
    D.Ensures (D.Known · id) (.act (·.wrap (.object cls id))) D.Knows := by
  refine (h.wrap (.object cls id)).weaken (fun s hs id' hid => ?_) fun _ _ h => h
  cases hid
  exact hs

/-- A new object is known. -/
theorem moves_addObject (hs : D.Inv s) (cls : ClassPath) (history : List Call) :
    D.Moves s (s.inWorld (s.world.addObject cls history ∅).2) ∧
      D.Known (s.inWorld (s.world.addObject cls history ∅).2) s.world.things.size :=
  ⟨h.deed hs (.thing _ rfl), h.fresh _ hs⟩

/-- So is one that is made with an entry in the journal. -/
theorem moves_makeObject (hs : D.Inv s) (cls : ClassPath) :
    D.Moves s (s.inWorld (s.world.makeObject cls).2) ∧
      D.Known (s.inWorld (s.world.makeObject cls).2) s.world.things.size := by
  obtain ⟨h1, hid⟩ := h.moves_addObject hs cls []
  have h2 := h.deed h1.1 (.emit (.objectMade cls s.world.things.size) rfl)
  exact ⟨h1.trans h2, D.known_step h2.2 hid⟩

/-- Adding an object makes it known. -/
theorem addObject (cls : ClassPath) (history : List Call) :
    D.Ensures (fun _ => True) (.act (·.addObject cls history ∅)) D.Known := by
  refine Ensures.act fun s hs _ => ?_
  obtain ⟨⟨hs', hstep⟩, hid⟩ := h.moves_addObject hs cls history
  exact ⟨hs', hstep, hid⟩

/-- Making an object makes it known. -/
theorem makeObject (cls : ClassPath) :
    D.Ensures (fun _ => True) (.act (·.makeObject cls)) D.Known := by
  refine Ensures.act fun s hs _ => ?_
  obtain ⟨⟨hs', hstep⟩, hid⟩ := h.moves_makeObject hs cls
  exact ⟨hs', hstep, hid⟩

/-- A value that is made refers to nothing but a new thing. -/
theorem moves_make (hs : D.Inv s) (ty : Ty) (label : String) :
    D.Moves s (s.inWorld (s.world.make ty label).2) ∧
      ∀ id, (s.world.make ty label).1.thing? = some id →
        D.Known (s.inWorld (s.world.make ty label).2) id := by
  have hsame : D.Moves s s := ⟨hs, D.refl s⟩
  cases ty with
  | component cls =>
    obtain ⟨hmoves, hid⟩ := h.moves_makeObject hs cls
    exact ⟨hmoves, fun id heq => by cases heq; exact hid⟩
  | interface iface =>
    have h1 := h.deed hs (.thing .service trivial)
    have h2 := h.deed h1.1 (.emit (.serviceMade label s.world.things.size) rfl)
    refine ⟨h1.trans h2, fun id heq => ?_⟩
    cases heq
    exact D.known_step h2.2 (h.fresh _ hs)
  | text => exact ⟨hsame, nofun⟩
  | number => exact ⟨hsame, nofun⟩
  | request => exact ⟨h.deed hs (.aside (.request _ _) rfl rfl), nofun⟩
  | response => exact ⟨h.deed hs (.aside (.response _) rfl rfl), nofun⟩
  | session => exact ⟨h.deed hs (.aside .session rfl rfl), nofun⟩
  | parameters => exact ⟨hsame, nofun⟩

/-- An instance that is made for a label is known. -/
theorem makeInstance (ty : Ty) (label : String) : D.Gives (.act (·.makeInstance ty label)) := by
  refine Ensures.act fun s hs _ => ?_
  obtain ⟨h1, hknown⟩ := h.moves_make hs ty label
  have h2 := h.deed h1.1 (.aside (.wrap (s.world.make ty label).1) rfl rfl)
  obtain ⟨hs', hstep⟩ := h1.trans h2
  exact ⟨hs', hstep, fun id hid => D.known_step h2.2 (hknown id hid)⟩

/-- A call may be recorded for what may be touched. -/
theorem record (id : Nat) (call : Call) :
    D.Ensures (T · id) (.change (·.record id call)) fun _ _ => True :=
  Ensures.change fun _ hs hid =>
    h.deed hs (.object id _ hid (fun o _ => o.prolongedBy_record call) fun _ _ _ => .inl)

/-- What may be touched may be called as a provider. -/
theorem countSupply (id : Nat) :
    D.Ensures (T · id) (.act (·.countSupply id)) fun _ _ => True := by
  refine Ensures.act fun s hs hid => ?_
  obtain ⟨hs', hstep⟩ := h.deed hs (.object id (fun o => { o with supplied := o.supplied + 1 }) hid
    (fun o _ => o.prolongedBy_countSupply) fun _ _ _ hpart => .inl hpart)
  exact ⟨hs', hstep, trivial⟩

/-- The part of what may be touched may be touched, also if it is made. -/
theorem moves_partOf (hs : D.Inv s) {id : Nat} (hid : T s id) (cls : ClassPath) :
    D.Moves s (s.inWorld (s.world.partOf id cls).2) ∧
      T (s.inWorld (s.world.partOf id cls).2) (s.world.partOf id cls).1 := by
  unfold World.partOf
  split
  · next part hpart =>
    obtain ⟨o, ho, hpart⟩ := Option.bind_eq_some_iff.mp hpart
    exact ⟨⟨hs, D.refl s⟩, h.part hs hid ho hpart⟩
  · next hnone =>
    obtain ⟨h1, hnew⟩ := h.moves_makeObject hs cls
    have h2 := h.deed h1.1 (.object id
      (fun o => { o with parts := o.parts.insert cls s.world.things.size })
      (h.lasting id _ _ h1.2 hid) (fun o ho => World.prolongedBy_insert_part hnone ho)
      fun o other part hpart => ?_)
    · exact ⟨h1.trans h2, h.known (D.known_step h2.2 hnew)⟩
    · rcases Object.get?_insert_part hpart with hpart | rfl
      · exact .inl hpart
      · exact .inr ⟨h.known hnew, _, s.world.object?_makeObject_self cls⟩

/-- A part of what may be touched may be touched. -/
theorem partOf (id : Nat) (cls : ClassPath) :
    D.Ensures (T · id) (.act (·.partOf id cls)) T := by
  refine Ensures.act fun s hs hid => ?_
  obtain ⟨⟨hs', hstep⟩, hpart⟩ := h.moves_partOf hs hid cls
  exact ⟨hs', hstep, hpart⟩

/-- So may the part at the end of a path. -/
theorem partAlong (id : Nat) (path : List ClassPath) :
    D.Ensures (T · id) (.act (·.partAlong id path)) T := by
  have hmoves : ∀ (path : List ClassPath) (s : State) (id : Nat), D.Inv s → T s id →
      D.Moves s (s.inWorld (s.world.partAlong id path).2) ∧
        T (s.inWorld (s.world.partAlong id path).2) (s.world.partAlong id path).1 := by
    intro path
    induction path with
    | nil => exact fun s id hs hid => ⟨⟨hs, D.refl s⟩, hid⟩
    | cons cls path ih =>
      intro s id hs hid
      obtain ⟨h1, hpart⟩ := h.moves_partOf hs hid cls
      obtain ⟨h2, hlast⟩ := ih _ _ h1.1 hpart
      exact ⟨h1.trans h2, hlast⟩
  refine Ensures.act fun s hs hid => ?_
  obtain ⟨⟨hs', hstep⟩, hlast⟩ := hmoves path s id hs hid
  exact ⟨hs', hstep, hlast⟩

/-- A request may be given its session. -/
theorem sessionOf (request : Nat) : D.Allows (.act (·.sessionOf request)) := by
  refine Ensures.act fun s hs _ => ?_
  unfold World.sessionOf
  split
  · exact ⟨hs, D.refl s, trivial⟩
  · next hnone =>
    have h1 := h.deed hs (.aside (.join request hnone) rfl rfl)
    obtain ⟨hs', hstep⟩ := h1.trans (h.deed h1.1 (.emit (.logged .sessionCreated) rfl))
    exact ⟨hs', hstep, trivial⟩

/-- What is known may be kept for requests and sessions, and what is kept there is known. -/
theorem attributeOrInsert (k : World.Keeper) (key : Key) (i : Instance) :
    D.Ensures (D.Knows · i) (.act (·.attributeOrInsert k key i)) D.Knows := by
  refine Ensures.act fun s hs hi => ?_
  cases hk : (s.world.attributes k).get? key with
  | some kept =>
    rw [World.attributeOrInsert_of_some hk]
    exact ⟨hs, D.refl s, fun id hid => h.mentioned hs (.kept hk hid)⟩
  | none =>
    rw [World.attributeOrInsert_of_none hk]
    obtain ⟨hs', hstep⟩ := h.deed hs (.aside (.keep k key i hi hk)
      (World.things_setAttribute s.world k key i) (World.journal_setAttribute s.world k key i))
    exact ⟨hs', hstep, hi.step hstep⟩

/-- What is known may be kept in a context. -/
theorem keepInContext (name : String) (key : Key) (i : Instance) :
    D.Ensures (D.Knows · i) (.change (·.keepInContext name key i)) fun _ _ => True :=
  Ensures.change fun _ hs hi => h.deed hs (.aside (.context name key i hi) rfl rfl)

/-- Calls of providers may be counted. -/
theorem countCall (key : Key) : D.Allows (.remember (·.countCall key)) :=
  Ensures.remember fun _ hs _ => h.deed hs (.aside (.countCall key) rfl rfl)

end AdmitsDeeds

/-- The construction of a class may be entered in the journal. -/
def EntersConstruction (D : Discipline) (cls : ClassPath) : Prop :=
  ∀ e : Event, e.constructs? = some cls → D.Allows (.emit e)

/-- The construction of a class may be entered in the journal, also under the name that its catalog
has for it. -/
structure Constructs (D : Discipline) (c : Container) (cls : ClassPath) : Prop where
  /-- Its beginning. -/
  begins : D.EntersConstruction cls
  /-- Its end. -/
  ends : D.Ensures (fun _ => True) (c.catalog cls) fun _ cat => D.EntersConstruction cat.cls

namespace Conduct

variable {self : Dependency → Run Instance}

/-! ### What a discipline may have its own view of -/

/-- The entries that tell of the stages of a build up to the `n`-th may be made. -/
def Stages (D : Discipline) (n : Nat) : Prop :=
  ∀ e : Event, e.stage ≠ 0 → e.stage ≤ n → D.Allows (.emit e)

/-- The entries of fewer stages. -/
theorem Stages.mono {n k : Nat} (h : Stages D n) (hk : k ≤ n) : Stages D k :=
  fun e he hle => h e he (Nat.le_trans hle hk)

/-- A deferred binding may advance, where instances of known things become ready. -/
def SetsReadiness (D : Discipline) : Prop :=
  ∀ (key : Key) (r : Readiness), D.Ensures (fun s => ∀ i, r = .ready i → D.Knows s i)
    (.remember (·.setReadiness key r)) fun _ _ => True

/-- The end of a run that gives an instance may be marked. -/
def Marks (D : Discipline) (f : Except ConfigurationError Instance → Event) : Prop :=
  ∀ r s, D.Inv s → (∀ i, r = .ok i → D.Knows s i) → D.Moves s (s.inWorld (s.world.emit (f r)))

/-- Marks around a run do not matter. -/
theorem noting {x : Run Instance} {f : Except ConfigurationError Instance → Event}
    (hend : Marks D f) (hx : D.Gives x) : D.Gives (x.noting f) :=
  Ensures.noting hx lasting_knows hend

/-- The slots of singletons may change, where instances of known things are put into them. -/
def SetsSlots (D : Discipline) : Prop :=
  ∀ (key : Key) (cell : Cell), D.Ensures (fun s => ∀ i, cell = .full i → D.Knows s i)
    (.remember (·.setSlot key cell)) fun _ _ => True

/-! ### Functions that only put others together -/

/-- Resolving what a member requires. -/
theorem resolveRequired (hself : ∀ d, D.Gives (self d)) (member : String) (d : Dependency) :
    D.Gives (c.resolveRequired self member d) := by
  unfold Container.resolveRequired
  split
  · exact hself d
  · exact Ensures.fail _

/-- Looking for the constructor of a class. -/
theorem constructorOf (cat : Catalog) : D.Allows (Container.constructorOf cat) := by
  unfold Container.constructorOf
  cases cat.constructor with
  | none => exact Ensures.fail _
  | some m => exact Ensures.succeed fun _ _ _ => trivial

/-- Supplying an instance, between its marks. -/
theorem supply {b : Binding} (hbegin : D.Allows (.emit (.supplying b.key)))
    (hend : Marks D (.supplied b.key)) (hprovision : D.Gives (c.provision self b)) :
    D.Gives (c.supply self b) := hbegin.bind fun _ => noting hend hprovision

/-- What keeps to a discipline step by step does so at every depth. -/
theorem resolveWithin
    (hstep : ∀ self, (∀ d, D.Gives (self d)) → ∀ d, D.Gives (c.resolveStep self d)) (n : Nat)
    (d : Dependency) : D.Gives (c.resolveWithin n d) := by
  induction n generalizing d with
  | zero => exact Ensures.stuck
  | succ n ih => exact hstep _ ih d

/-- Preparing a deferred binding. -/
theorem prepare {b : Binding}
    (hforce : ∀ d, b.source.deferral = some d → D.Gives (c.force c.resolve b.key d)) :
    D.Allows (c.prepare b) := by
  unfold Container.prepare
  cases hd : b.source.deferral with
  | none => exact Ensures.succeed fun _ _ _ => trivial
  | some d =>
    refine Ensures.mapError _ ?_
    exact Ensures.bind (hforce d hd).allows fun _ => Ensures.succeed fun _ _ _ => trivial

/-- Creating a singleton ahead of time. -/
theorem createAhead (hstage : Stages D 2) {b : Binding}
    (hbinding : D.Gives (c.resolveBinding c.resolve b)) : D.Allows (c.createAhead b) := by
  unfold Container.createAhead
  refine (hstage (.logged (.creatingAhead _)) (Nat.succ_ne_zero 1) (Nat.le_refl _)).bind fun _ =>
    Ensures.mapError _ ?_
  exact Ensures.bind hbinding.allows fun _ => Ensures.succeed fun _ _ _ => trivial

/-- Asking for an instance as one of a type. -/
theorem getAs (hself : ∀ d, D.Gives (c.resolve d)) (ty : Ty) (d : Dependency) :
    D.Gives (c.getAs ty d) := by
  refine (hself d).bind fun i => Ensures.ofExcept fun j hj s hi => ?_
  obtain ⟨-, rfl⟩ := Instance.cast_eq_ok_iff.mp hj
  exact hi

end Conduct

namespace Deeds

variable {self : Dependency → Run Instance}

/-! ### Members -/

/-- Resolving the arguments of a member. -/
theorem argumentsFor (h : D.AdmitsDeeds c T) (hself : ∀ d, D.Gives (self d)) (member : String)
    (ds : List Dependency) (optional : Bool) :
    D.Allows (c.argumentsFor self member ds optional) := by
  have hrequired : D.Allows (c.argumentsFor self member ds false) := by
    rw [Container.argumentsFor_required]
    refine (Ensures.collect fun d _ => (Conduct.resolveRequired hself member d).allows).bind
      fun _ => ?_
    exact Ensures.succeed fun _ _ _ => trivial
  cases optional with
  | false => exact hrequired
  | true =>
    rw [Container.argumentsFor_optional]
    refine (h.reading.firstUnavailable ds).bind fun d => ?_
    cases d with
    | none => exact hrequired
    | some d => exact (h.log rfl).bind fun _ => Ensures.succeed fun _ _ _ => trivial

/-- Calling a member, whose call is entered in the journal. -/
theorem attemptCall (h : D.AdmitsDeeds c T) (m : Member) (arguments : Arguments) :
    D.Allows (Container.attemptCall m arguments) := by
  unfold Container.attemptCall
  dsimp only
  refine Ensures.bind (V := fun _ _ => True) (Ensures.read fun _ _ _ => trivial) fun call => ?_
  refine (h.emit rfl).bind fun _ => ?_
  cases (m.action arguments).error with
  | none => exact Ensures.succeed fun _ _ _ => trivial
  | some e => exact Ensures.fail e

/-- Running a member on a part of what may be touched. -/
theorem runMember (h : D.AdmitsDeeds c T) (cls : ClassPath) (m : Member) (path : List ClassPath)
    (target : ClassPath) (id : Nat) (arguments : Arguments) :
    D.Ensures (T · id) (Container.runMember cls m path target id arguments)
      fun _ _ => True := by
  by_cases hcls : target = cls
  · subst hcls
    rw [Container.runMember_self]
    refine (h.partAlong id path).bind fun part => ?_
    refine Ensures.andThen (h.lasting part) (attemptCall h m arguments) fun call => ?_
    exact (h.record part call).bind fun _ => h.emit rfl
  · rw [Container.runMember_of_ne hcls]
    exact Ensures.fail _

/-- Injecting a member into what may be touched. -/
theorem injectPoint (h : D.AdmitsDeeds c T) (hself : ∀ d, D.Gives (self d)) (cat : Catalog)
    (target : ClassPath) (id : Nat) (m : Member) :
    D.Ensures (T · id) (c.injectPoint self cat target id m) fun _ _ => True := by
  unfold Container.injectPoint
  cases m.role with
  | constructor => exact Ensures.succeed fun _ _ _ => trivial
  | static form => exact Ensures.succeed fun _ _ _ => trivial
  | instanceOf form path =>
    refine Ensures.andThen (h.lasting id) (argumentsFor h hself _ _ _) fun values => ?_
    cases values with
    | none => exact Ensures.succeed fun _ _ _ => trivial
    | some values => exact runMember h _ _ _ _ _ _

/-- Injecting the members of a catalog. -/
theorem injectPoints (h : D.AdmitsDeeds c T) (hself : ∀ d, D.Gives (self d)) (cat : Catalog)
    (target : ClassPath) (id : Nat) :
    D.Ensures (T · id) (c.injectPoints self cat target id) fun _ _ => True :=
  Ensures.each_keeping (h.lasting id) fun m _ => injectPoint h hself cat target id m

/-- Injecting the members that a class declares. -/
theorem injectObject (h : D.AdmitsDeeds c T) (hself : ∀ d, D.Gives (self d))
    (cls target : ClassPath) (id : Nat) :
    D.Ensures (T · id) (c.injectObject self cls target id) fun _ _ => True :=
  Ensures.andThen (h.lasting id) (h.reading.catalog cls) fun cat =>
    injectPoints h hself cat target id

/-- Injecting a static member. -/
theorem injectStaticPoint (h : D.AdmitsDeeds c T) (hstage : Conduct.Stages D 1)
    (hself : ∀ d, D.Gives (self d)) (cat : Catalog) (m : Member) :
    D.Allows (c.injectStaticPoint self cat m) := by
  unfold Container.injectStaticPoint
  refine (argumentsFor h hself _ _ _).bind fun values => ?_
  cases values with
  | none => exact Ensures.succeed fun _ _ _ => trivial
  | some values =>
    refine (hstage (.logged (.injectingStatic _)) Nat.one_ne_zero (Nat.le_refl _)).bind fun _ => ?_
    refine (attemptCall h m _).ensures.bind fun call => ?_
    exact hstage (.injectedStatic _ call) Nat.one_ne_zero (Nat.le_refl _)

/-- Injecting the static members of a class. -/
theorem injectStatics (h : D.AdmitsDeeds c T) (hstage : Conduct.Stages D 1)
    (hself : ∀ d, D.Gives (self d)) (cls : ClassPath) : D.Allows (c.injectStatics self cls) :=
  (h.reading.catalog cls).bind fun cat =>
    Ensures.each fun m _ => injectStaticPoint h hstage hself cat m

/-! ### Objects -/

/-- Running a constructor, which makes an object. -/
theorem runConstructor (h : D.AdmitsDeeds c T) {cls : ClassPath} (hcls : D.EntersConstruction cls)
    (m : Member) (arguments : Arguments) :
    D.Ensures (fun _ => True) (Container.runConstructor cls m arguments) D.Known := by
  unfold Container.runConstructor
  refine (attemptCall h m arguments).bind fun call => ?_
  refine (h.addObject cls [call]).bind fun id => ?_
  exact Ensures.andThen (lasting_known id) (hcls (.constructed cls id call) rfl) fun _ =>
    Ensures.succeed fun _ _ hid => hid

/-- Constructing a class, if its construction may be entered. -/
theorem construct (h : D.AdmitsDeeds c T) (hself : ∀ d, D.Gives (self d)) {cls : ClassPath}
    (hcls : D.Constructs c cls) : D.Gives (c.construct self cls) := by
  unfold Container.construct
  refine hcls.ends.bind fun cat => Ensures.of_fact fun hcat => ?_
  refine (Conduct.constructorOf cat).bind fun m => ?_
  refine (Ensures.collect fun d _ => (Conduct.resolveRequired hself _ d).allows).bind
    fun values => ?_
  refine Ensures.bind (hcls.begins (.logged (.constructing cls)) rfl) fun _ => ?_
  refine (runConstructor h hcat m _).bind fun id => ?_
  refine Ensures.keeping (lasting_known id) ?_ fun _ => h.wrapObject cls id
  exact (injectPoints h hself cat cls id).weaken (fun _ => h.known) fun _ _ h => h

/-! ### Deferred bindings -/

/-- Passing over a failed injection. -/
theorem passOver (h : D.AdmitsDeeds c T) (d : Deferral) (r : Except ConfigurationError Unit) :
    D.Allows (Container.passOver d r) := by
  rcases r with e | ⟨⟩
  · unfold Container.passOver
    dsimp only
    split
    · exact h.emit rfl
    · exact Ensures.fail e
  · exact Ensures.succeed fun _ _ _ => trivial

/-- Injecting the subject of a deferral again and again. -/
theorem injectRounds (h : D.AdmitsDeeds c T) (hself : ∀ d, D.Gives (self d)) (d : Deferral)
    (id n : Nat) : D.Ensures (T · id) (c.injectRounds self d id n) fun _ _ => True := by
  induction n with
  | zero => exact Ensures.succeed fun _ _ _ => trivial
  | succ n ih =>
    rw [Container.injectRounds_succ]
    refine Ensures.keeping (h.lasting id) ?_ fun r => ?_
    · exact (injectObject h hself _ _ id).attempt.weaken (fun _ hid => hid) fun _ _ _ => trivial
    · exact Ensures.andThen (h.lasting id) (passOver h d r) fun _ => ih

/-- The subject of a deferral is known. -/
theorem subjectOf (h : D.AdmitsDeeds c T) {b : Binding} (hb : c.registry.lookup b.key = some b)
    {d : Deferral} (hd : b.source.deferral = some d) :
    D.Ensures (fun _ => True) (Container.subjectOf d.subject) D.Known := by
  unfold Container.subjectOf
  cases hsub : d.subject with
  | existing cls id =>
    exact Ensures.succeed fun s hs _ => h.mentioned hs (.subject hb hd hsub)
  | new cls => exact h.makeObject cls

/-- What a deferral calls for. -/
theorem carryOut (h : D.AdmitsDeeds c T) (hself : ∀ d, D.Gives (self d)) {b : Binding}
    (hb : c.registry.lookup b.key = some b) {d : Deferral} (hd : b.source.deferral = some d) :
    D.Gives (c.carryOut self d) := by
  refine (subjectOf h hb hd).bind fun id => ?_
  refine Ensures.keeping (lasting_known id) ?_ fun _ => h.wrapObject _ id
  exact (injectRounds h hself d id _).weaken (fun _ => h.known) fun _ _ h => h

/-- Injecting a deferred binding whose turn has come. -/
theorem injectOnce (h : D.AdmitsDeeds c T) (hset : Conduct.SetsReadiness D)
    (hself : ∀ d, D.Gives (self d)) {b : Binding} (hb : c.registry.lookup b.key = some b)
    {d : Deferral} (hd : b.source.deferral = some d)
    (hbegin : D.Allows (.emit (.preparing b.key))) : D.Gives (c.injectOnce self b.key d) := by
  unfold Container.injectOnce
  refine ((hset b.key .running).weaken (fun _ _ _ hi => nomatch hi) fun _ _ h => h).bind
    fun _ => ?_
  refine hbegin.bind fun _ => ?_
  refine (carryOut h hself hb hd).attempt.bind fun r => ?_
  cases r with
  | ok i =>
    have hready : D.Ensures (D.Knows · i) (.remember (·.setReadiness b.key (.ready i)))
        fun _ _ => True :=
      (hset b.key (.ready i)).weaken (fun s hi j hj => by cases hj; exact hi) fun _ _ h => h
    exact (Ensures.keeping (lasting_knows i) hready fun _ =>
      Ensures.succeed fun _ _ hi => hi).weaken (fun s hi => hi i rfl) fun _ _ h => h
  | error e =>
    refine ((hset b.key .failed).weaken (fun _ _ _ hi => nomatch hi) fun _ _ h => h).bind
      fun _ => ?_
    exact Ensures.fail e

/-- Using a deferred binding, between its marks. -/
theorem force (h : D.AdmitsDeeds c T) (hset : Conduct.SetsReadiness D)
    (hself : ∀ d, D.Gives (self d)) {b : Binding} (hb : c.registry.lookup b.key = some b)
    {d : Deferral} (hd : b.source.deferral = some d)
    (hbegin : D.Allows (.emit (.preparing b.key))) (hend : Conduct.Marks D (.forced b.key)) :
    D.Gives (c.force self b.key d) := by
  refine Conduct.noting hend ?_
  unfold Container.useDeferred
  have hread : D.Ensures (fun _ => True) (.read (·.memory.readiness b.key))
      fun s r => ∀ i, r = .ready i → D.Knows s i :=
    Ensures.read fun s hs _ i hi id hid => h.mentioned hs (.deferred hi hid)
  refine hread.bind fun r => ?_
  cases r with
  | ready i => exact Ensures.succeed fun s _ hi => hi i rfl
  | running => exact Ensures.stuck
  | failed => exact Ensures.fail _
  | waiting =>
    exact (injectOnce h hset hself hb hd hbegin).weaken (fun _ _ => trivial) fun _ _ h => h

/-! ### Providers -/

/-- Parts of the current request are no things. -/
theorem currentPart (h : D.AdmitsDeeds c T) (part : RequestPart) :
    D.Ensures (fun _ => True) (Container.currentPart part) fun _ v => v.thing? = none := by
  unfold Container.currentPart
  refine Ensures.bind (V := fun _ _ => True) (Ensures.read fun _ _ _ => trivial) fun e => ?_
  cases e with
  | none => exact Ensures.fail _
  | some e =>
    cases part with
    | request => exact Ensures.succeed fun _ _ _ => rfl
    | response => exact Ensures.succeed fun _ _ _ => rfl
    | session => exact (h.sessionOf e.request).bind fun id => Ensures.succeed fun _ _ _ => rfl
    | parameters =>
      exact Ensures.bind (V := fun _ _ => True) (Ensures.read fun _ _ _ => trivial) fun r =>
        Ensures.succeed fun _ _ _ => rfl

/-- Calling a provider. -/
theorem callProvider (h : D.AdmitsDeeds c T) (key : Key) (p : Provider) :
    D.Gives (Container.callProvider key p) := by
  cases p with
  | current part =>
    refine (currentPart h part).bind fun v => ?_
    exact (h.wrap v).weaken (fun s hv id hid => by simp [hv] at hid) fun _ _ h => h
  | calls ty label outcome =>
    refine Ensures.bind (V := fun _ _ => True) (Ensures.read fun _ _ _ => trivial) fun n => ?_
    refine (h.countCall key).bind fun _ => ?_
    refine Ensures.bind (h.emit rfl) fun _ => ?_
    exact Ensures.bind (Ensures.ofExcept fun _ _ _ _ => trivial) fun made => h.makeInstance ty made

/-- Calling an object as a provider. -/
theorem callObject (h : D.AdmitsDeeds c T) (cls : ClassPath) (id : Nat) (ty : Ty) :
    D.Ensures (T · id) (c.callObject cls id ty) D.Knows := by
  unfold Container.callObject
  cases (c.classes.decl cls).supply with
  | calls outcome =>
    refine (h.countSupply id).bind fun n => ?_
    refine Ensures.bind (h.emit rfl) fun _ => ?_
    exact Ensures.bind (Ensures.ofExcept fun _ _ _ _ => trivial) fun made => h.makeInstance ty made
  | copyOf part =>
    refine (h.partOf id part).bind fun owned => ?_
    refine Ensures.bind (V := fun _ _ => True) (Ensures.read fun _ _ _ => trivial)
      fun history => ?_
    exact (h.addObject part history).bind fun copy => h.wrapObject part copy

/-- Calling an instance as a provider, if it is an object of the class. -/
theorem supplyFrom (h : D.AdmitsDeeds c T) (i : Instance) (cls : ClassPath) (ty : Ty) :
    D.Ensures (fun s => ∀ id, i.value.thing? = some id → T s id) (c.supplyFrom i cls ty)
      D.Knows := by
  unfold Container.supplyFrom
  have hcast : D.Ensures (fun s => ∀ id, i.value.thing? = some id → T s id)
      (.ofExcept (i.cast (.component cls))) fun s j => ∀ id, j.value.thing? = some id → T s id :=
    Ensures.ofExcept fun j hj s hi => by
      obtain ⟨-, rfl⟩ := Instance.cast_eq_ok_iff.mp hj
      exact hi
  refine hcast.bind fun j => ?_
  split
  · next cls' id hvalue =>
    exact (callObject h cls' id ty).weaken (fun s hj => hj id (by rw [hvalue]; rfl))
      fun _ _ h => h
  · exact Ensures.stuck

/-! ### Bindings -/

/-- What a binding provides. A class may be constructed for it if it is bound to its constructor. -/
theorem provision (h : D.AdmitsDeeds c T) (hself : ∀ d, D.Gives (self d)) {b : Binding}
    (hb : c.registry.lookup b.key = some b)
    (hconstruct : ∀ cls, b.source = .constructor cls → D.Constructs c cls)
    (hforce : ∀ d, b.source.deferral = some d → D.Gives (c.force self b.key d)) :
    D.Gives (c.provision self b) := by
  have hsupply : ∀ i cls ty, D.Ensures (D.Knows · i) (c.supplyFrom i cls ty) D.Knows :=
    fun i cls ty => (supplyFrom h i cls ty).weaken (fun _ hi id hid => h.known (hi id hid))
      fun _ _ h => h
  unfold Container.provision
  cases hsource : b.source with
  | given i => exact Ensures.succeed fun s hs _ id hid => h.mentioned hs (.given hb hsource hid)
  | provider p => exact callProvider h b.key p
  | providerType provider cls ty => exact (hself provider).bind fun i => hsupply i cls ty
  | constructor cls => exact construct h hself (hconstruct cls hsource)
  | injected d => exact hforce d (by rw [hsource]; rfl)
  | injectedProvider d ty =>
    exact (hforce d (by rw [hsource]; rfl)).bind fun i => hsupply i _ ty

/-! ### Scopes -/

/-- Filling the slot of a singleton. -/
theorem inSlot (h : D.AdmitsDeeds c T) (hset : Conduct.SetsSlots D) (key : Key)
    (hlog : D.Allows (.log (.creatingSingleton key))) {create : Run Instance}
    (hcreate : D.Gives create) : D.Gives (Wiring.inSlot key create) := by
  unfold Wiring.inSlot
  have hread : D.Ensures (fun _ => True) (.read (·.memory.slots.get? key))
      fun s r => ∀ i, r = some (.full i) → D.Knows s i :=
    Ensures.read fun s hs _ i hi id hid => h.mentioned hs (.slot hi hid)
  refine hread.bind fun r => ?_
  rcases r with _ | ⟨_ | _ | i⟩
  · exact hcreate.weaken (fun _ _ => trivial) fun _ _ h => h
  · refine ((hset key .busy).weaken (fun _ _ _ hi => nomatch hi) fun _ _ h => h).bind fun _ => ?_
    refine hlog.bind fun _ => ?_
    refine hcreate.attempt.bind fun r => ?_
    cases r with
    | ok i =>
      have hfull : D.Ensures (D.Knows · i) (.remember (·.setSlot key (.full i)))
          fun _ _ => True :=
        (hset key (.full i)).weaken (fun s hi j hj => by cases hj; exact hi) fun _ _ h => h
      exact (Ensures.keeping (lasting_knows i) hfull fun _ =>
        Ensures.succeed fun _ _ hi => hi).weaken (fun s hi => hi i rfl) fun _ _ h => h
    | error e =>
      refine ((hset key .empty).weaken (fun _ _ _ hi => nomatch hi) fun _ _ h => h).bind
        fun _ => ?_
      exact Ensures.fail e
  · exact Ensures.stuck
  · exact Ensures.succeed fun s _ hi => hi i rfl

/-- Keeping an instance for a request or a session. -/
theorem keptBy (h : D.AdmitsDeeds c T) (keeper : World.Keeper) (key : Key) {notice : Notice}
    (hnotice : D.Allows (.log notice)) {create : Run Instance} (hcreate : D.Gives create) :
    D.Gives (Wiring.keptBy keeper key notice create) := by
  unfold Wiring.keptBy
  have hread : D.Ensures (fun _ => True) (.read fun s => (s.world.attributes keeper).get? key)
      fun s r => ∀ i, r = some i → D.Knows s i :=
    Ensures.read fun s hs _ i hi id hid => h.mentioned hs (.kept hi hid)
  refine hread.bind fun r => ?_
  cases r with
  | some i => exact Ensures.succeed fun s _ hi => hi i rfl
  | none =>
    refine Ensures.bind (hcreate.weaken (fun _ _ => trivial) fun _ _ h => h) fun i => ?_
    exact Ensures.andThen (lasting_knows i) hnotice fun _ => h.attributeOrInsert keeper key i

/-- Following the rule of a context. -/
theorem byRule (h : D.AdmitsDeeds c T) (name : String) (key : Key) {create : Run Instance}
    (hcreate : D.Gives create) (rule : AccessRule) :
    D.Gives (Wiring.byRule name key create rule) := by
  unfold Wiring.byRule
  cases rule with
  | pass => exact hcreate
  | twice => exact Ensures.bind hcreate.allows fun _ => hcreate
  | replace m => exact h.makeInstance m.ty m.label
  | fallback m =>
    refine hcreate.attempt.bind fun r => ?_
    cases r with
    | ok i => exact Ensures.succeed fun s _ hi => hi i rfl
    | error e =>
      exact (h.makeInstance m.ty m.label).weaken (fun _ _ => trivial) fun _ _ h => h
  | keep =>
    have hread : D.Ensures (fun _ => True) (.read fun s => (s.world.context name).kept.get? key)
        fun s r => ∀ i, r = some i → D.Knows s i :=
      Ensures.read fun s hs _ i hi id hid => h.mentioned hs (.context hi hid)
    refine hread.bind fun r => ?_
    cases r with
    | some i => exact Ensures.succeed fun s _ hi => hi i rfl
    | none =>
      refine Ensures.bind (hcreate.weaken (fun _ _ => trivial) fun _ _ h => h) fun i => ?_
      exact Ensures.keeping (lasting_knows i) (h.keepInContext name key i) fun _ =>
        Ensures.succeed fun _ _ hi => hi

/-- Asking the accessor of a scope. -/
theorem accessed (h : D.AdmitsDeeds c T) (key : Key) {create : Run Instance}
    (hcreate : D.Gives create) (accessor : Accessor) :
    D.Gives (Wiring.accessed key create accessor) := by
  unfold Wiring.accessed
  cases accessor with
  | request =>
    refine Ensures.bind (V := fun _ _ => True) (Ensures.read fun _ _ _ => trivial) fun e => ?_
    cases e with
    | none => exact Ensures.fail _
    | some e => exact keptBy h _ key (h.log rfl) hcreate
  | session =>
    refine Ensures.bind (V := fun _ _ => True) (Ensures.read fun _ _ _ => trivial) fun e => ?_
    cases e with
    | none => exact Ensures.fail _
    | some e =>
      exact (h.sessionOf e.request).bind fun session => keptBy h _ key (h.log rfl) hcreate
  | named name rule =>
    refine Ensures.bind (h.emit rfl) fun _ => ?_
    refine Ensures.bind (V := fun _ _ => True) (Ensures.read fun _ _ _ => trivial)
      fun isOpen => ?_
    cases isOpen with
    | true => exact byRule h name key hcreate rule
    | false => exact Ensures.fail _

/-- Going through the scope of a binding. -/
theorem withinScope (h : D.AdmitsDeeds c T) {b : Binding} {create : Run Instance}
    (hslot : b.scope = .singleton → D.Gives (Wiring.inSlot b.key create))
    (hcreate : b.scope ≠ .singleton → D.Gives create) :
    D.Gives (Wiring.withinScope b create) := by
  unfold Wiring.withinScope
  cases hscope : b.scope with
  | unscoped => exact hcreate (by simp [hscope])
  | singleton => exact hslot hscope
  | contextual accessor => exact accessed h b.key (hcreate (by simp [hscope])) accessor

/-- The instance for a dependency. A class may be constructed for it if it is constructed just in
time. -/
theorem answer (h : D.AdmitsDeeds c T) (hself : ∀ d, D.Gives (self d)) {d : Dependency}
    (hbinding : ∀ b, c.registry.lookup d.key = some b → D.Gives (c.resolveBinding self b))
    (hconstruct : ∀ cls, c.registry.lookup d.key = none → c.justInTime d = some cls →
      D.Constructs c cls) : D.Gives (c.answer self d) := by
  unfold Container.answer
  cases hb : c.registry.lookup d.key with
  | some b => exact hbinding b hb
  | none =>
    cases hjit : c.justInTime d with
    | some cls => exact construct h hself (hconstruct cls hb hjit)
    | none => exact Ensures.fail _

/-- Resolving a dependency, between its marks. -/
theorem resolveStep {d : Dependency} (hbegin : D.Allows (.log (.resolving d.key)))
    (hend : Conduct.Marks D (.resolved d)) (hanswer : D.Gives (c.answer self d)) :
    D.Gives (c.resolveStep self d) := hbegin.bind fun _ => Conduct.noting hend hanswer

/-! ### The building of a container -/

/-- Injecting all classes that were requested statically. -/
theorem injectStaticTargets (h : D.AdmitsDeeds c T) (hstage : Conduct.Stages D 1)
    (hself : ∀ d, D.Gives (c.resolve d)) : D.Allows c.injectStaticTargets := by
  unfold Container.injectStaticTargets
  refine (Ensures.each fun cls _ => ?_).bind fun _ => ?_
  · exact Ensures.mapError _ (injectStatics h hstage hself cls)
  · split
    · exact hstage (.logged (.staticsInjected _)) Nat.one_ne_zero (Nat.le_refl _)
    · exact Ensures.succeed fun _ _ _ => trivial

/-- Building a container. -/
theorem start (h : D.AdmitsDeeds c T) (hstage : Conduct.Stages D 3)
    (hself : ∀ d, D.Gives (c.resolve d))
    (hforce : ∀ b ∈ c.registry.toList, ∀ d, b.source.deferral = some d →
      D.Gives (c.force c.resolve b.key d))
    (hbinding : ∀ b ∈ c.registry.toList, D.Gives (c.resolveBinding c.resolve b)) :
    D.Allows c.start := by
  unfold Container.start
  refine (Ensures.each fun b hb => Conduct.prepare (hforce b hb)).bind fun _ => ?_
  refine (injectStaticTargets h (hstage.mono (by decide)) hself).bind fun _ => ?_
  refine Ensures.bind (Ensures.each fun b hb =>
    Conduct.createAhead (hstage.mono (by decide)) (hbinding b ?_)) fun _ => ?_
  · exact (List.mem_filter.mp hb).1
  · exact Ensures.bind (V := fun _ _ => True) (Ensures.read fun _ _ _ => trivial) fun _ =>
      hstage (.logged (.built _)) (Nat.succ_ne_zero 2) (Nat.le_refl _)

end Deeds

/-! ### Disciplines without a view of slots, deferred bindings, marks and constructions -/

/-- A discipline admits everything that a container does once it is built, as far as nothing is
touched that may not be touched. -/
structure AdmitsAllDeeds (D : Discipline) (c : Container) (T : State → Nat → Prop) : Prop
    extends AdmitsDeeds D c T where
  /-- Deferred bindings may advance. -/
  readiness : Conduct.SetsReadiness D
  /-- The slots of singletons may change. -/
  slots : Conduct.SetsSlots D
  /-- Everything may be entered in the journal that does not tell of a later stage of a build. -/
  mark : ∀ (e : Event) (s : State), e.stage = 0 → D.Inv s →
    D.Moves s (s.inWorld (s.world.emit e))

namespace AdmitsAllDeeds

variable {self : Dependency → Run Instance} (h : D.AdmitsAllDeeds c T)
include h

/-- Marks of the first stage are admitted. -/
theorem marks {f : Except ConfigurationError Instance → Event} (hf : ∀ r, (f r).stage = 0) :
    Conduct.Marks D f := fun r s hs _ => h.mark (f r) s (hf r) hs

theorem emits {e : Event} (he : e.stage = 0) : D.Allows (.emit e) :=
  Ensures.change fun s hs _ => h.mark e s he hs

/-- Every class may be constructed. -/
theorem constructs (cls : ClassPath) : D.Constructs c cls := by
  have henters : ∀ cls, D.EntersConstruction cls := fun _ _ he =>
    h.emits (Event.stage_of_not_isMark (Event.isMark_of_constructs he))
  exact ⟨henters cls, (h.reading.catalog cls).weaken (fun _ h => h) fun _ cat _ => henters cat.cls⟩

/-- Using a deferred binding. -/
theorem force (hself : ∀ d, D.Gives (self d)) {b : Binding}
    (hb : c.registry.lookup b.key = some b) {d : Deferral} (hd : b.source.deferral = some d) :
    D.Gives (c.force self b.key d) :=
  Deeds.force h.toAdmitsDeeds h.readiness hself hb hd (h.emits rfl) (h.marks fun _ => rfl)

/-- Resolving a binding. -/
theorem resolveBinding (hself : ∀ d, D.Gives (self d)) {b : Binding}
    (hb : c.registry.lookup b.key = some b) : D.Gives (c.resolveBinding self b) := by
  have hprovision := Deeds.provision h.toAdmitsDeeds hself hb (fun cls _ => h.constructs cls)
    fun d hd => h.force hself hb hd
  have hsupply := Conduct.supply (h.emits rfl) (h.marks fun _ => rfl) hprovision
  exact Deeds.withinScope h.toAdmitsDeeds
    (fun _ => Deeds.inSlot h.toAdmitsDeeds h.slots b.key (h.emits rfl) hsupply) fun _ => hsupply

/-- Answering a dependency. -/
theorem answer (hself : ∀ d, D.Gives (self d)) (d : Dependency) : D.Gives (c.answer self d) := by
  refine Deeds.answer h.toAdmitsDeeds hself (fun b hb => ?_) fun cls _ _ => h.constructs cls
  exact h.resolveBinding hself (by rw [Registry.key_of_lookup hb, hb])

/-- Resolving a dependency within a depth. -/
theorem resolveWithin (n : Nat) (d : Dependency) : D.Gives (c.resolveWithin n d) :=
  Conduct.resolveWithin (fun _ hself d =>
    Deeds.resolveStep (h.emits rfl) (h.marks fun _ => rfl) (h.answer hself d)) n d

/-- Resolving a dependency. -/
theorem resolve (d : Dependency) : D.Gives (c.resolve d) := h.resolveWithin _ d

/-- Building a container. -/
theorem start (hstage : Conduct.Stages D 3) : D.Allows c.start := by
  refine Deeds.start h.toAdmitsDeeds hstage h.resolve (fun b hb d hd => ?_) fun b hb => ?_
  · exact h.force h.resolve (Registry.lookup_of_mem hb) hd
  · exact h.resolveBinding h.resolve (Registry.lookup_of_mem hb)

end AdmitsAllDeeds

end Discipline

end Wiring
