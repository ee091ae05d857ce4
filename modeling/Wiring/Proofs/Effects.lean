import Mathlib.Logic.Relation
import Wiring.Container.Build
import Wiring.Proofs.Discipline

/-!
# Effects

What a container does to its state comes down to a few small changes, the *effects*: an entry in
the journal, a new thing, a change of an object, an instance that a request, a session or a
context begins to keep, a catalog that is kept, and so on. Each of them touches one part of the
state. A discipline that admits the effects admits everything that is put together from them, and
what is put together from them are the *changes*, by which nothing begins to be kept.

Three kinds of changes are left out here, for disciplines differ over them: what happens to the
slots of singletons, how deferred bindings advance, and the *marks*, which are the entries in the
journal that tell how far a resolution or a build is.

## Main statements

* `Effect`: the small changes of a state.
* `Container.Mentions`: the things that a container and its world refer to.
* `Discipline.AdmitsReading`, `Discipline.AdmitsLooks`: a discipline admits looking for catalogs.
* `Container.Changes`: effects one after another.
* `Container.changes_make`, `Container.changes_partAlong` and others: what is put together from
  effects.
* `Discipline.Admits`: a discipline admits the effects.
-/

open Relation

namespace Wiring

/-- The stage of a build that an event tells of: the injection of static members, the creation of
singletons ahead of time, or the end. All other events may come from the first stage on. -/
def Event.stage : Event → Nat
  | injectedStatic .. | logged (.injectingStatic _) | logged (.staticsInjected _) => 1
  | logged (.creatingAhead _) => 2
  | logged (.built _) => 3
  | _ => 0

/-- Whether an event tells how far a resolution or a build is: that a singleton is to be created,
that a binding begins to supply an instance or is done, that a deferred binding is injected or
used, that a dependency is resolved, or that a build has come to a later stage. -/
def Event.isMark : Event → Bool
  | logged (.creatingSingleton _) | supplying _ | supplied .. | resolved .. => true
  | preparing _ | forced .. => true
  | e => e.stage != 0

/-- Events of later stages are marks. -/
theorem Event.stage_of_not_isMark {e : Event} (h : e.isMark = false) : e.stage = 0 := by
  unfold isMark at h
  split at h
  all_goals first | cases h | simpa using h

/-- The key of the deferred binding that an event tells of: that it is injected or used. -/
def Event.use? : Event → Option Key
  | preparing key | forced key _ => some key
  | _ => none

/-- Only marks tell of uses. -/
theorem Event.use?_of_not_isMark {e : Event} (h : e.isMark = false) : e.use? = none := by
  cases e with
  | preparing key => cases h
  | forced key r => cases h
  | _ => rfl

/-- Uses are told of in the first stage. -/
theorem Event.use?_of_stage {e : Event} (h : e.stage ≠ 0) : e.use? = none := by
  cases e with
  | preparing key => exact absurd rfl h
  | forced key r => exact absurd rfl h
  | _ => rfl

/-- What an event tells of the outcome of a resolution or of a supply, and for which key. -/
def Event.outcome? : Event → Option (Key × Except ConfigurationError Instance)
  | resolved d r => some (d.key, r)
  | supplied key r => some (key, r)
  | _ => none

/-- Only marks tell of outcomes. -/
theorem Event.outcome?_of_not_isMark {e : Event} (h : e.isMark = false) : e.outcome? = none := by
  cases e with
  | resolved d r => cases h
  | supplied key r => cases h
  | _ => rfl

/-- Outcomes are told of in the first stage. -/
theorem Event.outcome?_of_stage {e : Event} (h : e.stage ≠ 0) : e.outcome? = none := by
  cases e with
  | resolved d r => exact absurd rfl h
  | supplied key r => exact absurd rfl h
  | _ => rfl

/-- What tells that something is used does not tell what comes of it. -/
theorem Event.outcome?_of_use {e : Event} {key : Key} (h : e.use? = some key) :
    e.outcome? = none := by
  cases e with
  | resolved d r => cases h
  | supplied key r => cases h
  | _ => rfl

/-- Whether an event tells of nothing but looking at classes and writing to the log. -/
def Event.isAside : Event → Bool
  | membersRead _ | logged _ => true
  | _ => false

/-- Whether an event tells of nothing but reading the members of a class and building its
catalog. -/
def Event.isReading : Event → Bool
  | membersRead _ | logged (.catalogBuilt ..) => true
  | _ => false

/-- Readings are asides, and no marks. -/
theorem Event.aside_of_isReading {e : Event} (h : e.isReading = true) :
    e.isAside = true ∧ e.isMark = false := by
  unfold isReading at h
  split at h
  · exact ⟨rfl, rfl⟩
  · exact ⟨rfl, rfl⟩
  · cases h

/-- What becomes of an object: it is of the same class, what happened to it is added to its history,
and it keeps its parts. -/
structure Object.ProlongedBy (o o' : Object) : Prop where
  /-- The class is the same. -/
  cls : o'.cls = o.cls
  /-- The history goes on. -/
  history : o.history <+: o'.history
  /-- The parts are kept. -/
  parts : ∀ cls part, o.parts.get? cls = some part → o'.parts.get? cls = some part

/-- A thing that is made has no parts. -/
def Thing.IsBare : Thing → Prop
  | .object o => o.parts = ∅
  | .service => True

/-- The state with another world. -/
def State.inWorld (s : State) (w : World) : State := { s with world := w }

/-- A small change of the state of a container, where instances of which `ok` holds may be
kept. -/
inductive Effect (c : Container) (ok : Instance → Prop) (s : State) : State → Prop where
  /-- An entry in the journal that is not a mark. -/
  | emit (e : Event) : e.isMark = false → Effect c ok s (s.inWorld (s.world.emit e))
  /-- A value is wrapped. -/
  | wrap (v : Value) : Effect c ok s (s.inWorld (s.world.wrap v).2)
  /-- A thing comes to be that has no parts. -/
  | thing (t : Thing) : t.IsBare →
    Effect c ok s (s.inWorld { s.world with things := s.world.things.push t })
  /-- An object goes on; the parts that it gets are objects. -/
  | object (id : Nat) (f : Object → Object) :
    (∀ o, s.world.object? id = some o → o.ProlongedBy (f o)) →
    (∀ o cls part, (f o).parts.get? cls = some part →
      o.parts.get? cls = some part ∨ ∃ o', s.world.object? part = some o') →
    Effect c ok s (s.inWorld (s.world.modifyObject id f))
  /-- A request comes to be that has no parameters and belongs to no session. -/
  | request (method path : String) :
    Effect c ok s (s.inWorld (s.world.addRequest (.new method path)).2)
  /-- A response comes to be. -/
  | response (r : Response) : Effect c ok s (s.inWorld (s.world.addResponse r).2)
  /-- A session comes to be. -/
  | session : Effect c ok s (s.inWorld s.world.addSession.2)
  /-- A request that belongs to no session joins a new one. -/
  | join (request : Nat) : (s.world.request request).session = none →
    Effect c ok s (s.inWorld (s.world.addSession.2.modifyRequest request fun r =>
      { r with session := some s.world.sessions.size }))
  /-- A request or a session begins to keep an instance. -/
  | keep (k : World.Keeper) (key : Key) (i : Instance) : ok i →
    (s.world.attributes k).get? key = none →
    Effect c ok s (s.inWorld (s.world.setAttribute k key i))
  /-- A context begins to keep an instance. -/
  | context (name : String) (key : Key) (i : Instance) : ok i →
    Effect c ok s (s.inWorld (s.world.keepInContext name key i))
  /-- A catalog is kept. -/
  | catalog (cls : ClassPath) (cat : Catalog) : s.memory.catalogs.get? cls = none →
    c.classes.catalog cls = .ok cat →
    Effect c ok s { s with
      memory := { s.memory with catalogs := s.memory.catalogs.insert cls cat } }
  /-- The call of a provider is counted. -/
  | countCall (key : Key) : Effect c ok s { s with memory := s.memory.countCall key }

/-- The things that a container and its world refer to. -/
inductive Container.Mentions (c : Container) (s : State) (id : Nat) : Prop where
  /-- A singleton. -/
  | slot {key : Key} {i : Instance} : s.memory.slots.get? key = some (.full i) →
    i.value.thing? = some id → Mentions c s id
  /-- The object of a deferred binding. -/
  | deferred {key : Key} {i : Instance} : s.memory.readiness key = .ready i →
    i.value.thing? = some id → Mentions c s id
  /-- An instance that a request or a session keeps. -/
  | kept {k : World.Keeper} {key : Key} {i : Instance} :
    (s.world.attributes k).get? key = some i → i.value.thing? = some id → Mentions c s id
  /-- An instance that a context keeps. -/
  | context {name : String} {key : Key} {i : Instance} :
    (s.world.context name).kept.get? key = some i → i.value.thing? = some id → Mentions c s id
  /-- An instance that is bound. -/
  | given {b : Binding} {i : Instance} : c.registry.lookup b.key = some b →
    b.source = .given i → i.value.thing? = some id → Mentions c s id
  /-- An object whose members are to be injected. -/
  | subject {b : Binding} {d : Deferral} {cls : ClassPath} : c.registry.lookup b.key = some b →
    b.source.deferral = some d → d.subject = .existing cls id → Mentions c s id

/-! ### Objects -/

namespace Object

/-- An object to which a call happens goes on. -/
theorem prolongedBy_record (o : Object) (call : Call) :
    o.ProlongedBy { o with history := o.history ++ [call] } :=
  ⟨rfl, List.prefix_append _ _, fun _ _ h => h⟩

/-- An object that supplies something goes on. -/
theorem prolongedBy_countSupply (o : Object) :
    o.ProlongedBy { o with supplied := o.supplied + 1 } := ⟨rfl, List.prefix_rfl, fun _ _ h => h⟩

/-- The parts of an object that gets one are those that it had, and the new one. -/
theorem get?_insert_part {o : Object} {cls other : ClassPath} {part new : Nat}
    (h : (o.parts.insert cls new).get? other = some part) :
    o.parts.get? other = some part ∨ new = part := by
  rw [Table.get?_insert] at h
  split at h
  · exact .inr (Option.some.inj h)
  · exact .inl h

end Object

namespace World

/-- The objects after a thing is added are those that were there, and the new one. -/
theorem object?_push {w : World} {t : Thing} {id : Nat} {o : Object}
    (h : World.object? { w with things := w.things.push t } id = some o) :
    w.object? id = some o ∨ t = .object o := by
  unfold object? at h ⊢
  rw [Array.getElem?_push] at h
  by_cases hid : id = w.things.size
  · rw [if_pos hid] at h
    cases t with
    | object o' => exact .inr (congrArg Thing.object (Option.some.inj h))
    | service => cases h
  · rw [if_neg hid] at h
    exact .inl h

/-- The objects after one is made are those that were there, and the new one without parts. -/
theorem object?_makeObject {w : World} {cls : ClassPath} {id : Nat} {o : Object}
    (h : (w.makeObject cls).2.object? id = some o) :
    w.object? id = some o ∨ o = ⟨cls, [], ∅, 0⟩ :=
  (object?_push h).imp_right fun ho => (Thing.object.inj ho).symm

/-- An object that is added is there. -/
theorem object?_addObject_self (w : World) (cls : ClassPath) (history : List Call) :
    (w.addObject cls history ∅).2.object? w.things.size = some ⟨cls, history, ∅, 0⟩ := by
  simp [object?, addObject]

/-- An object that has been made has no history and no parts. -/
theorem object?_makeObject_self (w : World) (cls : ClassPath) :
    (w.makeObject cls).2.object? w.things.size = some ⟨cls, [], ∅, 0⟩ :=
  w.object?_addObject_self cls []

/-- An object goes on when it gets a part of a class of which it has none. -/
theorem prolongedBy_insert_part {w : World} {cls cls' : ClassPath} {id part : Nat} {o : Object}
    (hnone : (w.object? id).bind (·.parts.get? cls) = none)
    (ho : (w.makeObject cls').2.object? id = some o) :
    o.ProlongedBy { o with parts := o.parts.insert cls part } := by
  refine ⟨rfl, List.prefix_rfl, fun other part hpart => ?_⟩
  rw [Table.get?_insert_of_ne]
  · exact hpart
  · rintro rfl
    rcases object?_makeObject ho with ho | rfl
    · rw [ho, Option.bind_some, hpart] at hnone
      cases hnone
    · cases hpart

end World

/-! ### What is kept for requests and sessions -/

namespace World

/-- Changing an entry into itself changes nothing. -/
theorem modify_eq_self {α : Type} {as : Array α} {n : Nat} {f : α → α}
    (h : ∀ hn : n < as.size, f as[n] = as[n]) : as.modify n f = as := by
  apply Array.ext (by simp)
  intro m h1 h2
  rw [Array.getElem_modify]
  split
  · subst n
    exact h h2
  · rfl

/-- Only the changed entry matters for how it is changed. -/
theorem modify_congr {α : Type} {as : Array α} {n : Nat} {f g : α → α}
    (h : ∀ hn : n < as.size, f as[n] = g as[n]) : as.modify n f = as.modify n g := by
  apply Array.ext (by simp)
  intro m h1 h2
  have h3 : m < as.size := by simpa using h1
  rw [Array.getElem_modify, Array.getElem_modify]
  split
  · subst n
    exact h h3
  · rfl

/-- Replacing what is kept by what it is changes nothing. -/
theorem modifyAttributes_self (w : World) (k : Keeper) :
    (w.modifyAttributes k fun _ => w.attributes k) = w := by
  cases k with
  | request id =>
    rw [modifyAttributes, modifyRequest, modify_eq_self fun hn => by simp [attributes, request, hn]]
  | session id =>
    rw [modifyAttributes, modifySession, modify_eq_self fun hn => by simp [attributes, session, hn]]

/-- What is kept is replaced by a change of it. -/
theorem modifyAttributes_const (w : World) (k : Keeper) (f : Attributes → Attributes) :
    (w.modifyAttributes k fun _ => f (w.attributes k)) = w.modifyAttributes k f := by
  cases k with
  | request id =>
    refine congrArg (fun rs => { w with requests := rs }) (modify_congr fun hn => ?_)
    simp [attributes, request, hn]
  | session id =>
    refine congrArg (fun ss => { w with sessions := ss }) (modify_congr fun hn => ?_)
    simp [attributes, session, hn]

/-- An instance that is kept already is not replaced. -/
theorem attributeOrInsert_of_some {w : World} {k : Keeper} {key : Key} {kept : Instance}
    (h : (w.attributes k).get? key = some kept) (i : Instance) :
    w.attributeOrInsert k key i = (kept, w) := by
  simp only [attributeOrInsert, Attributes.getOrInsert, h]
  rw [modifyAttributes_self]

/-- An instance is kept if there is none. -/
theorem attributeOrInsert_of_none {w : World} {k : Keeper} {key : Key}
    (h : (w.attributes k).get? key = none) (i : Instance) :
    w.attributeOrInsert k key i = (i, w.setAttribute k key i) := by
  simp only [attributeOrInsert, Attributes.getOrInsert, h, setAttribute]
  rw [w.modifyAttributes_const k (·.insert key i)]

/-- Setting an attribute touches nothing but requests and sessions. -/
theorem journal_setAttribute (w : World) (k : Keeper) (key : Key) (i : Instance) :
    (w.setAttribute k key i).journal = w.journal := by cases k <;> rfl

/-- Attributes are no things. -/
theorem things_setAttribute (w : World) (k : Keeper) (key : Key) (i : Instance) :
    (w.setAttribute k key i).things = w.things := by cases k <;> rfl

/-- Attributes are not kept in contexts. -/
theorem contexts_setAttribute (w : World) (k : Keeper) (key : Key) (i : Instance) :
    (w.setAttribute k key i).contexts = w.contexts := by cases k <;> rfl

end World

namespace Discipline

variable {D : Discipline}

/-- A state develops into another that satisfies the invariant. -/
def Moves (D : Discipline) (s s' : State) : Prop := D.Inv s' ∧ D.Step s s'

theorem Moves.trans {s t u : State} (h : D.Moves s t) (h' : D.Moves t u) : D.Moves s u :=
  ⟨h'.1, D.trans h.2 h'.2⟩

/-- A question that touches the notebook in an admitted way. -/
theorem note {α : Type} {f : Notebook → α × Notebook}
    (hf : ∀ s, D.Inv s → D.Moves s (s.withNotebook (f s.notebook).2)) : D.Allows (.note f) := by
  intro s hs _ r s' hx
  cases hx
  obtain ⟨hs', hstep⟩ := hf s hs
  exact ⟨hs', hstep, fun _ _ => trivial⟩

/-- Asking about all elements of a list, one after another, keeps to a discipline if each question
does. -/
theorem all {α : Type} {f : α → Notebook → Bool × Notebook}
    (hf : ∀ a s, D.Inv s → D.Moves s (s.withNotebook (f a s.notebook).2)) (as : List α)
    {s : State} (hs : D.Inv s) :
    D.Moves s (s.withNotebook (Notebook.all f as s.notebook).2) := by
  induction as generalizing s with
  | nil => exact ⟨hs, D.refl s⟩
  | cons a as ih =>
    have h1 := hf a s hs
    unfold Notebook.all
    rcases hr : f a s.notebook with ⟨_ | _, nb⟩
    · rw [hr] at h1
      exact h1
    · rw [hr] at h1
      exact h1.trans (ih h1.1)

/-- So does looking for the first one of which something does not hold. -/
theorem firstFailing {α : Type} {f : α → Notebook → Bool × Notebook}
    (hf : ∀ a s, D.Inv s → D.Moves s (s.withNotebook (f a s.notebook).2)) (as : List α)
    {s : State} (hs : D.Inv s) :
    D.Moves s (s.withNotebook (Notebook.firstFailing f as s.notebook).2) := by
  induction as generalizing s with
  | nil => exact ⟨hs, D.refl s⟩
  | cons a as ih =>
    have h1 := hf a s hs
    unfold Notebook.firstFailing
    rcases hr : f a s.notebook with ⟨_ | _, nb⟩
    · rw [hr] at h1
      exact h1
    · rw [hr] at h1
      exact h1.trans (ih h1.1)

/-- A discipline admits looking for catalogs. -/
structure AdmitsReading (D : Discipline) (c : Container) : Prop where
  /-- Entries about reading member tables and building catalogs are admitted. -/
  read : ∀ {s : State}, D.Inv s → ∀ e : Event, e.isReading = true →
    D.Moves s (s.inWorld (s.world.emit e))
  /-- Keeping catalogs of the class table is admitted. -/
  keep : ∀ {s : State}, D.Inv s → ∀ cls cat, s.memory.catalogs.get? cls = none →
    c.classes.catalog cls = .ok cat →
    D.Moves s { s with memory := { s.memory with catalogs := s.memory.catalogs.insert cls cat } }

/-- A discipline admits looking for catalogs and writing to the log. -/
structure AdmitsLooks (D : Discipline) (c : Container) : Prop extends D.AdmitsReading c where
  /-- Reading member tables and writing to the log is admitted. -/
  emit : ∀ {s : State}, D.Inv s → ∀ e : Event, e.isAside = true → e.isMark = false →
    D.Moves s (s.inWorld (s.world.emit e))
  read hs e he := emit hs e (Event.aside_of_isReading he).1 (Event.aside_of_isReading he).2

namespace AdmitsReading

variable {c : Container} (h : D.AdmitsReading c) {s : State}
include h

/-- Consulting the tables of classes keeps to a discipline that permits it. -/
theorem consult (hs : D.Inv s) (cls : ClassPath) :
    D.Moves s (s.withNotebook (c.classes.consult cls s.notebook)) := by
  have hfold : ∀ (l : List ClassPath) (s : State), D.Inv s →
      D.Moves s (s.withNotebook (l.foldl (fun nb c => nb.emit (.membersRead c)) s.notebook)) := by
    intro l
    induction l with
    | nil => exact fun s hs => ⟨hs, D.refl s⟩
    | cons a l ih =>
      intro s hs
      have h1 := h.read hs (.membersRead a) rfl
      exact h1.trans (ih _ h1.1)
  exact hfold _ s hs

/-- So does looking up a catalog. -/
theorem catalogOf (hs : D.Inv s) (cls : ClassPath) :
    D.Moves s (s.withNotebook (catalogOf c.classes cls s.notebook).2) := by
  unfold Wiring.catalogOf
  cases hk : s.notebook.catalogs.get? cls with
  | some cat => exact ⟨hs, D.refl s⟩
  | none =>
    have h1 := h.consult hs cls
    simp only [ClassTable.newCatalog]
    cases hb : Catalog.build cls (c.classes.members cls) with
    | error e => exact h1
    | ok cat =>
      have h2 := h.read h1.1
        (.logged (.catalogBuilt cls cat.instancePoints.length cat.staticPoints.length)) rfl
      have hnone : (c.classes.consult cls s.notebook).catalogs.get? cls = none := by
        rw [ClassTable.catalogs_consult, hk]
      exact (h1.trans h2).trans (h.keep h2.1 cls cat hnone hb)

/-- One step of the check of availability. -/
theorem availableWithin_step (hs : D.Inv s) {depth : Nat} {path : List ClassPath} {d : Dependency}
    (hnext : ∀ n path e s, depth = n + 1 → D.Inv s →
      D.Moves s (s.withNotebook (c.availableWithin n path e s.notebook).2)) :
    D.Moves s (s.withNotebook (c.availableWithin depth path d s.notebook).2) := by
  have hrefl : D.Moves s (s.withNotebook s.notebook) := ⟨hs, D.refl s⟩
  rw [Container.availableWithin.eq_def]
  dsimp only
  split
  · exact hrefl
  cases c.justInTime d with
  | none => exact hrefl
  | some cls =>
    have h1 := h.catalogOf hs cls
    dsimp only
    generalize Wiring.catalogOf c.classes cls s.notebook = p at h1
    obtain ⟨_ | cat, nb⟩ := p
    · exact h1
    cases hm : cat.constructor with
    | none => simpa only [hm] using h1
    | some m =>
      simp only [hm]
      split
      · exact h1
      cases depth with
      | zero => exact h1
      | succ n => exact h1.trans (all (fun e s hs => hnext n _ e s rfl hs) _ h1.1)

/-- So does asking what is available within a depth. -/
theorem availableWithin (hs : D.Inv s) (depth : Nat) (path : List ClassPath) (d : Dependency) :
    D.Moves s (s.withNotebook (c.availableWithin depth path d s.notebook).2) := by
  induction depth generalizing path d s with
  | zero => exact h.availableWithin_step hs fun _ _ _ _ hn => by cases hn
  | succ n ih =>
    refine h.availableWithin_step hs fun m path e s hm hs => ?_
    obtain rfl : n = m := by omega
    exact ih hs path e

/-- It may be asked what can be resolved. -/
theorem canResolve (d : Dependency) : D.Allows (c.canResolve d) :=
  note fun _ hs => h.availableWithin hs _ [] d

/-- The first dependency that is not available may be looked for. -/
theorem firstUnavailable (ds : List Dependency) : D.Allows (c.firstUnavailable ds) :=
  note fun _ hs => firstFailing (fun d _ hs => h.availableWithin hs _ [] d) ds hs

/-- Catalogs may be looked up. -/
theorem catalog (cls : ClassPath) : D.Allows (c.catalog cls) :=
  (note fun _ hs => h.catalogOf hs cls).bind fun _ => Ensures.ofExcept fun _ _ _ _ => trivial

end AdmitsReading

end Discipline

/-! ### Changes -/

/-- Where fewer instances may be kept, more may be. -/
theorem Effect.mono {c : Container} {ok ok' : Instance → Prop} {s s' : State}
    (h : Effect c ok s s') (hok : ∀ i, ok i → ok' i) : Effect c ok' s s' := by
  cases h with
  | emit e he => exact .emit e he
  | wrap v => exact .wrap v
  | thing t hbare => exact .thing t hbare
  | object id f hgoes hnew => exact .object id f hgoes hnew
  | request method path => exact .request method path
  | response r => exact .response r
  | session => exact .session
  | join request hnone => exact .join request hnone
  | keep k key i hi hk => exact .keep k key i (hok i hi) hk
  | context name key i hi => exact .context name key i (hok i hi)
  | catalog cls cat hnone hcat => exact .catalog cls cat hnone hcat
  | countCall key => exact .countCall key

namespace Container

/-- Effects one after another, by which nothing begins to be kept. -/
def Changes (c : Container) : State → State → Prop := ReflTransGen (Effect c fun _ => False)

variable (c : Container) (s : State)

/-- The discipline of making changes. -/
def changing : Discipline where
  Inv _ := True
  Step := c.Changes
  Known _ _ := True
  refl _ := .refl
  trans := .trans
  known_step _ h := h

/-- Looking for catalogs makes changes. -/
theorem admitsLooks_changing : c.changing.AdmitsLooks c where
  emit _ e _ he := ⟨trivial, .single (.emit e he)⟩
  keep _ cls cat hnone hcat := ⟨trivial, .single (.catalog cls cat hnone hcat)⟩

/-- Looking up a catalog changes the notebook only. -/
theorem changes_catalogOf (cls : ClassPath) :
    c.Changes s (s.withNotebook (catalogOf c.classes cls s.notebook).2) :=
  (c.admitsLooks_changing.catalogOf trivial cls).2

/-- So does asking what is available. -/
theorem changes_available (d : Dependency) :
    c.Changes s (s.withNotebook (c.available d s.notebook).2) :=
  (c.admitsLooks_changing.availableWithin trivial _ _ d).2

/-- So does looking for the first dependency that is not available. -/
theorem changes_firstUnavailable (ds : List Dependency) :
    c.Changes s (s.withNotebook (Notebook.firstFailing c.available ds s.notebook).2) :=
  (Discipline.firstFailing (D := c.changing) (fun d s _ => ⟨trivial, c.changes_available s d⟩) ds
    trivial).2

/-- Adding an object is a change. -/
theorem changes_addObject (cls : ClassPath) (history : List Call) :
    c.Changes s (s.inWorld (s.world.addObject cls history ∅).2) := .single (.thing _ rfl)

/-- So is making an object, which is told in the journal. -/
theorem changes_makeObject (cls : ClassPath) :
    c.Changes s (s.inWorld (s.world.makeObject cls).2) :=
  (c.changes_addObject s cls []).tail (.emit (.objectMade cls s.world.things.size) rfl)

/-- So is making a service. -/
theorem changes_makeService (label : String) :
    c.Changes s (s.inWorld (s.world.makeService label).2) :=
  (ReflTransGen.single (.thing .service trivial)).tail
    (.emit (.serviceMade label s.world.things.size) rfl)

/-- So is making a value for a label, if anything has to be made. -/
theorem changes_make (ty : Ty) (label : String) :
    c.Changes s (s.inWorld (s.world.make ty label).2) := by
  cases ty with
  | component cls => exact c.changes_makeObject s cls
  | interface iface => exact c.changes_makeService s label
  | text => exact .refl
  | number => exact .refl
  | request => exact .single (.request _ _)
  | response => exact .single (.response _)
  | session => exact .single .session
  | parameters => exact .refl

/-- So is making an instance. -/
theorem changes_makeInstance (ty : Ty) (label : String) :
    c.Changes s (s.inWorld (s.world.makeInstance ty label).2) :=
  (c.changes_make s ty label).tail (.wrap _)

/-- So is recording a call. -/
theorem changes_record (id : Nat) (call : Call) :
    c.Changes s (s.inWorld (s.world.record id call)) :=
  .single (.object id _ (fun o _ => o.prolongedBy_record call) fun _ _ _ hpart => .inl hpart)

/-- So is calling an object as a provider. -/
theorem changes_countSupply (id : Nat) :
    c.Changes s (s.inWorld (s.world.countSupply id).2) :=
  .single (.object id _ (fun o _ => o.prolongedBy_countSupply) fun _ _ _ hpart => .inl hpart)

/-- So is looking for a part, which is made if it is not there. -/
theorem changes_partOf (id : Nat) (cls : ClassPath) :
    c.Changes s (s.inWorld (s.world.partOf id cls).2) := by
  unfold World.partOf
  split
  · exact .refl
  · next hnone =>
    refine (c.changes_makeObject s cls).tail (.object id _
      (fun o ho => World.prolongedBy_insert_part hnone ho) fun o other part hpart => ?_)
    rcases Object.get?_insert_part hpart with hpart | rfl
    · exact .inl hpart
    · exact .inr ⟨_, s.world.object?_makeObject_self cls⟩

/-- So is following a path of parts. -/
theorem changes_partAlong (id : Nat) (path : List ClassPath) :
    c.Changes s (s.inWorld (s.world.partAlong id path).2) := by
  induction path generalizing s id with
  | nil => exact .refl
  | cons cls path ih =>
    exact (c.changes_partOf s id cls).trans
      (ih (s.inWorld (s.world.partOf id cls).2) (s.world.partOf id cls).1)

/-- So is looking for the session of a request, which is opened if there is none. -/
theorem changes_sessionOf (request : Nat) :
    c.Changes s (s.inWorld (s.world.sessionOf request).2) := by
  unfold World.sessionOf
  split
  · exact .refl
  · next hnone =>
    exact (ReflTransGen.single (.join request hnone)).tail (.emit (.logged .sessionCreated) rfl)

end Container

namespace Discipline

variable {D : Discipline}

/-- A discipline admits the effects of a container. -/
structure Admits (D : Discipline) (c : Container) : Prop where
  /-- Effects that keep instances of known things are admitted. -/
  effect : ∀ {s s' : State}, D.Inv s → Effect c (D.Knows s) s s' → D.Moves s s'
  /-- A new thing is known. -/
  fresh : ∀ {s : State} (t : Thing), D.Inv s →
    D.Known (s.inWorld { s.world with things := s.world.things.push t }) s.world.things.size
  /-- Things that are referred to are known. -/
  mentioned : ∀ {s : State} {id : Nat}, D.Inv s → c.Mentions s id → D.Known s id

namespace Admits

variable {c : Container} (h : D.Admits c) {s : State}
include h

/-- Looking for catalogs is one of the effects. -/
theorem looks : D.AdmitsLooks c where
  emit hs e _ he := h.effect hs (.emit e he)
  keep hs cls cat hnone hcat := h.effect hs (.catalog cls cat hnone hcat)

/-- What is put together from effects is admitted. -/
theorem changes (hs : D.Inv s) {s' : State} (hc : c.Changes s s') : D.Moves s s' := by
  induction hc with
  | refl => exact ⟨hs, D.refl s⟩
  | tail _ heffect ih => exact ih.trans (h.effect ih.1 (heffect.mono fun _ hi => hi.elim))

/-! ### Changes of the world -/

theorem emit {e : Event} (he : e.isMark = false) : D.Allows (.emit e) :=
  Ensures.change fun _ hs _ => h.effect hs (.emit e he)

theorem log (n : Notice) (hn : (Event.logged n).isMark = false) : D.Allows (.log n) :=
  h.emit hn

/-- A discipline that admits effects admits new objects. -/
theorem addObject (hs : D.Inv s) (cls : ClassPath) (history : List Call) :
    D.Moves s (s.inWorld (s.world.addObject cls history ∅).2) ∧
      D.Known (s.inWorld (s.world.addObject cls history ∅).2) s.world.things.size :=
  ⟨h.changes hs (c.changes_addObject s cls history), h.fresh _ hs⟩

/-- So it does if objects are made with an entry in the journal. -/
theorem makeObject (hs : D.Inv s) (cls : ClassPath) :
    D.Moves s (s.inWorld (s.world.makeObject cls).2) ∧
      D.Known (s.inWorld (s.world.makeObject cls).2) s.world.things.size := by
  obtain ⟨h1, hid⟩ := h.addObject hs cls []
  have h2 := h.effect h1.1 (.emit (.objectMade cls s.world.things.size) rfl)
  exact ⟨h1.trans h2, D.known_step h2.2 hid⟩

/-- It admits new services. -/
theorem makeService (hs : D.Inv s) (label : String) :
    D.Moves s (s.inWorld (s.world.makeService label).2) ∧
      D.Known (s.inWorld (s.world.makeService label).2) s.world.things.size := by
  have h1 := h.effect hs (.thing .service trivial)
  have h2 := h.effect h1.1 (.emit (.serviceMade label s.world.things.size) rfl)
  exact ⟨h1.trans h2, D.known_step h2.2 (h.fresh _ hs)⟩

/-- A value that is made refers to nothing but known things. -/
theorem known_make (hs : D.Inv s) (ty : Ty) (label : String) :
    ∀ id, (s.world.make ty label).1.thing? = some id →
      D.Known (s.inWorld (s.world.make ty label).2) id := by
  intro id heq
  cases ty with
  | component cls =>
    cases heq
    exact (h.makeObject hs cls).2
  | interface iface =>
    cases heq
    exact (h.makeService hs label).2
  | _ => cases heq

/-- It admits new instances for a label. -/
theorem makeInstance (ty : Ty) (label : String) : D.Gives (.act (·.makeInstance ty label)) := by
  refine Ensures.act fun s hs _ => ?_
  have h1 := h.changes hs (c.changes_make s ty label)
  have h2 := h.effect h1.1 (.wrap (s.world.make ty label).1)
  obtain ⟨hs', hstep⟩ := h1.trans h2
  exact ⟨hs', hstep, fun id hid => D.known_step h2.2 (h.known_make hs ty label id hid)⟩

/-- It admits that a request gets its session. -/
theorem sessionOf (hs : D.Inv s) (request : Nat) :
    D.Moves s (s.inWorld (s.world.sessionOf request).2) :=
  h.changes hs (c.changes_sessionOf s request)

/-- It admits that what is known is kept for requests and sessions. -/
theorem attributeOrInsert (k : World.Keeper) (key : Key) (i : Instance) :
    D.Ensures (D.Knows · i) (.act (·.attributeOrInsert k key i)) D.Knows := by
  refine Ensures.act fun s hs hi => ?_
  cases hk : (s.world.attributes k).get? key with
  | some kept =>
    rw [World.attributeOrInsert_of_some hk]
    exact ⟨hs, D.refl s, fun id hid => h.mentioned hs (.kept hk hid)⟩
  | none =>
    rw [World.attributeOrInsert_of_none hk]
    obtain ⟨hs', hstep⟩ := h.effect hs (.keep k key i hi hk)
    exact ⟨hs', hstep, hi.step hstep⟩

end Admits

end Discipline

end Wiring
