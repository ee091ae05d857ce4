import Wiring.Proofs.Sites
import Wiring.Proofs.Typing

/-!
# Soundness of Types

Where all containers of a site are those of typed modules and classes, whatever is kept under a key
is of the type of the key: by singletons, by deferred bindings, and by requests and sessions, which
may be shared by several containers. Each resolution comes to a value of the type of the key that is
asked for. So no container reports by itself that a value is of another type than the one asked for,
or that an argument is missing.

The types of what is kept are an invariant, and the entries in the journal that tell of outcomes
are a matter of how a state develops. Both are parts of one contract, `Container.typing`.

## Conventions

What is asked for as one of the type of its key is asked for by class, type, name or key, or through
a handle. The results do not matter for what is kept: it stays typed even if something is asked for
as one of another type, or if members are injected into an object of another class.

## Main statements

* `Container.HoldsTyped`: what a container and its world keep is typed.
* `Container.governsAll_typing`: what a typed container does keeps to the contract.
* `Container.Safe`: nothing that is done with a container leads to type errors.
* `Site.Reached.type_sound`: types are sound in all sites of typed containers.
-/

open Relation

namespace Wiring

/-! ### Contracts and their errors -/

namespace Contract

variable {K : Contract} {c : Container} {α : Type} {E : ConfigurationError → Prop}

/-- More errors may be reported. -/
theorem Meets.reporting {P : State → Prop} {V : State → α → Prop} {x : Run α}
    (h : K.Meets P x V) (hE : ∀ e, K.Error e → E e) : (K.reporting E).Meets P x V := by
  intro s hs hp
  have ho := h s hs hp
  generalize x s = o at ho ⊢
  rcases o with _ | ⟨e | a, t⟩
  · exact ho
  · exact ⟨ho.1, hE e ho.2⟩
  · exact ho

theorem Governs.reporting (h : K.Governs c) (hE : ∀ e, K.Error e → E e) :
    (K.reporting E).Governs c where
  faithful := h.faithful
  effect := h.effect
  held := h.held
  plain := h.plain
  fresh := h.fresh
  provided := h.provided
  provider := h.provider
  replaced := h.replaced
  lack e he hmisses := hE e (h.lack e he hmisses)
  mistyped hs hfits hne := hE _ (h.mistyped hs hfits hne)
  member hs hcat hm hsuits he := hE _ (h.member hs hcat hm hsuits he)
  failure hb hsource he := hE _ (h.failure hb hsource he)
  supply hsupply he := hE _ (h.supply hsupply he)

end Contract

/-! ### Typed states -/

/-- What a resolution of a key of type `ty` may come to: a value of this type, or an error that is
no type error. -/
def Answers (ty : Ty) : Except ConfigurationError Instance → Prop
  | .ok i => i.ty = ty
  | .error e => e.isTypeError = false

/-- The outcome that an event tells of, if any, is one that its key may come to. -/
def Event.IsTyped (e : Event) : Prop := ∀ key r, e.outcome? = some (key, r) → Answers key.ty r

theorem Event.isTyped_of_outcome?_eq_none {e : Event} (h : e.outcome? = none) : e.IsTyped :=
  fun _ _ hr => nomatch h.symm.trans hr

/-- Requests and sessions keep values of the types of the keys. -/
def World.KeepsTyped (w : World) : Prop :=
  ∀ (K : World.Keeper) key i, (w.attributes K).get? key = some i → i.ty = key.ty

namespace Container

variable {c : Container} {s s' : State}

/-- What a container and its world keep is of the types of the keys. -/
structure HoldsTyped (c : Container) (s : State) : Prop where
  /-- Singletons. -/
  slots : ∀ key i, s.memory.slots.get? key = some (.full i) → i.ty = key.ty
  /-- The objects of deferred bindings. -/
  deferred : ∀ (b : Binding) d i, c.registry.lookup b.key = some b → b.source.deferral = some d →
    s.memory.readiness b.key = .ready i → i.ty = .component d.subject.cls
  /-- What requests and sessions keep. -/
  kept : s.world.KeepsTyped

/-- A new container keeps nothing by itself. -/
theorem holdsTyped_initial {w : World} (hw : w.KeepsTyped) :
    c.HoldsTyped ⟨c.initialMemory, w⟩ where
  slots key i hi := by cases eq_empty_of_initialMemory hi
  deferred b d i _ _ hready := nomatch hready
  kept := hw

/-- The contract of keeping values of the types of their keys, and of coming to such values and to
no type errors. -/
def typing (c : Container) : Contract where
  Inv s := s.Faithful c ∧ c.HoldsTyped s
  Step s s' := ∃ es, s.Entered s' es ∧ ∀ e ∈ es, e.IsTyped
  total := False
  Error e := e.isTypeError = false
  Fits _ ty v := v.ty = ty
  refl s := ⟨[], State.Entered.refl s, fun _ he => nomatch he⟩
  trans := by
    rintro s t u ⟨es, hes, htyped⟩ ⟨fs, hfs, htyped'⟩
    exact ⟨es ++ fs, hes.trans hfs, fun e he =>
      (List.mem_append.mp he).elim (htyped e) (htyped' e)⟩
  fits_step _ h := h

/-- An entry that tells of no wrong outcome may be made. -/
theorem typing_emit {e : Event} (he : e.IsTyped) (hs : c.typing.Inv s) :
    c.typing.Moves s (s.inWorld (s.world.emit e)) := by
  refine ⟨⟨hs.1, hs.2.slots, hs.2.deferred, fun K key i hi => ?_⟩, [e], s.entered_emit e,
    fun e' he' => List.mem_singleton.mp he' ▸ he⟩
  rw [State.inWorld, World.attributes_emit] at hi
  exact hs.2.kept K key i hi

/-- What is held is of the type that it is held as. -/
theorem HoldsTyped.ty_eq (h : c.HoldsTyped s) (hc : c.IsTyped) {ty : Ty} {v : Value}
    (hv : c.Holds s ty v) : v.ty = ty := by
  cases hv with
  | slot hi => exact h.slots _ _ hi
  | deferred hb hd hi => exact h.deferred _ _ _ hb hd hi
  | kept hi => exact h.kept _ _ _ hi
  | context hb hscope _ =>
    have hplain := (hc.bindings _ hb).scope
    rw [hscope] at hplain
    cases hplain
  | @given b i hb hsource =>
    have htyped := (hc.bindings _ hb).source
    rw [hsource] at htyped
    exact htyped
  | subject => rfl

/-- An effect by which nothing begins to be kept keeps the types. -/
theorem HoldsTyped.effect (h : c.HoldsTyped s) (heffect : Effect c (fun _ => False) s s') :
    c.HoldsTyped s' where
  slots key i hi := h.slots key i (by rwa [← heffect.slots])
  deferred b d i hb hd hready := by
    refine h.deferred b d i hb hd ?_
    rwa [Memory.readiness, ← heffect.deferred]
  kept K key i hi := h.kept K key i (by rwa [← heffect.attributes])

/-- What a typed container does keeps to the contract, but for what it begins to keep. -/
theorem governs_typing (hc : c.IsTyped) : c.typing.Governs c where
  faithful hs := hs.1
  effect hs h := by
    obtain ⟨es, hes, hmark⟩ := h.entered
    have hfaithful := c.admitsAll_faithful.effect hs.1 (h.mono fun _ hi => hi.elim)
    exact ⟨⟨hfaithful.1, hs.2.effect h⟩, es, hes, fun e he =>
      Event.isTyped_of_outcome?_eq_none (Event.outcome?_of_not_isMark (hmark e he))⟩
  held hs hv := hs.2.ty_eq hc hv
  plain _ _ := rfl
  fresh _ _ _ := rfl
  provided _ hb hv := hv.trans (hc.providedTy hb)
  provider _ hb hsource hv := by
    have htyped := (hc.bindings _ hb).source
    rw [hsource] at htyped
    exact hv.trans htyped.1
  replaced _ hb hscope _ := by
    have hplain := (hc.bindings _ hb).scope
    rcases hscope with hscope | hscope
    all_goals
      rw [hscope] at hplain
      cases hplain
  lack _ he _ := ConfigurationError.isTypeError_of_isLack he
  mistyped _ hv hne := absurd hv hne
  member {s cls cat m values e} _ hcat hm hsuits he := by
    have htyped := (hc.classes cls).members m (ClassTable.mem_members hcat hm)
    refine htyped.error ?_ he
    exact List.forall₂_map_left_iff.mpr hsuits
  failure hb hsource he := by
    have htyped := (hc.bindings _ hb).source
    rw [hsource] at htyped
    exact htyped.2 _ _ he
  supply hsupply he := (hc.classes _).supply _ hsupply _ _ _ _ he

/-- A slot may be filled with a value of the type of its key. -/
theorem typing_slots (c : Container) : Contract.Compliance.SetsSlots c.typing := by
  intro s key cell hs hcell
  refine ⟨⟨hs.1, fun key' i hi => ?_, hs.2.deferred, hs.2.kept⟩, c.typing.refl s⟩
  rw [Memory.setSlot, Table.get?_insert] at hi
  split at hi
  · next heq =>
    cases hi
    exact heq ▸ hcell i rfl
  · exact hs.2.slots key' i hi

/-- An object of its class may become ready for a deferred binding. -/
theorem typing_readiness (c : Container) : Contract.Compliance.SetsReadiness c.typing c := by
  intro s b d r hb hd hs hr
  refine ⟨⟨hs.1, hs.2.slots, fun b' d' i hb' hd' hready => ?_, hs.2.kept⟩, c.typing.refl s⟩
  rw [Memory.readiness_setReadiness] at hready
  split at hready
  · next hkey =>
    rw [← hkey, hb] at hb'
    cases hb'
    cases hd.symm.trans hd'
    exact hr i hready
  · exact hs.2.deferred b' d' i hb' hd' hready

/-- A request or a session may begin to keep a value of the type of its key. -/
theorem typing_attributes (c : Container) : Contract.Compliance.KeepsAttributes c.typing := by
  intro s K key i hs _ hi
  refine ⟨⟨hs.1, hs.2.slots, hs.2.deferred, fun K' key' j hj => ?_⟩, [],
    s.entered_setAttribute K key i, fun _ he => nomatch he⟩
  rcases World.get?_attributes_setAttribute hj with ⟨rfl, rfl⟩ | hj
  · exact hi
  · exact hs.2.kept K' key' j hj

/-- What a context keeps does not matter. -/
theorem typing_contexts (c : Container) : Contract.Compliance.KeepsInContext c.typing := by
  intro s name key i hs _
  refine ⟨⟨hs.1, hs.2.slots, hs.2.deferred, fun K key' j hj => ?_⟩, [], State.Entered.refl s,
    fun _ he => nomatch he⟩
  exact hs.2.kept K key' j (by cases K <;> exact hj)

/-- What a typed container does keeps to the contract. -/
theorem governsAll_typing (hc : c.IsTyped) : c.typing.GovernsAll c :=
  { c.governs_typing hc with
    endless := fun h => h
    mark := fun {e s} _ htells hs => by
      refine typing_emit (fun key r hr => ?_) hs
      obtain ⟨hok, herror⟩ := htells key r hr
      cases r with
      | ok i => exact hok i rfl
      | error e => exact herror e rfl
    slots := c.typing_slots
    attributes := c.typing_attributes
    contexts := c.typing_contexts
    forces := fun hb hself =>
      Contract.Compliance.force (c.governs_typing hc) (fun h => h) c.typing_readiness hb
        (fun e he => Contract.Meets.change fun s hs _ =>
          typing_emit (Event.isTyped_of_outcome?_eq_none (Event.outcome?_of_use he)) hs) rfl hself }

/-! ### What is done with a container -/

/-- The ways to ask a container for an instance as one of the type of its key, with this type. -/
inductive Asks (c : Container) : Ty → Run Instance → Prop where
  /-- By class. -/
  | byClass {cls : ClassPath} : Asks c (.component cls) (c.getInstance cls)
  /-- By type. -/
  | byType {ty : Ty} : Asks c ty (c.get ty)
  /-- By type and name. -/
  | byName {ty : Ty} {name : String} : Asks c ty (c.getNamed ty name)
  /-- By key. -/
  | byKey {key : Key} : Asks c key.ty (c.getFor key.ty key)
  /-- Through a handle, each time it is used. -/
  | byHandle {d : Dependency} : Asks c d.key.ty (c.getAs d.key.ty d)

/-- Whatever the way, a dependency is resolved and used as a value of the type of its key. -/
theorem Asks.exists_eq {ty : Ty} {x : Run Instance} (h : c.Asks ty x) :
    ∃ d : Dependency, ty = d.key.ty ∧ x = c.getAs d.key.ty d := by
  cases h <;> exact ⟨_, rfl, rfl⟩

/-- What is done with a container in a state leads to values of the right types and to no type
errors, and what is kept stays typed. -/
structure Safe (c : Container) (s : State) : Prop where
  /-- Dependencies are resolved, be it for others along the way, where less depth is left. -/
  resolve : ∀ depth d r t, c.resolveWithin depth d s = some (r, t) →
    Answers d.key.ty r ∧ c.HoldsTyped t
  /-- Instances are asked for. -/
  ask : ∀ ty x r t, c.Asks ty x → x s = some (r, t) → Answers ty r ∧ c.HoldsTyped t
  /-- Members are injected into an object of their class. -/
  inject : ∀ cls id r t, c.injectMembers cls cls id s = some (r, t) →
    (∀ e, r = .error e → e.isTypeError = false) ∧ c.HoldsTyped t

/-- What a run comes to that keeps to the contract. -/
theorem answers_of_gives {ty : Ty} {x : Run Instance} (h : c.typing.Gives ty x)
    (hs : c.typing.Inv s) {r : Except ConfigurationError Instance} (hx : x s = some (r, s')) :
    Answers ty r ∧ c.HoldsTyped s' := by
  refine ⟨?_, (h.moves hs trivial hx).1.2⟩
  cases r with
  | ok i => exact h.ok hs trivial hx
  | error e => exact h.error hs trivial hx

/-- A typed container is safe wherever what it keeps is typed. -/
theorem IsTyped.safe (hc : c.IsTyped) (hs : c.typing.Inv s) : c.Safe s where
  resolve depth d _ _ := answers_of_gives ((c.governsAll_typing hc).resolveWithin depth d) hs
  ask ty x r t hasks hx := by
    obtain ⟨d, rfl, rfl⟩ := hasks.exists_eq
    have hall := c.governsAll_typing hc
    exact answers_of_gives (Contract.Compliance.getAs hall.toGoverns (hall.resolve d)) hs hx
  inject cls id r t hx := by
    have hall := c.governsAll_typing hc
    have hinject := Contract.Compliance.injectObject hall.toGoverns (fun e _ => hall.resolve e)
      (fun hne : cls ≠ cls => absurd rfl hne) id
    exact ⟨fun e he => hinject.error hs trivial (he ▸ hx), (hinject.moves hs trivial hx).1.2⟩

/-- A build of a typed container comes to no type error, and wraps none. -/
theorem typing_start (hc : c.IsTyped) : c.typing.Allows c.start :=
  (c.governsAll_typing hc).start fun step _ he => by cases step <;> exact he

/-- What is kept stays typed, whatever is done with a typed container. -/
theorem Operates.typing (h : c.Operates s s') (hc : c.IsTyped) (hs : c.typing.Inv s) :
    c.typing.Moves s s' := by
  have hall := c.governsAll_typing hc
  exact h.follows (K := c.typing.reporting fun _ => True)
    (hall.toGoverns.reporting fun _ _ => trivial)
    (fun d => (hall.resolve d).reporting fun _ _ => trivial) (fun _ _ => trivial) hs

end Container

/-! ### Sites -/

namespace Site

variable {site site' : Site} {n : Nat} {c : Container} {m : Memory} {es : List Event}

/-- What is known of the types in a site of typed containers. -/
structure IsTyped (site : Site) : Prop where
  /-- Each container is typed, and keeps what is typed. -/
  containers : ∀ (n : Nat) (c : Container) (m : Memory), site.containers[n]? = some ⟨c, m⟩ →
    c.IsTyped ∧ c.typing.Inv ⟨m, site.world⟩
  /-- So do requests and sessions. -/
  kept : site.world.KeepsTyped
  /-- All outcomes were those that their keys may come to. -/
  history : ∀ v ∈ site.history, v.event.IsTyped

/-- What a container did keeps the types, also for the other containers. -/
theorem IsTyped.record (h : site.IsTyped) (hn : site.containers[n]? = some ⟨c, m⟩) {s : State}
    (hmoves : c.typing.Moves ⟨m, site.world⟩ s) (hes : State.Entered ⟨m, site.world⟩ s es) :
    (site.record n c s es).IsTyped where
  containers k c' m' hk := by
    rcases eq_or_getElem?_of_set hk with ⟨rfl, heq⟩ | hk
    · cases heq
      exact ⟨(h.containers k c m hn).1, hmoves.1⟩
    · obtain ⟨hc, hfaithful, hholds⟩ := h.containers k c' m' hk
      exact ⟨hc, hfaithful, hholds.slots, hholds.deferred, hmoves.1.2.kept⟩
  kept := hmoves.1.2.kept
  history v hv := by
    rcases List.mem_append.mp hv with hv | hv
    · exact h.history v hv
    · obtain ⟨e, he, rfl⟩ := List.mem_map.mp hv
      obtain ⟨es', hes', htyped⟩ := hmoves.2
      exact htyped e (hes.unique hes' ▸ he)

/-- A new typed container may be added. -/
theorem IsTyped.add (h : site.IsTyped) (hc : c.IsTyped) : (site.add c).IsTyped where
  containers k c' m' hk := by
    rcases eq_or_getElem?_of_concat hk with heq | hk
    · cases heq
      exact ⟨hc, c.faithful_initial _, Container.holdsTyped_initial h.kept⟩
    · exact h.containers k c' m' hk
  kept := h.kept
  history := h.history

/-- The types are kept at each step. -/
theorem IsTyped.step (h : site.IsTyped) (hstep : Step Container.FromTyped site site') :
    site'.IsTyped := by
  cases hstep with
  | @build c r s es hc hrun hes =>
    have hadd := h.add hc.isTyped
    have hn := site.getElem?_add c
    have hmoves := (Container.typing_start hc.isTyped).moves (hadd.containers _ _ _ hn).2 trivial
      hrun
    rw [← record_add]
    exact hadd.record hn hmoves hes
  | @operate n c m s es hn hop hes =>
    obtain ⟨hc, hinv⟩ := h.containers n c m hn
    exact h.record hn (hop.typing hc hinv) hes
  | @elapse w hw =>
    have hkept : w.KeepsTyped := fun K key i hi => h.kept K key i (by rwa [← hw.attributes])
    refine ⟨fun n c m hn => ?_, hkept, h.history⟩
    obtain ⟨hc, hfaithful, hholds⟩ := h.containers n c m hn
    exact ⟨hc, hfaithful, hholds.slots, hholds.deferred, hkept⟩

/-- The types are right in all sites that can come to be. -/
theorem Reached.isTyped (h : Reached Container.FromTyped site) : site.IsTyped := by
  obtain ⟨w, -, hnothing, hsteps⟩ := h
  induction hsteps with
  | refl =>
    refine ⟨(fun n c m hn => nomatch hn), fun K key i hi => ?_, fun v hv => nomatch hv⟩
    rw [hnothing K] at hi
    cases hi
  | tail _ hstep ih => exact ih.step hstep

/-- Types are sound in a site. -/
structure TypeSound (site : Site) : Prop where
  /-- The slot of a singleton has a value of the type of its key. -/
  slots : ∀ (n : Nat) c m, site.containers[n]? = some ⟨c, m⟩ →
    ∀ key i, m.slots.get? key = some (.full i) → i.ty = key.ty
  /-- A deferred object that is ready is of the type of its key. -/
  deferred : ∀ (n : Nat) c m, site.containers[n]? = some ⟨c, m⟩ → ∀ (b : Binding) d i,
    c.registry.lookup b.key = some b → b.source = .injected d → m.readiness b.key = .ready i →
    i.ty = b.key.ty
  /-- A deferred provider that is ready is of its class, which supplies the type of its key. -/
  providers : ∀ (n : Nat) c m, site.containers[n]? = some ⟨c, m⟩ → ∀ (b : Binding) d ty i,
    c.registry.lookup b.key = some b → b.source = .injectedProvider d ty →
    m.readiness b.key = .ready i →
    i.ty = .component d.subject.cls ∧ c.classes.suppliedBy d.subject.cls ty = b.key.ty
  /-- What a request or a session keeps is of the type of its key, whichever container it is
  from. -/
  attributes : ∀ (K : World.Keeper) key i, (site.world.attributes K).get? key = some i →
    i.ty = key.ty
  /-- All resolutions so far, nested ones too, came to values of the types of their keys, or to
  errors that are no type errors. -/
  results : ∀ v ∈ site.history, ∀ d r, v.event = .resolved d r → Answers d.key.ty r
  /-- So does whatever is done next. -/
  safe : ∀ (n : Nat) c m, site.containers[n]? = some ⟨c, m⟩ → c.Safe ⟨m, site.world⟩
  /-- So does whatever is done along the way, for the states that it leaves behind are typed as
  well. -/
  along : ∀ (n : Nat) c m, site.containers[n]? = some ⟨c, m⟩ →
    ∀ s, s.Faithful c → c.HoldsTyped s → c.Safe s
  /-- This includes builds of further containers. -/
  builds : ∀ (config : ContainerConfig) (ss : List Statement) (classes : ClassTable) e w,
    (∀ s ∈ ss, s.IsTyped classes) → classes.IsTyped →
    ((Builder.ofConfig config).install ss site.world).1.build classes
      ((Builder.ofConfig config).install ss site.world).2 = some (.error e, w) →
    e.isTypeError = false

/-- **Types are sound.** In each site whose containers are those of typed modules and classes, what
is kept under a key is of the type of the key, resolutions come to values of the types that are
asked for, and neither they nor builds come to type errors. -/
theorem Reached.type_sound (h : Reached Container.FromTyped site) : site.TypeSound := by
  have htyped := h.isTyped
  refine ⟨fun n c m hn => ?_, fun n c m hn b d i hb hsource hready => ?_,
    fun n c m hn b d ty i hb hsource hready => ?_, htyped.kept, fun v hv d r he => ?_,
    fun n c m hn => ?_, fun n c m hn s hs hholds => ?_,
    fun config ss classes e w hss hclasses hbuild => ?_⟩
  · exact (htyped.containers n c m hn).2.2.slots
  · obtain ⟨hc, -, hholds⟩ := htyped.containers n c m hn
    have hobject := hholds.deferred b d i hb (by rw [hsource]; rfl) hready
    have htypes := (hc.bindings b hb).source
    rw [hsource] at htypes
    exact hobject.trans htypes.symm
  · obtain ⟨hc, -, hholds⟩ := htyped.containers n c m hn
    refine ⟨hholds.deferred b d i hb (by rw [hsource]; rfl) hready, ?_⟩
    have hprovided := hc.providedTy hb
    rwa [Container.providedTy, hsource] at hprovided
  · exact htyped.history v hv d.key r (by rw [he]; rfl)
  · obtain ⟨hc, hinv⟩ := htyped.containers n c m hn
    exact hc.safe hinv
  · exact (htyped.containers n c m hn).1.safe ⟨hs, hholds⟩
  · obtain ⟨_ | ⟨⟩, s, hrun, heq, rfl⟩ := Builder.build_eq_some_iff.mp hbuild
    · cases heq
      have hc := Builder.isTyped_container config site.world hss hclasses
      have hopening := elapses_opening h.valid config ss classes
      refine (Container.typing_start hc).error ⟨Container.faithful_initial _ _, ?_⟩ trivial hrun
      refine Container.holdsTyped_initial fun K key i hi => htyped.kept K key i ?_
      rwa [← hopening.attributes]
    · cases heq

/-- A post office where letters are written on paper that a mill supplies for each session, with one
stamp for all letters. -/
def postOffice : List Statement :=
  .install webModule ::
    [.bind .text none [.named "price"] [] (.value "penny"),
      .bind (.component "Stamp") none [] [.asEagerSingleton] .constructor,
      .bind (.interface "Paper") none [] [.inScope (.contextual .session)]
        (.injectableProvider "Mill"),
      .bind (.component "Letter") none [] [.inScope (.contextual .request)] .constructor]

/-- The classes of the post office. -/
def postClasses : ClassTable := .ofList
  [("Stamp", ⟨[.constructor "Stamp" (.reading [] none),
      (Member.field "Stamp" "price" (.ofTy .text)).qualifiedBy (.named "price")], [],
      .fresh fun _ => none⟩),
    ("Letter", ⟨[(Member.constructor "Letter" (.reading [.interface "Paper"] none)).requiring
      [.ofTy (.interface "Paper")],
      (Member.field "Letter" "request" (.ofTy .request)).requiring [.injectable "Stamp"]], [],
      .fresh fun _ => none⟩)]

theorem isTyped_postOffice : ∀ s ∈ postOffice, s.IsTyped postClasses := by
  unfold postOffice
  simp only [List.forall_mem_cons, List.not_mem_nil, false_imp_iff, implies_true, and_true]
  refine ⟨.install (isTyped_webModule _), .bind (fun _ h => nomatch h) trivial,
    .bind (by simp) ⟨"Stamp", rfl⟩, .bind ?_ rfl, .bind ?_ ⟨"Letter", rfl⟩⟩
  all_goals
    intro scope hscope
    obtain rfl := ScopeStep.inScope.inj (List.mem_singleton.mp hscope)
    rfl

theorem isTyped_postClasses : postClasses.IsTyped := by
  refine ClassTable.decl_ofList (P := fun _ decl => decl.IsTyped)
    (fun _ => ClassDecl.isTyped_none) ?_
  simp only [List.forall_mem_cons, List.not_mem_nil, false_imp_iff, implies_true, and_true]
  refine ⟨ClassDecl.isTyped_of_members rfl ?_, ClassDecl.isTyped_of_members rfl ?_⟩
  all_goals
    simp only [List.forall_mem_cons, List.not_mem_nil, false_imp_iff, implies_true, and_true]
  · exact ⟨Action.takes_reading [] none nofun, (Member.isTyped_field _ _ _).qualifiedBy _⟩
  · exact ⟨Action.takes_reading [.interface "Paper"] none nofun,
      (Member.isTyped_field _ _ _).requiring _⟩

/-- A post office opens. -/
def openPostOffice (w : World) : Option (RunningContainer × World) :=
  match ((Builder.ofConfig .standard).install postOffice w).1.build postClasses
    ((Builder.ofConfig .standard).install postOffice w).2 with
  | some (.ok running, w) => some (running, w)
  | _ => none

theorem Reached.openPostOffice (h : Reached Container.FromTyped site) {running : RunningContainer}
    {w : World} (hopen : openPostOffice site.world = some (running, w)) :
    ∃ history, Reached Container.FromTyped ⟨site.containers ++ [running], w, history⟩ := by
  unfold Site.openPostOffice at hopen
  split at hopen
  · next hbuild =>
    cases hopen
    exact h.build_modules ⟨_, _, _, _, isTyped_postOffice, isTyped_postClasses, rfl⟩ hbuild
  · cases hopen

/-- Two post offices open, and the letter of the current request is asked for at both. -/
def letters : Option (State × State) := do
  let (first, w) ← openPostOffice lobby
  let (second, w) ← openPostOffice w
  let (_, s) ← first.container.resolve (.injectable "Letter") ⟨first.memory, w⟩
  let (_, t) ← second.container.resolve (.injectable "Letter") ⟨second.memory, s.world⟩
  return (s, t)

/-- The two post offices share the letter and the paper, but each has a stamp and a mill of its own,
and all of these are what they should be. -/
theorem post_offices_share_letters : ∃ (site : Site) (c c' : Container) (m m' : Memory),
    Reached Container.FromTyped site ∧ site.TypeSound ∧
    site.containers = [⟨c, m⟩, ⟨c', m'⟩] ∧
    (∃ i i', i ≠ i' ∧ i.ty = .component "Stamp" ∧ i'.ty = .component "Stamp" ∧
      m.slots.get? (.ofTy (.component "Stamp")) = some (.full i) ∧
      m'.slots.get? (.ofTy (.component "Stamp")) = some (.full i')) ∧
    (∃ i i', i ≠ i' ∧ m.readiness (.ofTy (.interface "Paper")) = .ready i ∧
      m'.readiness (.ofTy (.interface "Paper")) = .ready i') ∧
    (∃ i, i.ty = .interface "Paper" ∧
      (site.world.attributes (.session 0)).get? (.ofTy (.interface "Paper")) = some i) ∧
    ∃ i, i.ty = .component "Letter" ∧
      (site.world.attributes (.request 0)).get? (.ofTy (.component "Letter")) = some i := by
  have hrun : letters.map (fun (s, t) => decide (
      s.memory.slots.get? (.ofTy (.component "Stamp")) = some (.full ⟨2, .object "Stamp" 1⟩) ∧
      t.memory.slots.get? (.ofTy (.component "Stamp")) = some (.full ⟨5, .object "Stamp" 3⟩) ∧
      s.memory.readiness (.ofTy (.interface "Paper")) = .ready ⟨1, .object "Mill" 0⟩ ∧
      t.memory.readiness (.ofTy (.interface "Paper")) = .ready ⟨4, .object "Mill" 2⟩ ∧
      (t.world.attributes (.session 0)).get? (.ofTy (.interface "Paper")) =
        some ⟨6, .service "Paper" "Mill#1/0" 4⟩ ∧
      (t.world.attributes (.request 0)).get? (.ofTy (.component "Letter")) =
        some ⟨8, .object "Letter" 5⟩)) = some true := by
    decide +kernel
  obtain ⟨⟨s, t⟩, hletters, hfacts⟩ := Option.map_eq_some_iff.mp hrun
  unfold letters at hletters
  obtain ⟨⟨first, w⟩, hfirst, hletters⟩ := Option.bind_eq_some_iff.mp hletters
  obtain ⟨⟨second, w'⟩, hsecond, hletters⟩ := Option.bind_eq_some_iff.mp hletters
  obtain ⟨⟨r, s⟩, hhere, hletters⟩ := Option.bind_eq_some_iff.mp hletters
  obtain ⟨⟨r', t⟩, hthere, hletters⟩ := Option.bind_eq_some_iff.mp hletters
  cases hletters
  obtain ⟨hstamp, hstamp', hmill, hmill', hpaper, hletter⟩ := of_decide_eq_true hfacts
  have hempty : Reached Container.FromTyped ⟨[], lobby, []⟩ :=
    ⟨lobby, valid_lobby, attributes_lobby, .refl⟩
  obtain ⟨_, hopened⟩ := hempty.openPostOffice hfirst
  obtain ⟨_, hopened⟩ := hopened.openPostOffice hsecond
  obtain ⟨_, hasked⟩ := hopened.resolve (n := 0) rfl hhere
  obtain ⟨_, hasked⟩ := hasked.resolve (n := 1) rfl hthere
  have hsound := hasked.type_sound
  exact ⟨_, _, _, _, _, hasked, hsound, rfl,
    ⟨_, _, by decide, hsound.slots 0 _ _ rfl _ _ hstamp, hsound.slots 1 _ _ rfl _ _ hstamp', hstamp,
      hstamp'⟩,
    ⟨_, _, by decide, hmill, hmill'⟩, ⟨_, hsound.attributes _ _ _ hpaper, hpaper⟩,
    _, hsound.attributes _ _ _ hletter, hletter⟩

end Site

end Wiring
