import Wiring.Proofs.Locality
import Wiring.Proofs.Retelling

/-!
# Binding a Class to Its Own Constructor

An object of a class that is not bound is constructed just in time. To bind the class to its own
constructor, in no scope, says the same in so many words. The container goes another way then: it
finds a binding, leaves it to a scope that does nothing, and announces what the binding supplies.
But it constructs the same object, and writes the same to the log.

A further binding can make more available, and so have optional members injected that were skipped
before. It has no such effect on what does not need the key that is bound. Without circles, this is
so of all that is needed to construct an object of the class: below the class, its own key is never
asked for, neither by a resolution nor to find out what is available.

## Conventions

A dependency by which no object may be constructed leads to nothing as long as its key is not
bound, and to what the binding needs as soon as it is. So a class that needs its own key goes round
in a circle, no matter by which dependency it does (`Container.Straight`).

The states on both sides are the same here, and not only alike: what is remembered, the kept
catalogs included, and the world. Only the journal of the container with the binding has two more
entries, which the log does not show.

## Main statements

* `Container.Observant`: states from which the same catalogs are found.
* `Container.AgreeOn.availableWithin`: containers that agree look at the same classes.
* `Container.AgreeOn.resolveWithin_of_shallow`: different depths make no difference to them.
* `Container.agreeOn_register`: a further binding makes no difference to what does not need it.
* `Container.Straight`, `Container.straight_iff_acyclic`: classes that lead to no circle.
* `Container.constructor_binding_is_just_in_time`: a class that is bound to its own constructor.
-/

open Relation

namespace Wiring

namespace Container

/-! ### Containers that look at the same classes -/

/-- A correspondence of states in which a container keeps only catalogs of its classes, and finds
the same on both sides when it looks for one. -/
structure Observant (c : Container) (R : State → State → Prop) : Prop where
  /-- Only catalogs of the class table are kept. -/
  faithful : ∀ {s t : State}, R s t → s.Faithful c
  /-- The same catalogs are found. -/
  find : ∀ cls, Matches R (catalogOf c.classes cls) (catalogOf c.classes cls)

namespace AgreeOn

variable {D : Dependency → Prop} {c c' : Container} {d : Dependency} {R : State → State → Prop}
  {lockstep : Prop} (h : AgreeOn D c c')
include h

/-- Containers that agree on some dependencies look at the same classes to find out whether these
are available, and come to the same answers. -/
theorem availableWithin (hR : c.Observant R) (hd : D d) (n : Nat) (path : List ClassPath) :
    Matches R (c.availableWithin n path d) (c'.availableWithin n path d) := by
  have hmatching : Library.Matching D R c.library c'.library := by
    refine ⟨fun d hd => (h.contains hd).symm, fun d _ => h.justInTime d, fun cls => ?_,
      fun s t hst d cls cat m hd hbound hjit hfound hm e he => ?_⟩
    · rw [library, library, ← h.classes]
      exact hR.find cls
    · have hcatalog : c.classes.catalog cls = .ok cat := by
        rw [← (hR.faithful hst).look_eq, ← catalogOf_fst]
        exact hfound
      exact h.closed d e hd (leads_of_requires ⟨cls, cat, m, ⟨hbound, hjit, hcatalog, hm⟩, he⟩)
  rw [← c.availableWithin_library, ← c'.availableWithin_library]
  exact hmatching.availableWithin n path hd

/-- So they find the same when they look at classes. -/
theorem looksAlike_of_observant (hR : c.Observant R) : LooksAlike D lockstep R c c' where
  firstUnavailable {ds} hds := by
    have havailable : ∀ d ∈ ds, Matches R (c.available d) (c'.available d) := fun d hd => by
      rw [Container.available, Container.available, ← h.classes]
      exact h.availableWithin hR (hds d hd) _ []
    exact Follows.note (Matches.firstFailing havailable)
  catalog cls := by
    intro s t hst
    have hcatalog := catalogOf_fst c.classes cls s.notebook
    rw [(hR.faithful hst).look_eq] at hcatalog
    obtain ⟨hfound, hst'⟩ := hR.find cls s t hst
    rw [hcatalog] at hfound
    simp only [Container.catalog, Run.bind_eq, Run.note, ← h.classes, hcatalog, ← hfound]
    cases hcat : c.classes.catalog cls with
    | error e => exact ⟨_, rfl, hst'⟩
    | ok cat => exact ⟨_, _, rfl, ⟨rfl, rfl⟩, hst'⟩

/-! ### Different depths -/

/-- Chains from what a dependency leads to are no longer than those from the dependency. -/
theorem shallowly (n : Nat) : AgreeOn (fun d => D d ∧ c.Shallow n d) c c' where
  jit := h.jit
  classes := h.classes
  binding d hd := h.binding d hd.1
  closed d e hd hde := by
    obtain ⟨k, rfl⟩ := Nat.exists_eq_add_of_le' hd.2.pos
    exact ⟨h.closed d e hd.1 hde, (hd.2.leads hde).mono (Nat.le_succ k)⟩

/-- Containers that agree on some dependencies resolve them to the same, or both come to no end,
within any depths that are greater than chains are long. -/
theorem resolveWithin_of_shallow (hlike : Likeness R) (hlook : LooksAlike D True R c c')
    (hshares : ∀ d, D d → Wiring.Shares R d.key) {n m m' : Nat} (hd : D d) (hn : c.Shallow n d)
    (hm : n ≤ m) (hm' : n ≤ m') :
    Follows True R (c.resolveWithin m d) (c'.resolveWithin m' d) := by
  induction n generalizing d m m' with
  | zero => exact absurd hn.pos (Nat.lt_irrefl 0)
  | succ n ih =>
    obtain ⟨k, rfl⟩ := Nat.exists_eq_add_of_le' hm
    obtain ⟨k', rfl⟩ := Nat.exists_eq_add_of_le' hm'
    have hsame : ∀ e, D e ∧ c.Shallow n e →
        Follows True R (c.resolveWithin (k + n) e) (c'.resolveWithin (k' + n) e) := fun e he =>
      ih he.1 he.2 (Nat.le_add_left n k) (Nat.le_add_left n k')
    have hstep := (h.shallowly n).inStepOn hlike (hlook.mono fun _ => And.left) (K := (· = d.key))
      (by rintro _ rfl; exact hshares d hd) hsame
    exact hstep.resolveStep (h.binding d hd) (h.justInTime d) (fun _ => rfl) fun e he =>
      ⟨h.closed d e hd he, hn.leads he⟩

end AgreeOn

/-! ### Journals with different beginnings -/

/-- Two states of a container differ only in what their journals begin with, and only catalogs of
the class table are kept. -/
structure Retold (c : Container) (j k : Array Event) (s t : State) : Prop where
  /-- The states differ only in what their journals begin with. -/
  retells : State.Retells j k s t
  /-- Only catalogs of the class table are kept. -/
  faithful : s.Faithful c

section

variable (c : Container) (j k : Array Event)

theorem likeness_retold : Likeness (c.Retold j k) where
  world hf s t h := by
    obtain ⟨hsame, hretells⟩ := (likeness_retells j k).world hf h.retells
    exact ⟨hsame, hretells, h.faithful⟩

theorem shares_retold (key : Key) : Wiring.Shares (c.Retold j k) key where
  slot h := (shares_retells j k key).slot h.retells
  setSlot cell h := ⟨(shares_retells j k key).setSlot cell h.retells, h.faithful⟩
  readiness h := (shares_retells j k key).readiness h.retells
  setReadiness r h := ⟨(shares_retells j k key).setReadiness r h.retells, h.faithful⟩
  callCount h := (shares_retells j k key).callCount h.retells
  countCall h := ⟨(shares_retells j k key).countCall h.retells, h.faithful⟩

theorem observant_retold : c.Observant (c.Retold j k) where
  faithful h := h.faithful
  find cls s t h := by
    obtain ⟨hsame, hretells⟩ := (Notebook.blind_catalogOf c.classes cls).matches s t h.retells
    exact ⟨hsame, hretells, Notebook.Faithful.catalogOf h.faithful cls⟩

end

/-! ### A further binding -/

variable {c : Container} {cls : ClassPath} {s : State}

/-- What is found under other keys stays the same. -/
theorem lookup_register_of_ne (c : Container) {b : Binding} {key : Key} (hkey : key ≠ b.key) :
    c.registry.lookup key = (c.register b).registry.lookup key := by
  rw [register, Registry.lookup_register, if_neg hkey.symm]

/-- Containers that differ in the binding of one key only agree on what does not need the key. -/
theorem agreeOn_free {c' : Container} {key : Key}
    (hjit : c.config.jitBindings = c'.config.jitBindings) (hclasses : c.classes = c'.classes)
    (hlookup : ∀ k, k ≠ key → c.registry.lookup k = c'.registry.lookup k) :
    AgreeOn (c.Free (· = key)) c c' where
  jit := hjit
  classes := hclasses
  binding d hd := hlookup d.key (hd d .refl)
  closed _ _ hd hde := hd.leads hde

/-- A further binding makes no difference to what does not need its key. -/
theorem agreeOn_register (c : Container) (b : Binding) :
    AgreeOn (c.Free (· = b.key)) c (c.register b) :=
  agreeOn_free rfl rfl fun _ => c.lookup_register_of_ne

/-- A further binding can only raise the bound on depths. -/
theorem depthBound_le_register (c : Container) (b : Binding) :
    c.depthBound ≤ (c.register b).depthBound := by
  have hsize : c.registry.size ≤ (c.registry.register b).size := by
    unfold Registry.size Registry.register
    rw [Table.size_insert]
    split
    · exact Nat.le_refl _
    · exact Nat.le_succ _
  exact Nat.add_le_add_right (Nat.add_le_add_right (Nat.add_le_add_right hsize _) _) _

/-! ### A class bound to its constructor -/

/-- The container in which a class is bound to its own constructor, in no scope. -/
def withConstructor (c : Container) (cls : ClassPath) (eager : Bool) : Container :=
  c.register ⟨.ofTy (.component cls), .constructor cls, .unscoped, eager⟩

theorem lookup_withConstructor (c : Container) (cls : ClassPath) (eager : Bool) :
    (c.withConstructor cls eager).registry.lookup (.ofTy (.component cls)) =
      some ⟨.ofTy (.component cls), .constructor cls, .unscoped, eager⟩ := by
  rw [withConstructor, register, Registry.lookup_register, if_pos rfl]

/-- Such a binding takes no slot. -/
theorem initialMemory_withConstructor
    (hunbound : c.registry.contains (.ofTy (.component cls)) = false) (eager : Bool) :
    (c.withConstructor cls eager).initialMemory = c.initialMemory := by
  have hnew : Key.ofTy (.component cls) ∉ c.registry.keys := by
    rw [← Registry.contains_iff, hunbound]
    exact Bool.false_ne_true
  have hlist : (c.withConstructor cls eager).registry.toList =
      c.registry.toList ++ [⟨.ofTy (.component cls), .constructor cls, .unscoped, eager⟩] := by
    simp only [withConstructor, register, Registry.register, Registry.toList, Table.values,
      Table.insert, Table.put_of_not_mem hnew, List.map_append, List.map_cons, List.map_nil]
  unfold initialMemory Memory.ofRegistry
  rw [hlist, List.filter_append]
  simp [Scope.isSingleton]

/-- A builder binds a class to its constructor if this is the last that it is told. -/
theorem container_install_constructor (b : Builder) (cls : ClassPath) (classes : ClassTable)
    (w : World) :
    (b.install [.bind (.component cls) none [] [] .constructor] w).1.container classes =
      (b.container classes).withConstructor cls false := by
  have hregister : (b.install [.bind (.component cls) none [] [] .constructor] w).1.container
      classes = { b.container classes with registry := .ofDefinitions (b.draft.definitions ++
        [⟨.ofTy (.component cls), .constructor cls, .unscoped, false⟩]) } := rfl
  rw [hregister, Registry.ofDefinitions, List.foldl_append]
  rfl

/-- By an injectable dependency an object of its class may be constructed, if any may. -/
theorem justInTime_injectable (hjit : c.config.jitBindings = true) (cls : ClassPath) :
    c.justInTime (.injectable cls) = some cls := by
  rw [justInTime, if_pos hjit, Dependency.justInTime_injectable]

/-! ### Classes whose construction goes straight -/

/-- Nothing that is needed to construct an object of a class needs itself, and none of it needs the
key of the class, be it by a dependency by which an object may be constructed or not. -/
def Straight (c : Container) (cls : ClassPath) : Prop :=
  ∀ e, c.ConstructionNeeds cls e → c.Acyclic e ∧ c.Free (· = .ofTy (.component cls)) e

/-- Where ranks go down, the construction of each class goes straight. -/
theorem Ranked.straight {rank : Key → Nat} (h : c.Ranked rank) (cls : ClassPath) :
    c.Straight cls := fun e he =>
  ⟨acyclic_of_ranked rank h e, fun f hef hkey => h.not_closure (h.needs he) ⟨f, hef, hkey⟩⟩

/-- A dependency is on no circle if what it leads to is on none and does not need its key. -/
theorem acyclic_of_leads {d : Dependency}
    (h : ∀ e, c.Leads d e → c.Acyclic e ∧ c.Free (· = d.key) e) : c.Acyclic d := by
  intro f hdf hcircle
  rcases ReflTransGen.cases_head hdf with rfl | ⟨e, hde, hef⟩
  · obtain ⟨e, hde, hed⟩ := TransGen.head'_iff.mp hcircle
    exact (h e hde).2 _ hed rfl
  · exact (h e hde).1 f hef hcircle

/-- Circles that do not meet a key are the same in containers that agree on what does not need
it. -/
theorem AgreeOn.straight {c' : Container} {key : Key} {e : Dependency}
    (h : AgreeOn (c.Free (· = key)) c c') (he : c.Acyclic e ∧ c.Free (· = key) e) :
    c'.Acyclic e ∧ c'.Free (· = key) e :=
  ⟨(h.shallow he.2 he.1.shallow).acyclic, fun f hef => (h.reaches he.2 hef).2 f .refl⟩

/-- A class that is not bound leads to what its construction needs. -/
theorem leads_injectable (hjit : c.config.jitBindings = true)
    (hunbound : c.registry.contains (.ofTy (.component cls)) = false) {e : Dependency} :
    c.Leads (.injectable cls) e ↔ c.ConstructionNeeds cls e := by
  have hlookup := Registry.lookup_of_contains hunbound
  refine ⟨fun h => ?_, leads_of_class hlookup (justInTime_injectable hjit cls)⟩
  unfold Leads at h
  rw [show (Dependency.injectable cls).key = .ofTy (.component cls) from rfl, hlookup,
    justInTime_injectable hjit] at h
  obtain ⟨_, hsame, hneeds⟩ := h
  cases hsame
  exact hneeds

/-- So does a class that is bound to its constructor. -/
theorem leads_withConstructor (c : Container) (cls : ClassPath) (eager : Bool) {e : Dependency} :
    (c.withConstructor cls eager).Leads (.injectable cls) e ↔ c.ConstructionNeeds cls e := by
  unfold Leads
  rw [show (Dependency.injectable cls).key = .ofTy (.component cls) from rfl,
    c.lookup_withConstructor cls eager]
  rfl

/-- A class is on no circle if its construction goes straight. -/
theorem Straight.acyclic (h : c.Straight cls) (hjit : c.config.jitBindings = true)
    (hunbound : c.registry.contains (.ofTy (.component cls)) = false) :
    c.Acyclic (.injectable cls) :=
  acyclic_of_leads fun e he => h e ((leads_injectable hjit hunbound).mp he)

/-- The construction of a class goes straight exactly if the class leads to no circle once it is
bound to its constructor. -/
theorem straight_iff_acyclic (c : Container) (cls : ClassPath) (eager : Bool) :
    c.Straight cls ↔ (c.withConstructor cls eager).Acyclic (.injectable cls) := by
  constructor
  · intro h
    refine acyclic_of_leads fun e he => ?_
    exact (c.agreeOn_register _).straight (h e ((c.leads_withConstructor cls eager).mp he))
  · intro h e he
    have hleads := (c.leads_withConstructor cls eager).mpr he
    have hagree : AgreeOn ((c.withConstructor cls eager).Free (· = .ofTy (.component cls)))
        (c.withConstructor cls eager) c :=
      agreeOn_free rfl rfl fun _ hk => (c.lookup_register_of_ne hk).symm
    have hacyclic := h.leads hleads
    exact hagree.straight ⟨hacyclic, hacyclic.key_ne (c.lookup_withConstructor cls eager) hleads⟩

/-! ### Two ways to the same object -/

/-- An object of a class that is not bound is constructed just in time. -/
theorem resolveStep_of_unbound (hjit : c.config.jitBindings = true)
    (hunbound : c.registry.contains (.ofTy (.component cls)) = false)
    (self : Dependency → Run Instance) (s : State) :
    c.resolveStep self (.injectable cls) s =
      (c.construct self cls (s.inWorld (s.world.log (.resolving (.ofTy (.component cls)))))).map
        fun p => (p.1, p.2.inWorld (p.2.world.emit (.resolved (.injectable cls) p.1))) := by
  have hanswer : c.answer self (.injectable cls) = c.construct self cls := by
    rw [c.answer_of_unbound self hunbound, justInTime_injectable hjit]
  rw [← hanswer]
  rfl

/-- An object of a class that is bound to its own constructor is supplied by the binding. -/
theorem resolveStep_withConstructor (c : Container) (cls : ClassPath) (eager : Bool)
    (self : Dependency → Run Instance) (s : State) :
    let key := Key.ofTy (.component cls)
    let w := (s.world.log (.resolving key)).emit (.supplying key)
    (c.withConstructor cls eager).resolveStep self (.injectable cls) s =
      ((c.withConstructor cls eager).construct self cls (s.inWorld w)).map fun p =>
        (p.1, p.2.inWorld ((p.2.world.emit (.supplied key p.1)).emit
          (.resolved (.injectable cls) p.1))) := by
  intro key w
  have hanswer : (c.withConstructor cls eager).answer self (.injectable cls) =
      (c.withConstructor cls eager).supply self ⟨key, .constructor cls, .unscoped, eager⟩ := by
    unfold answer
    rw [show (Dependency.injectable cls).key = key from rfl, c.lookup_withConstructor cls eager]
    rfl
  change (((c.withConstructor cls eager).answer self (.injectable cls) _).map _) = _
  rw [hanswer]
  change ((((c.withConstructor cls eager).construct self cls _).map _).map _) = _
  rw [Option.map_map]
  rfl

/-- Constructions of an object of a class come to the same in both containers, whatever was entered
in the journal before, if they do not go round in circles. -/
theorem follows_construct (hjit : c.config.jitBindings = true)
    (hunbound : c.registry.contains (.ofTy (.component cls)) = false) (hcls : c.Straight cls)
    (eager : Bool) (j k : Array Event) {n n' : Nat} (hn : c.Shallow (n + 1) (.injectable cls))
    (hle : n ≤ n') :
    Follows True (c.Retold j k) (c.construct (c.resolveWithin n) cls)
      ((c.withConstructor cls eager).construct ((c.withConstructor cls eager).resolveWithin n')
        cls) := by
  have hagree : AgreeOn (c.Free (· = .ofTy (.component cls))) c (c.withConstructor cls eager) :=
    c.agreeOn_register ⟨.ofTy (.component cls), .constructor cls, .unscoped, eager⟩
  have hlook : LooksAlike (c.Free (· = .ofTy (.component cls))) True (c.Retold j k) c
      (c.withConstructor cls eager) := hagree.looksAlike_of_observant (c.observant_retold j k)
  have hstep := (hagree.shallowly n).inStepOn (c.likeness_retold j k)
    (hlook.mono fun _ => And.left) (K := fun _ => False) nofun fun e he =>
      hagree.resolveWithin_of_shallow (c.likeness_retold j k) hlook
        (fun e _ => c.shares_retold j k e.key) he.1 he.2 (Nat.le_refl n) hle
  exact hstep.construct fun e he =>
    ⟨(hcls e he).2, hn.leads ((leads_injectable hjit hunbound).mpr he)⟩

/-! ### The theorem -/

/-- Two resolutions of `d` from a state `s` came to `r`, and to the states `s'` and `t'`, the second
by a binding. They remember the same, and have done the same to the world. The journals say the
same, too, but that the second tells of the binding. -/
structure Restates (d : Dependency) (r : Except ConfigurationError Instance) (s s' t' : State) :
    Prop where
  /-- The same is remembered. -/
  memory : t'.memory = s'.memory
  /-- The worlds are the same but for their journals. -/
  world : { t'.world with journal := #[] } = { s'.world with journal := #[] }
  /-- The same is entered in the journals, but that the binding begins to supply an instance, and
  which one it supplied. -/
  entered : ∃ es,
    s.Entered s' (.logged (.resolving d.key) :: es ++ [.resolved d r]) ∧
    s.Entered t' (.logged (.resolving d.key) :: .supplying d.key :: es ++
      [.supplied d.key r, .resolved d r])

/-- If the constructions come to states that differ only in what their journals begin with, then the
resolutions differ only in that one tells of the binding. -/
theorem restates_of_retold {u u' : State} {r : Except ConfigurationError Instance}
    (h : let w := s.world.log (.resolving (.ofTy (.component cls)))
      c.Retold w.journal (w.emit (.supplying (.ofTy (.component cls)))).journal u u') :
    Restates (.injectable cls) r s
      (u.inWorld (u.world.emit (.resolved (.injectable cls) r)))
      (u'.inWorld ((u'.world.emit (.supplied (.ofTy (.component cls)) r)).emit
        (.resolved (.injectable cls) r))) := by
  obtain ⟨v, hu, hu'⟩ := h.retells.world
  refine ⟨h.retells.memory.symm, ?_, v.journal.toList, ?_, ?_⟩
  · rw [hu, hu']
    rfl
  · rw [hu]
    simp [State.Entered, State.inWorld, World.emit, World.log, World.before, Dependency.injectable]
  · rw [hu']
    simp [State.Entered, State.inWorld, World.emit, World.log, World.before, Dependency.injectable]

/-- **An explicit binding to the constructor means the same as construction just in time.** Let a
container construct classes just in time, and let a class not be bound in it whose construction does
not go round in circles. In the container with one more binding, of the class to its own constructor
in no scope, an object of the class is resolved to the same instance or to the same error, from
each state that keeps only catalogs of the class table. The same calls are made in the same order,
and the same is remembered afterwards, in the same world. If one of the resolutions does not come
to an end, neither does the other. -/
theorem constructor_binding_is_just_in_time (c : Container) (cls : ClassPath) (eager : Bool)
    (hjit : c.config.jitBindings = true)
    (hunbound : c.registry.contains (.ofTy (.component cls)) = false) (hcls : c.Straight cls)
    (s : State) (hs : s.Faithful c) :
    (∀ r s', c.resolve (.injectable cls) s = some (r, s') →
      ∃ t', (c.withConstructor cls eager).resolve (.injectable cls) s = some (r, t') ∧
        Restates (.injectable cls) r s s' t') ∧
    (c.resolve (.injectable cls) s = none →
      (c.withConstructor cls eager).resolve (.injectable cls) s = none) := by
  obtain ⟨n, hn⟩ := c.exists_depthBound_eq
  obtain ⟨n', hn'⟩ := (c.withConstructor cls eager).exists_depthBound_eq
  have hle : n ≤ n' := by
    have hdepth : c.depthBound ≤ (c.withConstructor cls eager).depthBound :=
      c.depthBound_le_register _
    rw [hn, hn'] at hdepth
    exact Nat.le_of_succ_le_succ hdepth
  let w := s.world.log (.resolving (.ofTy (.component cls)))
  let w' := w.emit (.supplying (.ofTy (.component cls)))
  have hstart : c.Retold w.journal w'.journal (s.inWorld w) (s.inWorld w') :=
    ⟨⟨rfl, { w with journal := #[] }, w.eq_before, w'.eq_before⟩, hs⟩
  have hsame := follows_construct hjit hunbound hcls eager w.journal w'.journal
    (hn ▸ (hcls.acyclic hjit hunbound).shallow_depthBound) hle
  rw [resolve_eq_resolveStep hn, resolve_eq_resolveStep hn', resolveStep_of_unbound hjit hunbound,
    resolveStep_withConstructor]
  refine ⟨fun r s' h => ?_, fun h => ?_⟩
  · obtain ⟨⟨r, u⟩, hu, heq⟩ := Option.map_eq_some_iff.mp h
    cases heq
    obtain ⟨u', hu', hretold⟩ := hsame.eq_some hstart hu
    exact ⟨_, by rw [hu']; rfl, restates_of_retold hretold⟩
  · rw [Option.map_eq_none_iff] at h ⊢
    exact hsame.eq_none hstart h

/-- A workshop with a saw, which is sharp, and with oak. -/
def workshop : List Statement :=
  [.bind (.component "Saw") none [] [.inScope .singleton] .constructor,
    .bind .text none [] [] (.value "oak")]

/-- A bench is made of wood with a saw. It has a vice if there is one, and a number if there are
numbers. -/
def workshopClasses : ClassTable := .ofList
  [("Saw", ⟨[.constructor "Saw" (.reading [] none)], [], .fresh fun _ => none⟩),
    ("Vice", ⟨[(Member.constructor "Vice" (.reading [.text] none)).requiring [.ofTy .text]], [],
      .fresh fun _ => none⟩),
    ("Bench", ⟨[(Member.constructor "Bench" (.reading [.component "Saw", .text] none)).requiring
          [.injectable "Saw", .ofTy .text],
        (Member.field "Bench" "vice" (.injectable "Vice")).withOptional true,
        (Member.field "Bench" "number" (.ofTy .number)).withOptional true], [],
      .fresh fun _ => none⟩)]

/-- The bench ranks above its parts, and these above the wood. -/
def workshopRank (key : Key) : Nat :=
  if key = .ofTy (.component "Bench") then 2
  else if key = .ofTy (.component "Saw") ∨ key = .ofTy (.component "Vice") then 1 else 0

/-- The bench is the same, and has its vice and no number, whether it is bound or not. -/
theorem workshop_makes_one_bench :
    let b := ((Builder.ofConfig .standard).install workshop .new).1
    let c := b.container workshopClasses
    let c' := (b.install [.bind (.component "Bench") none [] [] .constructor] .new).1.container
      workshopClasses
    c.Straight "Bench" ∧ ∃ i s t,
      c.resolve (.injectable "Bench") ⟨c.initialMemory, .new⟩ = some (.ok i, s) ∧
      c'.resolve (.injectable "Bench") ⟨c'.initialMemory, .new⟩ = some (.ok i, t) ∧
      Restates (.injectable "Bench") (.ok i) ⟨c.initialMemory, .new⟩ s t ∧
      (s.world.object? 1).map (·.history.map Call.member) = some ["<init>", "vice"] := by
  intro b c c'
  have hc' : c' = c.withConstructor "Bench" false :=
    container_install_constructor b "Bench" workshopClasses .new
  have hunbound : c.registry.contains (.ofTy (.component "Bench")) = false := by decide +kernel
  have hranked : c.Ranked workshopRank := by decide +kernel
  have hmade : (c.resolve (.injectable "Bench") ⟨c.initialMemory, .new⟩).map (fun p =>
      (p.1, (p.2.world.object? 1).map (·.history.map Call.member))) =
      some (.ok ⟨2, .object "Bench" 1⟩, some ["<init>", "vice"]) := by
    decide +kernel
  obtain ⟨⟨r, s⟩, hrun, heq⟩ := Option.map_eq_some_iff.mp hmade
  obtain ⟨rfl, hhistory⟩ := Prod.mk.inj heq
  obtain ⟨t, hrun', hrestates⟩ := (constructor_binding_is_just_in_time c "Bench" false rfl
    hunbound (hranked.straight "Bench") _ (c.faithful_initial .new)).1 _ s hrun
  rw [hc', initialMemory_withConstructor hunbound]
  exact ⟨hranked.straight "Bench", _, s, t, hrun, hrun', hrestates, hhistory⟩

end Container

end Wiring
