import Mathlib.Logic.Relation
import Wiring.Proofs.Grounding

/-!
# Systems of Containers

A `System` is any number of containers in one world, together with its history: what each of them
entered in the journal, in order. It takes a step when a container is built, when a container is
used, and when something else happens in the world.

What is true of a system after any number of steps is said by `System.Sound`: each container is
`Orderly`, that is, its slots are as its entries in the journal tell, and the numbers of objects in
the history do not collide.

## Conventions

A container is grounded when it is built, and so is the world whatever happens elsewhere.
Something else that happens in the world may bring things and let them be kept, but it takes none
away. A container whose build fails has its place in the system, too.

## Main statements

* `System.Step`, `System.Reached`: what may happen to systems.
* `Container.Orderly`: what is known of a container from its own entries.
* `System.Sound`, `System.Reached.sound`: what is known of all reached systems.
* `System.Reached.build_modules`: each container that is built from modules is in one of them.
-/

open Relation

namespace Wiring

/-! ### Systems -/

/-- What is done with a container, successfully or not. -/
inductive Container.Operates (c : Container) (s s' : State) : Prop where
  /-- A dependency is resolved. -/
  | resolve {d : Dependency} {r} : c.resolve d s = some (r, s') → Operates c s s'
  /-- An instance is asked for as one of a type, by class, type, name or key or through a
  handle. -/
  | get {ty : Ty} {d : Dependency} {r} : c.getAs ty d s = some (r, s') → Operates c s s'
  /-- Members are injected into an object. -/
  | inject {cls target : ClassPath} {id : Nat} {r} :
    c.injectMembers cls target id s = some (r, s') → Operates c s s'
  /-- It is asked whether a dependency can be resolved. -/
  | ask {d : Dependency} {r} : c.canResolve d s = some (r, s') → Operates c s s'

/-- An entry of a container in the journal. -/
structure Entry where
  /-- The number of the container. -/
  container : Nat
  /-- What was entered. -/
  event : Event

/-- Containers that share a world. -/
structure System where
  /-- The containers, in the order in which they were built, and what they remember. -/
  containers : List RunningContainer
  /-- The world. -/
  world : World
  /-- What the containers entered in the journal. -/
  history : List Entry

namespace System

/-- The container of a number. -/
def container? (sys : System) (n : Nat) : Option Container :=
  (sys.containers[n]?).map RunningContainer.container

/-- What a container entered in the journal. -/
def entries (sys : System) (n : Nat) : List Event :=
  (sys.history.filter (·.container = n)).map Entry.event

/-- What may happen to a system. -/
inductive Step (sys : System) : System → Prop where
  /-- A container is built, or the build fails. -/
  | build {c : Container} {r s es} : c.Grounded ⟨c.initialMemory, sys.world⟩ →
    c.start ⟨c.initialMemory, sys.world⟩ = some (r, s) →
    State.Entered ⟨c.initialMemory, sys.world⟩ s es →
    Step sys ⟨sys.containers ++ [⟨c, s.memory⟩], s.world,
      sys.history ++ es.map (Entry.mk sys.containers.length)⟩
  /-- A container is used. -/
  | operate {n : Nat} {c : Container} {m s es} : sys.containers[n]? = some ⟨c, m⟩ →
    c.Operates ⟨m, sys.world⟩ s → State.Entered ⟨m, sys.world⟩ s es →
    Step sys ⟨sys.containers.set n ⟨c, s.memory⟩, s.world, sys.history ++ es.map (Entry.mk n)⟩
  /-- Something else happens. -/
  | elsewhere {w : World} : sys.world.things.size ≤ w.things.size → w.Grounded →
    Step sys { sys with world := w }

/-- The systems that can come to be. -/
def Reached (sys : System) : Prop := ∃ w : World, w.Grounded ∧ ReflTransGen Step ⟨[], w, []⟩ sys

end System

/-! ### Containers -/

namespace Container

variable {c : Container} {s s' : State} {es : List Event}

/-- What is done with a container keeps to each discipline that resolving dependencies keeps to. -/
theorem Operates.moves {D : Discipline} (hadmits : D.Admits c) (hself : ∀ d, D.Gives (c.resolve d))
    (h : c.Operates s s') (hs : D.Inv s) : D.Moves s s' := by
  cases h with
  | resolve h =>
    obtain ⟨hs', hstep, -⟩ := hself _ s hs trivial _ _ h
    exact ⟨hs', hstep⟩
  | get h =>
    obtain ⟨hs', hstep, -⟩ := Discipline.Conduct.getAs hself _ _ s hs trivial _ _ h
    exact ⟨hs', hstep⟩
  | inject h =>
    obtain ⟨hs', hstep, -⟩ :=
      Discipline.Conduct.injectObject hadmits hself _ _ _ s hs trivial _ _ h
    exact ⟨hs', hstep⟩
  | ask h =>
    obtain ⟨hs', hstep, -⟩ := hadmits.looks.canResolve _ s hs trivial _ _ h
    exact ⟨hs', hstep⟩

/-- What is known of a container that entered `es` in the journal since it was new. -/
structure Orderly (c : Container) (s : State) (es : List Event) : Prop where
  /-- It has a slot for each singleton and no others. -/
  slots : s.memory.slots.keys = c.singletonKeys
  /-- It refers only to things that are there. -/
  grounded : c.Grounded s
  /-- Its entries lead to what is in the slots, none of which is busy. -/
  phases : ∀ key, c.IsSingleton key → ∃ p : Phase, s.memory.slots.get? key = some p.cell ∧
    p.cell ≠ .busy ∧ Phase.empty.replay key es = some p

/-- A new container is orderly. -/
theorem Orderly.new {w : World} (h : c.Grounded ⟨c.initialMemory, w⟩) :
    c.Orderly ⟨c.initialMemory, w⟩ [] := by
  obtain ⟨hkeys, hempty⟩ := c.slots_initialMemory
  exact ⟨hkeys, h, fun key hkey => ⟨.empty, hempty key hkey, nofun, rfl⟩⟩

/-- A container stays orderly by what it does. -/
theorem Orderly.step {fs : List Event} (h : c.Orderly s es) (hsharing : c.sharing.Moves s s')
    (hfresh : (c.fresh fun _ => False).Moves s s') (hfs : s.Entered s' fs) :
    c.Orderly s' (es ++ fs) := by
  obtain ⟨hslots, fs', hfs', hadv⟩ := hsharing
  obtain rfl := hfs.unique hfs'
  refine ⟨hslots, inv_fresh_iff.mp hfresh.1, fun key hkey => ?_⟩
  obtain ⟨p, hp, hbusy, hreplay⟩ := h.phases key hkey
  obtain ⟨q, hq, hreplay', hstay⟩ := hadv key hkey p hp
  refine ⟨q, hq, fun hqbusy => ?_, ?_⟩
  · obtain rfl := hstay (.inr hqbusy)
    exact hbusy hqbusy
  · rw [Phase.replay_append, hreplay]
    exact hreplay'

/-- A container stays orderly by what happens elsewhere. -/
theorem Orderly.elsewhere (h : c.Orderly s es) {w : World}
    (hsize : s.world.things.size ≤ w.things.size) (hw : w.Grounded) :
    c.Orderly (s.inWorld w) es := by
  refine ⟨h.slots, fun id hid => ?_, h.phases⟩
  have hbefore : c.Mentions s id → id < w.things.size := fun hid =>
    Nat.lt_of_lt_of_le (h.grounded id hid) hsize
  cases hid with
  | slot hk hv => exact hbefore (.slot hk hv)
  | deferred hk hv => exact hbefore (.deferred hk hv)
  | kept hk hv => exact hw.kept _ _ _ _ hk hv
  | context hk hv => exact hw.context _ _ _ _ hk hv
  | given hb hsource hv => exact hbefore (.given hb hsource hv)
  | subject hb hd hsubject => exact hbefore (.subject hb hd hsubject)

end Container

/-! ### Objects in the history -/

namespace Entry

variable (of : Nat → Option Container) (e : Entry)

/-- An entry tells that a dependency which comes to a new object each time came to `v`, where `of`
gives the containers by their numbers. -/
def IsNew (cls : ClassPath) (v : Value) : Prop :=
  ∃ c d i, of e.container = some c ∧ e.event = .resolved d (.ok i) ∧
    c.newEach? d = some cls ∧ i.value = v

/-- An entry tells that a binding was supplied with `v` by the constructor of a class. -/
def IsSupply (cls : ClassPath) (v : Value) : Prop :=
  ∃ c key i b, of e.container = some c ∧ e.event = .supplied key (.ok i) ∧
    c.registry.lookup key = some b ∧ b.source.constructed? = some cls ∧ i.value = v

variable {of e}

theorem IsNew.congr {of' : Nat → Option Container} {cls : ClassPath} {v : Value}
    (h : e.IsNew of' cls v) (hof : of' e.container = of e.container) : e.IsNew of cls v := by
  obtain ⟨c, d, i, hc, hi, hcls, hv⟩ := h
  exact ⟨c, d, i, by rw [← hof, hc], hi, hcls, hv⟩

theorem IsSupply.congr {of' : Nat → Option Container} {cls : ClassPath} {v : Value}
    (h : e.IsSupply of' cls v) (hof : of' e.container = of e.container) : e.IsSupply of cls v := by
  obtain ⟨c, key, i, b, hc, hi, hb, hcls, hv⟩ := h
  exact ⟨c, key, i, b, by rw [← hof, hc], hi, hb, hcls, hv⟩

end Entry

/-- What a history says about new objects, where `of` gives the containers by their numbers and
there are `size` things. -/
structure NewObjects (of : Nat → Option Container) (size : Nat) (history : List Entry) : Prop where
  /-- Resolutions come to things that are there. -/
  known : ∀ e ∈ history, ∀ id, e.event.thing? = some id → id < size
  /-- A dependency that comes to a new object each time does so. -/
  new : ∀ e ∈ history, ∀ cls v, e.IsNew of cls v → ∃ id, v = .object cls id
  /-- No container came to that object before. -/
  distinct : history.Pairwise fun e e' => ∀ cls v, e'.IsNew of cls v →
    ∀ id, v.thing? = some id → e.event.thing? ≠ some id
  /-- Constructors supply objects. -/
  supplied : ∀ e ∈ history, ∀ cls v, e.IsSupply of cls v → ∃ id, v = .object cls id ∧ id < size
  /-- No object is supplied by a constructor to two containers. -/
  apart : history.Pairwise fun e e' => e.container ≠ e'.container → ∀ cls v cls' v',
    e.IsSupply of cls v → e'.IsSupply of cls' v' → v.thing? ≠ v'.thing?

namespace NewObjects

variable {of of' : Nat → Option Container} {lo hi : Nat} {history : List Entry}

/-- Things may come to be. -/
theorem mono (h : NewObjects of lo history) (hle : lo ≤ hi) : NewObjects of hi history where
  known e he id hid := Nat.lt_of_lt_of_le (h.known e he id hid) hle
  new := h.new
  distinct := h.distinct
  supplied e he cls v hv := by
    obtain ⟨id, hvalue, hlt⟩ := h.supplied e he cls v hv
    exact ⟨id, hvalue, Nat.lt_of_lt_of_le hlt hle⟩
  apart := h.apart

/-- Only the containers that made entries matter. -/
theorem congr (h : NewObjects of lo history)
    (hof : ∀ e ∈ history, of' e.container = of e.container) : NewObjects of' lo history where
  known := h.known
  new e he cls v hv := h.new e he cls v (hv.congr (hof e he))
  distinct := h.distinct.imp_of_mem fun _ he' hdistinct cls v hv =>
    hdistinct cls v (hv.congr (hof _ he'))
  supplied e he cls v hv := h.supplied e he cls v (hv.congr (hof e he))
  apart := h.apart.imp_of_mem fun he he' hapart hne cls v cls' v' hv hv' =>
    hapart hne cls v cls' v' (hv.congr (hof _ he)) (hv'.congr (hof _ he'))

/-- What further entries of one container say. -/
theorem of_told {n : Nat} {c : Container} (hn : of n = some c) {es : List Event}
    (h : c.Told (fun _ => False) lo hi es) {e : Event} (he : e ∈ es) :
    (∀ id, e.thing? = some id → id < hi) ∧
      (∀ cls v, (Entry.mk n e).IsNew of cls v → ∃ id, v = .object cls id ∧ lo ≤ id) ∧
      ∀ cls v, (Entry.mk n e).IsSupply of cls v → ∃ id, v = .object cls id ∧ lo ≤ id ∧ id < hi := by
  refine ⟨fun id hid => (h.known e he id hid).1, ?_, ?_⟩
  · rintro cls v ⟨c', d, i, hc', rfl, hcls, rfl⟩
    obtain rfl := Option.some.inj (hn.symm.trans hc')
    exact h.new d i cls he hcls
  · rintro cls v ⟨c', key, i, b, hc', rfl, hb, hcls, rfl⟩
    obtain rfl := Option.some.inj (hn.symm.trans hc')
    exact h.supplied key i b cls he hb hcls

/-- A container makes further entries. -/
theorem append (h : NewObjects of lo history) {n : Nat} {c : Container} (hn : of n = some c)
    {es : List Event} (hes : c.Told (fun _ => False) lo hi es) (hle : lo ≤ hi) :
    NewObjects of hi (history ++ es.map (Entry.mk n)) where
  known e he id hid := by
    rcases List.mem_append.mp he with he | he
    · exact (h.mono hle).known e he id hid
    · obtain ⟨e, hmem, rfl⟩ := List.mem_map.mp he
      exact (of_told hn hes hmem).1 id hid
  new e he cls v hv := by
    rcases List.mem_append.mp he with he | he
    · exact h.new e he cls v hv
    · obtain ⟨e, hmem, rfl⟩ := List.mem_map.mp he
      obtain ⟨id, hvalue, -⟩ := (of_told hn hes hmem).2.1 cls v hv
      exact ⟨id, hvalue⟩
  distinct := by
    refine List.pairwise_append.mpr ⟨h.distinct, List.pairwise_map.mpr ?_, ?_⟩
    · refine hes.distinct.imp ?_
      rintro e e' hdistinct cls v ⟨c', d, i, hc', hi, hcls, rfl⟩
      obtain rfl := Option.some.inj (hn.symm.trans hc')
      exact hdistinct d i cls hi hcls
    · intro e he e' he' cls v hv id hid hthing
      obtain ⟨e', hmem, rfl⟩ := List.mem_map.mp he'
      obtain ⟨id', rfl, hge⟩ := (of_told hn hes hmem).2.1 cls v hv
      have hlt := h.known e he id hthing
      cases hid
      omega
  supplied e he cls v hv := by
    rcases List.mem_append.mp he with he | he
    · exact (h.mono hle).supplied e he cls v hv
    · obtain ⟨e, hmem, rfl⟩ := List.mem_map.mp he
      obtain ⟨id, hvalue, -, hlt⟩ := (of_told hn hes hmem).2.2 cls v hv
      exact ⟨id, hvalue, hlt⟩
  apart := by
    refine List.pairwise_append.mpr ⟨h.apart, List.pairwise_map.mpr ?_, ?_⟩
    · exact List.pairwise_of_forall fun _ _ hne => absurd rfl hne
    · intro e he e' he' _ cls v cls' v' hv hv'
      obtain ⟨e', hmem, rfl⟩ := List.mem_map.mp he'
      obtain ⟨id, rfl, hlt⟩ := h.supplied e he cls v hv
      obtain ⟨id', rfl, hge, -⟩ := (of_told hn hes hmem).2.2 cls' v' hv'
      intro heq
      cases heq
      omega

end NewObjects

/-! ### What is known of systems -/

namespace System

variable {sys sys' : System} {n k : Nat} {c : Container} {m : Memory} {es : List Event}

/-- What is known of a system. -/
structure Sound (sys : System) : Prop where
  /-- Requests, sessions and contexts refer only to things that are there. -/
  world : sys.world.Grounded
  /-- Only containers of the system made entries. -/
  numbered : ∀ e ∈ sys.history, e.container < sys.containers.length
  /-- Each container is orderly. -/
  orderly : ∀ (n : Nat) (c : Container) (m : Memory), sys.containers[n]? = some ⟨c, m⟩ →
    c.Orderly ⟨m, sys.world⟩ (sys.entries n)
  /-- New objects are new. -/
  objects : NewObjects sys.container? sys.world.things.size sys.history

theorem container?_of_get? (h : sys.containers[n]? = some ⟨c, m⟩) : sys.container? n = some c := by
  rw [container?, h]
  rfl

/-- The entries of a container and those of others. -/
theorem entries_append (cs : List RunningContainer) (w : World) (es : List Event) (n k : Nat) :
    entries ⟨cs, w, sys.history ++ es.map (Entry.mk n)⟩ k =
      if n = k then sys.entries k ++ es else sys.entries k := by
  unfold entries
  rw [List.filter_append, List.map_append, List.filter_map]
  split
  · subst k
    simp [Function.comp_def]
  · next hne => simp [Function.comp_def, hne]

/-- Nothing but what a container remembers changes in the list of containers. -/
theorem container?_set (h : sys.containers[n]? = some ⟨c, m⟩) (m' : Memory) (w : World)
    (history : List Entry) :
    container? ⟨sys.containers.set n ⟨c, m'⟩, w, history⟩ = sys.container? := by
  funext k
  simp only [container?, List.getElem?_set]
  split
  · subst k
    have hlt := (List.getElem?_eq_some_iff.mp h).1
    rw [if_pos hlt, h]
    rfl
  · rfl

/-- What is known of a system stays known when a container enters in the journal what it did. -/
theorem Sound.record (h : sys.Sound) (hn : sys.containers[n]? = some ⟨c, m⟩) {s : State}
    (hsharing : c.sharing.Moves ⟨m, sys.world⟩ s)
    (hfresh : (c.fresh fun _ => False).Moves ⟨m, sys.world⟩ s)
    (hes : State.Entered ⟨m, sys.world⟩ s es) :
    Sound ⟨sys.containers.set n ⟨c, s.memory⟩, s.world, sys.history ++ es.map (Entry.mk n)⟩ := by
  obtain ⟨hfreshInv, hsize, es', hes', htold⟩ := id hfresh
  obtain rfl := hes.unique hes'
  have hlt : n < sys.containers.length := (List.getElem?_eq_some_iff.mp hn).1
  have hworld : s.world.Grounded := (Container.inv_fresh_iff.mp hfreshInv).world
  refine ⟨hworld, fun e he => ?_, fun k c' m' hk => ?_, ?_⟩
  · rw [List.length_set]
    rcases List.mem_append.mp he with he | he
    · exact h.numbered e he
    · obtain ⟨e, -, rfl⟩ := List.mem_map.mp he
      exact hlt
  · rw [entries_append]
    rw [List.getElem?_set] at hk
    split at hk
    · subst k
      cases hk
      rw [if_pos rfl]
      exact (h.orderly n c m hn).step hsharing hfresh hes
    · next hne =>
      rw [if_neg hne]
      exact (h.orderly k c' m' hk).elsewhere hsize hworld
  · rw [container?_set hn]
    exact h.objects.append (container?_of_get? hn) htold hsize

/-- A new container may be added. -/
theorem Sound.add (h : sys.Sound) (hc : c.Grounded ⟨c.initialMemory, sys.world⟩) :
    Sound { sys with containers := sys.containers ++ [⟨c, c.initialMemory⟩] } := by
  refine ⟨h.world, fun e he => ?_, fun k c' m' hk => ?_, ?_⟩
  · rw [List.length_append]
    exact Nat.lt_add_right _ (h.numbered e he)
  · rcases Nat.lt_trichotomy k sys.containers.length with hlt | rfl | hgt
    · rw [List.getElem?_append_left hlt] at hk
      exact h.orderly k c' m' hk
    · rw [List.getElem?_append_right (Nat.le_refl _), Nat.sub_self] at hk
      cases hk
      have hnone : entries { sys with containers := sys.containers ++ [⟨c, c.initialMemory⟩] }
          sys.containers.length = [] := by
        unfold entries
        rw [List.map_eq_nil_iff, List.filter_eq_nil_iff]
        intro e he heq
        exact Nat.ne_of_lt (h.numbered e he) (of_decide_eq_true heq)
      rw [hnone]
      exact .new hc
    · rw [List.getElem?_eq_none (by simp; omega)] at hk
      cases hk
  · refine h.objects.congr fun e he => ?_
    simp only [container?, List.getElem?_append_left (h.numbered e he)]

/-- What is known of a system stays known at each step. -/
theorem Sound.step (h : sys.Sound) (hstep : sys.Step sys') : sys'.Sound := by
  cases hstep with
  | @build c r s es hc hrun hes =>
    have hadd := h.add hc
    have hn : (sys.containers ++ [⟨c, c.initialMemory⟩])[sys.containers.length]? =
        some ⟨c, c.initialMemory⟩ := by simp
    have hinv := hadd.orderly _ _ _ hn
    obtain ⟨hslots, hsharing, -⟩ := c.shares_start _ hinv.slots trivial _ _ hrun
    obtain ⟨hnew, hfresh, -⟩ :=
      c.fresh_start _ _ (Container.inv_fresh_iff.mpr hinv.grounded) trivial _ _ hrun
    have hset : ∀ r r' : RunningContainer,
        (sys.containers ++ [r]).set sys.containers.length r' = sys.containers ++ [r'] := by
      simp
    rw [← hset ⟨c, c.initialMemory⟩]
    exact hadd.record hn ⟨hslots, hsharing⟩ ⟨hnew, hfresh⟩ hes
  | @operate n c m s es hn hop hes =>
    have hinv := h.orderly n c m hn
    have hsharing := hop.moves c.admits_sharing Container.gives_resolve hinv.slots
    have hfresh := hop.moves (c.admits_fresh _) (Container.fresh_resolveWithin _ _)
      (Container.inv_fresh_iff.mpr hinv.grounded)
    exact h.record hn hsharing hfresh hes
  | @elsewhere w hsize hw =>
    refine ⟨hw, h.numbered, fun n c m hn => ?_, h.objects.mono hsize⟩
    exact (h.orderly n c m hn).elsewhere hsize hw

/-- What is known of systems is true of all systems that can come to be. -/
theorem Reached.sound (h : sys.Reached) : sys.Sound := by
  obtain ⟨w, hw, hsteps⟩ := h
  induction hsteps with
  | refl =>
    refine ⟨hw, (fun e he => nomatch he), (fun n c m hn => nomatch hn), ?_⟩
    exact ⟨(fun e he => nomatch he), (fun e he => nomatch he), .nil, (fun e he => nomatch he), .nil⟩
  | tail _ hstep ih => exact ih.step hstep

/-! ### Building and resolving -/

/-- What is entered in the journal of a later world, beyond what is in that of the system. -/
def since (sys : System) (w : World) : List Event :=
  w.journal.toList.drop sys.world.journal.size

theorem entered_since {s s' : State} (hworld : s.world = sys.world)
    (h : ∃ es, s.Entered s' es) : s.Entered s' (sys.since s'.world) := by
  obtain ⟨es, hes⟩ := h
  have hdrop : sys.since s'.world = es := by
    rw [since, hes, hworld]
    exact List.drop_left
  rwa [hdrop]

/-- The system in which a container is built, whether the build fails or not. -/
def build (sys : System) (c : Container) : Option System :=
  (c.start ⟨c.initialMemory, sys.world⟩).map fun (_, s) =>
    { containers := sys.containers ++ [⟨c, s.memory⟩]
      world := s.world
      history := sys.history ++ (sys.since s.world).map (Entry.mk sys.containers.length) }

/-- The system in which a dependency is resolved, whether that fails or not. -/
def resolve (sys : System) (n : Nat) (d : Dependency) : Option System :=
  (sys.containers[n]?).bind fun ⟨c, m⟩ =>
    (c.resolve d ⟨m, sys.world⟩).map fun (_, s) =>
      { containers := sys.containers.set n ⟨c, s.memory⟩
        world := s.world
        history := sys.history ++ (sys.since s.world).map (Entry.mk n) }

/-- At first there are no containers. -/
theorem reached_new {w : World} (hw : w.Grounded) : Reached ⟨[], w, []⟩ := ⟨w, hw, .refl⟩

theorem Reached.step (h : sys.Reached) (hstep : sys.Step sys') : sys'.Reached := by
  obtain ⟨w, hw, hsteps⟩ := h
  exact ⟨w, hw, hsteps.tail hstep⟩

/-- A container may be built. -/
theorem Reached.build (h : sys.Reached) (hc : c.Grounded ⟨c.initialMemory, sys.world⟩)
    (hbuild : sys.build c = some sys') : sys'.Reached := by
  obtain ⟨⟨r, s⟩, hrun, rfl⟩ := Option.map_eq_some_iff.mp hbuild
  obtain ⟨-, hgrows, -⟩ :=
    c.admitsAll_growing.start Container.stages_growing _ trivial trivial _ _ hrun
  exact h.step (.build hc hrun (entered_since rfl hgrows))

/-- A dependency may be resolved. -/
theorem Reached.resolve (h : sys.Reached) {d : Dependency}
    (hresolve : sys.resolve n d = some sys') : sys'.Reached := by
  obtain ⟨⟨c, m⟩, hn, hresolve⟩ := Option.bind_eq_some_iff.mp hresolve
  obtain ⟨⟨r, s⟩, hrun, rfl⟩ := Option.map_eq_some_iff.mp hresolve
  obtain ⟨-, hgrows, -⟩ := c.admitsAll_growing.resolveWithin _ d _ trivial trivial _ _ hrun
  exact h.step (.operate hn (.resolve hrun) (entered_since rfl hgrows))

/-- The container of a draft may be built. -/
theorem Reached.build_draft (h : sys.Reached) {draft : Draft} {w w' : World}
    (hdraft : draft.Grounded w) (hsize : sys.world.things.size ≤ w.things.size)
    {config : ContainerConfig} {classes : ClassTable} {r}
    (hbuild : draft.build config classes w = some (r, w')) :
    ∃ (m : Memory) (es : List Event), Reached
        ⟨sys.containers ++ [⟨draft.container config classes, m⟩], w',
          sys.history ++ es.map (Entry.mk sys.containers.length)⟩ ∧
      ∀ running, r = .ok running → running = ⟨draft.container config classes, m⟩ := by
  obtain ⟨⟨r, s⟩, hrun, heq⟩ := Option.map_eq_some_iff.mp hbuild
  cases heq
  have hlogged : ∀ (notices : List Notice) (w : World), draft.Grounded w →
      draft.Grounded (notices.foldl World.log w) ∧
        w.things.size ≤ (notices.foldl World.log w).things.size := by
    intro notices
    induction notices with
    | nil => exact fun w hw => ⟨hw, Nat.le_refl _⟩
    | cons n notices ih => exact fun w hw => ih (w.log n) (hw.log n)
  obtain ⟨hgrounded, hsize'⟩ := hlogged (Registry.announced draft.definitions).2 w hdraft
  obtain ⟨-, ⟨es, hes⟩, -⟩ :=
    (Container.admitsAll_growing _).start Container.stages_growing _ trivial trivial _ _ hrun
  have helsewhere := h.step (.elsewhere (Nat.le_trans hsize hsize') hgrounded.world)
  refine ⟨s.memory, es, helsewhere.step (.build (hgrounded.container config classes) hrun hes), ?_⟩
  intro running hok
  cases r with
  | error e => cases hok
  | ok => exact (Except.ok.inj hok).symm

/-- The container of modules may be built. -/
theorem Reached.build_modules (h : sys.Reached) {ss : List Statement}
    (hready : ∀ key source scope eager,
      .define key (.ready source) scope eager ∈ flattenAll ss → source.Grounded sys.world)
    {distinct : Bool} {draft : Draft} {w w' : World}
    (hdraft : configureAll ss (.empty distinct, sys.world) = (draft, w))
    {config : ContainerConfig} {classes : ClassTable} {r}
    (hbuild : draft.build config classes w = some (r, w')) :
    ∃ (m : Memory) (es : List Event), Reached
        ⟨sys.containers ++ [⟨draft.container config classes, m⟩], w',
          sys.history ++ es.map (Entry.mk sys.containers.length)⟩ ∧
      ∀ running, r = .ok running → running = ⟨draft.container config classes, m⟩ := by
  have hempty : (Draft.empty distinct).Grounded sys.world :=
    ⟨h.sound.world, fun _ hb => nomatch hb⟩
  obtain ⟨hgrounded, hsize⟩ := grounded_configureAll ss hempty hready
  rw [hdraft] at hgrounded hsize
  exact h.build_draft hgrounded hsize hbuild

end System

end Wiring
