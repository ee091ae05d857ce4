import Wiring.Proofs.Conduct
import Wiring.Proofs.Entries

/-!
# Freshness of Constructed Objects

A new object gets a number that nothing refers to yet, so it is different from all objects that
resolutions came to before. But it can be looked at only when its members are injected, which may
take many other resolutions, and what these come to must not be that object either.

So the discipline `Container.fresh` has a set of numbers that nobody may come across: those of the
objects under construction. Things that are referred to are there and not among them, and this is
so in particular for what resolutions come to. While the members of a new object are injected, its
number is in the set; that is why everything is stated for all such sets at once.

## Main statements

* `Container.newEach?`: the dependencies that come to a new object each time.
* `Container.Told`: what the journal says about new objects.
* `Container.fresh`: the discipline of objects under construction.
* `Container.made_construct`: a constructed object is a new one.
* `Container.fresh_resolveWithin`, `Container.fresh_start`: containers keep to the discipline.
-/

namespace Wiring

/-- The number of the thing that a resolution came to, if an event tells of it. -/
def Event.thing? : Event → Option Nat
  | resolved _ (.ok i) => i.value.thing?
  | _ => none

/-- Whether an event tells of an instance that was supplied or resolved. -/
def Event.isReport : Event → Bool
  | supplied _ (.ok _) | resolved _ (.ok _) => true
  | _ => false

/-- Reports are marks. -/
theorem Event.isReport_of_not_isMark {e : Event} (h : e.isMark = false) : e.isReport = false := by
  cases e with
  | supplied key r => cases h
  | resolved d r => cases h
  | _ => rfl

/-- Events of later stages of a build are no reports. -/
theorem Event.isReport_of_stage {e : Event} (h : e.stage ≠ 0) : e.isReport = false := by
  cases e with
  | supplied key r => exact absurd rfl h
  | resolved d r => exact absurd rfl h
  | _ => rfl

/-- What is no report is about no thing. -/
theorem Event.thing?_of_not_isReport {e : Event} (h : e.isReport = false) : e.thing? = none := by
  cases e with
  | resolved d r => cases r <;> first | rfl | cases h
  | _ => rfl

/-- The class whose constructor is the source, if it is one. -/
def Source.constructed? : Source → Option ClassPath
  | .constructor cls => some cls
  | _ => none

namespace Container

variable (c : Container)

/-- The class of which a dependency comes to a new object each time: its key is bound to a
constructor without scope, or its class is constructed just in time. -/
def newEach? (d : Dependency) : Option ClassPath :=
  match c.registry.lookup d.key with
  | none => c.justInTime d
  | some b =>
    match b.scope with
    | .unscoped => b.source.constructed?
    | _ => none

/-- What entries in the journal say about new objects, when the things numbered from `lo` up to
`hi` came to be meanwhile and those in `X` are under construction. -/
structure Told (X : Nat → Prop) (lo hi : Nat) (es : List Event) : Prop where
  /-- Resolutions come to things that are there and not under construction. -/
  known : ∀ e ∈ es, ∀ id, e.thing? = some id → id < hi ∧ ¬ X id
  /-- A dependency that comes to a new object each time does so. -/
  new : ∀ d i cls, .resolved d (.ok i) ∈ es → c.newEach? d = some cls →
    ∃ id, i.value = .object cls id ∧ lo ≤ id
  /-- No resolution came to that object before. -/
  distinct : es.Pairwise fun e e' => ∀ d i cls, e' = .resolved d (.ok i) →
    c.newEach? d = some cls → ∀ id, i.value.thing? = some id → e.thing? ≠ some id
  /-- A constructor supplies a new object. -/
  supplied : ∀ key i b cls, .supplied key (.ok i) ∈ es → c.registry.lookup key = some b →
    b.source.constructed? = some cls → ∃ id, i.value = .object cls id ∧ lo ≤ id ∧ id < hi

variable {c} {X : Nat → Prop} {lo mid hi : Nat} {es fs : List Event}

/-- Entries without reports say nothing about new objects. -/
theorem Told.of_silent (h : ∀ e ∈ es, e.isReport = false) : c.Told X lo hi es where
  known e he id hid := by
    rw [Event.thing?_of_not_isReport (h e he)] at hid
    cases hid
  new d i cls hmem := nomatch h _ hmem
  distinct := List.pairwise_of_forall_mem_list fun e he e' _ d i cls _ _ id _ => by
    rw [Event.thing?_of_not_isReport (h e he)]
    exact nofun
  supplied key i b cls hmem := nomatch h _ hmem

theorem Told.nil : c.Told X lo hi [] := .of_silent fun _ h => nomatch h

/-- What is told in turn is told of the things in between. -/
theorem Told.append (h : c.Told X lo mid es) (h' : c.Told X mid hi fs) (hlo : lo ≤ mid)
    (hhi : mid ≤ hi) : c.Told X lo hi (es ++ fs) where
  known e he id hid := by
    rcases List.mem_append.mp he with he | he
    · obtain ⟨hlt, hX⟩ := h.known e he id hid
      exact ⟨Nat.lt_of_lt_of_le hlt hhi, hX⟩
    · exact h'.known e he id hid
  new d i cls hmem hnew := by
    rcases List.mem_append.mp hmem with hmem | hmem
    · exact h.new d i cls hmem hnew
    · obtain ⟨id, hi, hle⟩ := h'.new d i cls hmem hnew
      exact ⟨id, hi, Nat.le_trans hlo hle⟩
  distinct := by
    refine List.pairwise_append.mpr ⟨h.distinct, h'.distinct, ?_⟩
    rintro e he e' he' d i cls rfl hnew id hid hthing
    obtain ⟨hlt, -⟩ := h.known e he id hthing
    obtain ⟨id', hi, hle⟩ := h'.new d i cls he' hnew
    rw [hi] at hid
    cases hid
    omega
  supplied key i b cls hmem hb hsource := by
    rcases List.mem_append.mp hmem with hmem | hmem
    · obtain ⟨id, hi, hle, hlt⟩ := h.supplied key i b cls hmem hb hsource
      exact ⟨id, hi, hle, Nat.lt_of_lt_of_le hlt hhi⟩
    · obtain ⟨id, hi, hle, hlt⟩ := h'.supplied key i b cls hmem hb hsource
      exact ⟨id, hi, Nat.le_trans hlo hle, hlt⟩

/-- What is supplied is entered, provided that constructors supply new objects. -/
theorem Told.supply (h : c.Told X lo hi es) {key : Key} {r : Except ConfigurationError Instance}
    (hr : ∀ i b cls, r = .ok i → c.registry.lookup key = some b → b.source.constructed? = some cls →
      ∃ id, i.value = .object cls id ∧ lo ≤ id ∧ id < hi) :
    c.Told X lo hi (es ++ [.supplied key r]) where
  known e he id hid := by
    rcases List.mem_append.mp he with he | he
    · exact h.known e he id hid
    · rw [List.mem_singleton.mp he] at hid
      cases hid
  new d i cls hmem hnew := by
    rcases List.mem_append.mp hmem with hmem | hmem
    · exact h.new d i cls hmem hnew
    · cases List.mem_singleton.mp hmem
  distinct := by
    refine List.pairwise_append.mpr ⟨h.distinct, List.pairwise_singleton _ _, ?_⟩
    rintro e he e' he' d i cls rfl
    cases List.mem_singleton.mp he'
  supplied key' i b cls hmem hb hsource := by
    rcases List.mem_append.mp hmem with hmem | hmem
    · exact h.supplied key' i b cls hmem hb hsource
    · cases List.mem_singleton.mp hmem
      exact hr i b cls rfl hb hsource

/-- What a resolution comes to is entered, provided that it is known, and a new object where there
should be one. -/
theorem Told.resolve (h : c.Told X lo hi es) {d : Dependency}
    {r : Except ConfigurationError Instance}
    (hknown : ∀ i, r = .ok i → ∀ id, i.value.thing? = some id → id < hi ∧ ¬ X id)
    (hr : ∀ i cls, r = .ok i → c.newEach? d = some cls →
      ∃ id, i.value = .object cls id ∧ lo ≤ id ∧ ∀ e ∈ es, e.thing? ≠ some id) :
    c.Told X lo hi (es ++ [.resolved d r]) where
  known e he id hid := by
    rcases List.mem_append.mp he with he | he
    · exact h.known e he id hid
    · rw [List.mem_singleton.mp he] at hid
      cases r with
      | error e => cases hid
      | ok i => exact hknown i rfl id hid
  new d' i cls hmem hnew := by
    rcases List.mem_append.mp hmem with hmem | hmem
    · exact h.new d' i cls hmem hnew
    · cases List.mem_singleton.mp hmem
      obtain ⟨id, hi, hle, -⟩ := hr i cls rfl hnew
      exact ⟨id, hi, hle⟩
  distinct := by
    refine List.pairwise_append.mpr ⟨h.distinct, List.pairwise_singleton _ _, ?_⟩
    rintro e he e' he' d' i cls rfl hnew id hid
    cases List.mem_singleton.mp he'
    obtain ⟨id', hi, -, hseen⟩ := hr i cls rfl hnew
    rw [hi] at hid
    cases hid
    exact hseen e he
  supplied key i b cls hmem hb hsource := by
    rcases List.mem_append.mp hmem with hmem | hmem
    · exact h.supplied key i b cls hmem hb hsource
    · cases List.mem_singleton.mp hmem

/-- Fewer things under construction. -/
theorem Told.mono {Y : Nat → Prop} (hXY : ∀ id, X id → Y id) (h : c.Told Y lo hi es) :
    c.Told X lo hi es :=
  { h with known := fun e he id hid => (h.known e he id hid).imp_right fun hY hX => hY (hXY id hX) }

variable (c)

/-- The discipline under which nothing refers to the things in `X`, which are under
construction. -/
def fresh (X : Nat → Prop) : Discipline where
  Inv s := (∀ id, X id → id < s.world.things.size) ∧
    ∀ id, c.Mentions s id → id < s.world.things.size ∧ ¬ X id
  Step s s' := s.world.things.size ≤ s'.world.things.size ∧
    ∃ es, s.Entered s' es ∧ c.Told X s.world.things.size s'.world.things.size es
  Known s id := id < s.world.things.size ∧ ¬ X id
  refl s := ⟨Nat.le_refl _, [], State.Entered.refl s, .nil⟩
  trans := by
    rintro s t u ⟨hst, es, hes, htold⟩ ⟨htu, fs, hfs, htold'⟩
    exact ⟨Nat.le_trans hst htu, es ++ fs, hes.trans hfs, htold.append htold' hst htu⟩
  known_step := by
    rintro s t id ⟨hst, -⟩ ⟨hlt, hX⟩
    exact ⟨Nat.lt_of_lt_of_le hlt hst, hX⟩

variable {c}

/-- A change that refers to nothing but known things, and of which entries say nothing. -/
theorem fresh_moves {s s' : State} (hs : (c.fresh X).Inv s)
    (hsize : s.world.things.size ≤ s'.world.things.size)
    (hmentions : ∀ id, c.Mentions s' id → c.Mentions s id ∨ (c.fresh X).Known s id)
    (hes : s.Entered s' es) (htold : c.Told X s.world.things.size s'.world.things.size es) :
    (c.fresh X).Moves s s' := by
  refine ⟨⟨fun id hid => Nat.lt_of_lt_of_le (hs.1 id hid) hsize, fun id hid => ?_⟩, hsize, es, hes,
    htold⟩
  rcases hmentions id hid with hid | ⟨hlt, hX⟩
  · obtain ⟨hlt, hX⟩ := hs.2 id hid
    exact ⟨Nat.lt_of_lt_of_le hlt hsize, hX⟩
  · exact ⟨Nat.lt_of_lt_of_le hlt hsize, hX⟩

/-- All effects keep to the discipline. -/
theorem admits_fresh (c : Container) (X : Nat → Prop) : (c.fresh X).Admits c where
  effect {s s'} hs h := by
    obtain ⟨es, hes, hmark⟩ := h.entered
    refine fresh_moves hs h.size_things (fun id hid => ?_) hes
      (.of_silent fun e he => Event.isReport_of_not_isMark (hmark e he))
    rcases h.mentions hid with hid | ⟨i, hi, hid⟩
    · exact .inl hid
    · exact .inr (hi id hid)
  fresh {s} t hs := by
    refine ⟨by simp [State.inWorld], fun hX => ?_⟩
    exact Nat.lt_irrefl _ (hs.1 _ hX)
  mentioned hs hid := hs.2 _ hid

/-- Deferred bindings may advance. -/
theorem setsReadiness_fresh : Discipline.Conduct.SetsReadiness (c.fresh X) := by
  intro key r
  refine Discipline.Ensures.remember fun s hs hr => ?_
  refine fresh_moves hs (Nat.le_refl _) (fun id hid => ?_) (State.Entered.refl s) .nil
  exact (mentions_of_setReadiness hid).imp_right fun ⟨i, hi, hv⟩ => hr i hi id hv

/-- The slots of singletons may change. -/
theorem setsSlots_fresh : Discipline.Conduct.SetsSlots (c.fresh X) := by
  intro key cell
  refine Discipline.Ensures.remember fun s hs hcell => ?_
  refine fresh_moves hs (Nat.le_refl _) (fun id hid => ?_) (State.Entered.refl s) .nil
  exact (mentions_of_setSlot hid).imp_right fun ⟨i, hi, hv⟩ => hcell i hi id hv

/-! ### Construction -/

/-- The thing numbered `id` came to be since `s₀`, and no resolution came to it. -/
def Unseen (s₀ s : State) (id : Nat) : Prop :=
  s₀.world.things.size ≤ id ∧ id < s.world.things.size ∧
    ∃ es, s₀.Entered s es ∧ ∀ e ∈ es, e.thing? ≠ some id

/-- What is under construction stays unseen. -/
theorem lasting_unseen (s₀ : State) {id : Nat} (hX : X id) :
    (c.fresh X).Lasting fun s => Unseen s₀ s id := by
  rintro s t ⟨hst, fs, hfs, htold⟩ ⟨hle, hlt, es, hes, hseen⟩
  refine ⟨hle, Nat.lt_of_lt_of_le hlt hst, es ++ fs, hes.trans hfs, fun e he hid => ?_⟩
  rcases List.mem_append.mp he with he | he
  · exact hseen e he hid
  · exact (htold.known e he id hid).2 hX

/-- An instance refers to known things, and if it should be an object of a class that came to be
since `s₀`, then it is one that no resolution came to. -/
def Made (c : Container) (X : Nat → Prop) (cls? : Option ClassPath) (s₀ s : State)
    (i : Instance) : Prop :=
  (c.fresh X).Knows s i ∧
    ∀ cls, cls? = some cls → ∃ id, i.value = .object cls id ∧ Unseen s₀ s id

/-- Where no new object is asked for, it is enough to give an instance. -/
theorem made_none {x : Run Instance} (h : (c.fresh X).Gives x) (s₀ : State) :
    (c.fresh X).Ensures ((c.fresh X).Step s₀) x (c.Made X none s₀) :=
  h.weaken (fun _ _ => trivial) fun _ _ hi => ⟨hi, fun _ hcls => nomatch hcls⟩

/-- What keeps to the discipline with more things under construction does so with fewer. -/
theorem narrow {α : Type} {Y : Nat → Prop} (hXY : ∀ id, X id → Y id) {P : State → Prop}
    {V : State → α → Prop} {x : Run α} (h : (c.fresh Y).Ensures P x V) :
    (c.fresh X).Ensures (fun s => (c.fresh Y).Inv s ∧ P s) x
      fun s a => (c.fresh Y).Inv s ∧ V s a := by
  intro s hs hp r s' hx
  obtain ⟨hs', ⟨hsize, es, hes, htold⟩, hv⟩ := h s hp.1 hp.2 r s' hx
  refine ⟨⟨fun id hid => hs'.1 id (hXY id hid), fun id hid => ?_⟩, ?_, fun a ha => ⟨hs', hv a ha⟩⟩
  · exact (hs'.2 id hid).imp_right fun hY hX => hY (hXY id hX)
  · exact ⟨hsize, es, hes, htold.mono hXY⟩

variable {self : Dependency → Run Instance}

/-- `X` with one more thing under construction. -/
def With (X : Nat → Prop) (id : Nat) : Nat → Prop := fun k => X k ∨ k = id

/-- An object that is added may be under construction from then on. -/
theorem begun_addObject (s₀ : State) (cls : ClassPath) (call : Call) :
    (c.fresh X).Ensures ((c.fresh X).Step s₀) (.act (·.addObject cls [call] ∅))
      fun s id => (c.fresh (With X id)).Inv s ∧ Unseen s₀ s id := by
  refine Discipline.Ensures.act fun s hs hbefore => ?_
  obtain ⟨⟨hs', hstep⟩, -⟩ := (c.admits_fresh X).addObject hs cls [call]
  have heffect : Effect c (fun _ => False) s (s.inWorld (s.world.addObject cls [call] ∅).2) :=
    .thing _ rfl
  have hsize : (s.world.addObject cls [call] ∅).2.things.size = s.world.things.size + 1 := by
    simp [World.addObject]
  refine ⟨hs', hstep, ⟨fun id hid => ?_, fun id hid => ?_⟩, ?_⟩
  · rcases hid with hX | rfl
    · exact hs'.1 id hX
    · exact hsize ▸ Nat.lt_succ_self _
  · rcases heffect.mentions hid with hid | ⟨i, hi, -⟩
    · obtain ⟨hlt, hX⟩ := hs.2 id hid
      refine ⟨hsize ▸ Nat.lt_succ_of_lt hlt, ?_⟩
      rintro (hid | rfl)
      · exact hX hid
      · exact Nat.lt_irrefl _ hlt
    · exact hi.elim
  · obtain ⟨hle, es, hes, htold⟩ := hbefore
    refine ⟨hle, hsize ▸ Nat.lt_succ_self _, es, hes, fun e he hid => ?_⟩
    exact Nat.lt_irrefl _ (htold.known e he _ hid).1

/-- The constructor of a class gives an object that is under construction from then on. -/
theorem begun_runConstructor (s₀ : State) (cls : ClassPath) (m : Member) (arguments : Arguments) :
    (c.fresh X).Ensures ((c.fresh X).Step s₀) (runConstructor cls m arguments)
      fun s id => (c.fresh (With X id)).Inv s ∧ Unseen s₀ s id := by
  have hcall := Discipline.Conduct.attemptCall (c.admits_fresh X) m arguments
  unfold runConstructor
  refine Discipline.Ensures.andThen (Discipline.Ensures.lasting_step s₀) hcall fun call => ?_
  refine (begun_addObject s₀ cls call).bind fun id => ?_
  have hemit : (c.fresh (With X id)).Ensures (Unseen s₀ · id) (do
      .emit (.constructed cls id call)
      return id) fun s i => Unseen s₀ s id ∧ i = id := by
    refine Discipline.Ensures.andThen (lasting_unseen s₀ (.inr rfl))
      ((c.admits_fresh (With X id)).emit rfl) fun _ => ?_
    exact Discipline.Ensures.succeed fun s _ hs => ⟨hs, rfl⟩
  refine (narrow (fun _ => .inl) hemit).weaken (fun _ h => h) ?_
  rintro s i ⟨hs, hunseen, rfl⟩
  exact ⟨hs, hunseen⟩

/-- A constructed object is a new one, and no resolution came to it. -/
theorem made_construct (hself : ∀ (X : Nat → Prop) d, (c.fresh X).Gives (self d)) (cls : ClassPath)
    (s₀ : State) : (c.fresh X).Ensures ((c.fresh X).Step s₀) (c.construct self cls)
      (c.Made X (some cls) s₀) := by
  have h := c.admits_fresh X
  have hlasting := Discipline.Ensures.lasting_step (D := c.fresh X) s₀
  have hnew : (c.fresh X).Ensures ((c.fresh X).Step s₀) (c.construct self cls)
      fun s i => ∃ id, i.value = .object cls id ∧ Unseen s₀ s id := by
    unfold construct
    refine Discipline.Ensures.andThen hlasting (h.looks.catalog cls) fun cat => ?_
    refine Discipline.Ensures.andThen hlasting (Discipline.Conduct.constructorOf cat) fun m => ?_
    refine Discipline.Ensures.andThen hlasting (Discipline.Ensures.collect fun d _ =>
      (Discipline.Conduct.resolveRequired (hself X) _ d).allows) fun values => ?_
    refine Discipline.Ensures.andThen hlasting (h.log _ rfl) fun _ => ?_
    refine (begun_runConstructor s₀ cat.cls m _).bind fun id => ?_
    -- From here on the object is under construction, until it is given away.
    have hwith := c.admits_fresh (With X id)
    have hrest : (c.fresh (With X id)).Ensures (Unseen s₀ · id) (do
        c.injectPoints self cat cls id
        .act (·.wrap (.object cls id))) fun s i => i.value = .object cls id ∧ Unseen s₀ s id := by
      refine Discipline.Ensures.andThen (lasting_unseen s₀ (.inr rfl))
        (Discipline.Conduct.injectPoints hwith (hself _) cat cls id) fun _ => ?_
      refine Discipline.Ensures.act fun s hs hunseen => ?_
      obtain ⟨hs', hstep⟩ := hwith.effect hs (.wrap (.object cls id))
      exact ⟨hs', hstep, rfl, lasting_unseen s₀ (.inr rfl) _ _ hstep hunseen⟩
    refine (narrow (fun _ => .inl) hrest).weaken (fun _ h => h) fun s i hi => ?_
    exact ⟨id, hi.2⟩
  have hgives : (c.fresh X).Ensures ((c.fresh X).Step s₀) (c.construct self cls)
      (c.fresh X).Knows :=
    (Discipline.Conduct.construct h (hself X) cls).weaken (fun _ _ => trivial) fun _ _ h => h
  refine (hgives.both hnew).weaken (fun _ h => h) ?_
  rintro s i ⟨hknows, hmade⟩
  refine ⟨hknows, fun cls' hcls => ?_⟩
  cases hcls
  exact hmade

/-! ### Resolution -/

/-- An entry may be made when what it says about new objects is true. -/
theorem fresh_emit {s₀ s : State} {e : Event} (hs : (c.fresh X).Inv s)
    (hstep : (c.fresh X).Step s₀ s)
    (h : ∀ es, s₀.Entered s es →
      c.Told X s₀.world.things.size s.world.things.size es →
      c.Told X s₀.world.things.size s.world.things.size (es ++ [e])) :
    (c.fresh X).Inv (s.inWorld (s.world.emit e)) ∧
      (c.fresh X).Step s₀ (s.inWorld (s.world.emit e)) := by
  obtain ⟨hle, es, hes, htold⟩ := hstep
  refine ⟨⟨hs.1, fun id hid => hs.2 id (mentions_of_emit hid)⟩, hle, es ++ [e], ?_, h es hes htold⟩
  exact hes.trans (s.entered_emit e)

/-- An entry that tells of no instance may be made. -/
theorem fresh_moves_emit {s : State} {e : Event} (hs : (c.fresh X).Inv s)
    (he : e.isReport = false) : (c.fresh X).Moves s (s.inWorld (s.world.emit e)) := by
  refine fresh_emit hs ((c.fresh X).refl s) fun es _ htold => ?_
  refine htold.append (.of_silent fun e' he' => ?_) (Nat.le_refl _) (Nat.le_refl _)
  rwa [List.mem_singleton.mp he']

/-- The same as a run. -/
theorem allows_emit {e : Event} (he : e.isReport = false) : (c.fresh X).Allows (.emit e) :=
  Discipline.Ensures.change fun _ hs _ => fresh_moves_emit hs he

/-- A thing stays unseen when an entry is made that does not tell of it. -/
theorem Unseen.emit {s₀ s : State} {id : Nat} (h : Unseen s₀ s id) {e : Event}
    (he : e.thing? ≠ some id) : Unseen s₀ (s.inWorld (s.world.emit e)) id := by
  obtain ⟨hle, hlt, es, hes, hseen⟩ := h
  refine ⟨hle, hlt, es ++ [e], hes.trans (s.entered_emit e), fun e' he' => ?_⟩
  rcases List.mem_append.mp he' with he' | he'
  · exact hseen e' he'
  · rwa [List.mem_singleton.mp he']

/-- Deferred bindings give what is fresh or known. -/
theorem fresh_force {b : Binding} (hself : ∀ d, (c.fresh X).Gives (self d))
    (hb : c.registry.lookup b.key = some b) {d : Deferral} (hd : b.source.deferral = some d) :
    (c.fresh X).Gives (c.force self b.key d) :=
  Discipline.Conduct.force (c.admits_fresh X) setsReadiness_fresh hself hb hd (allows_emit rfl)
    fun _ _ hs _ => fresh_moves_emit hs rfl

/-- A binding of a constructor provides new objects. -/
theorem made_provision {b : Binding} (hself : ∀ (X : Nat → Prop) d, (c.fresh X).Gives (self d))
    (hb : c.registry.lookup b.key = some b) (s₀ : State) :
    (c.fresh X).Ensures ((c.fresh X).Step s₀) (c.provision self b)
      (c.Made X b.source.constructed? s₀) := by
  have hgives : (c.fresh X).Gives (c.provision self b) :=
    Discipline.Conduct.provision (c.admits_fresh X) (hself X) hb fun d hd =>
      fresh_force (hself X) hb hd
  cases hsource : b.source with
  | constructor cls =>
    have hprovision : c.provision self b = c.construct self cls := by
      unfold provision
      rw [hsource]
    rw [hprovision]
    exact made_construct hself cls s₀
  | _ => exact made_none hgives s₀

/-- What is supplied was made since, or is known. -/
theorem made_supply {b : Binding} (hself : ∀ (X : Nat → Prop) d, (c.fresh X).Gives (self d))
    (hb : c.registry.lookup b.key = some b) (s₀ : State) :
    (c.fresh X).Ensures ((c.fresh X).Step s₀) (c.supply self b)
      (c.Made X b.source.constructed? s₀) := by
  have hbegin : (c.fresh X).Allows (.emit (.supplying b.key)) := allows_emit rfl
  refine Discipline.Ensures.andThen (Discipline.Ensures.lasting_step s₀) hbegin fun _ => ?_
  refine Discipline.Ensures.noting_since (made_provision hself hb) (fun s₀ s r hs hstep hr => ?_) s₀
  obtain ⟨hs', hstep'⟩ := fresh_emit (e := .supplied b.key r) hs hstep fun es _ htold =>
    htold.supply fun i b' cls hi hb' hcls => by
      rw [hb] at hb'
      cases hb'
      obtain ⟨id, hvalue, hle, hlt, -⟩ := (hr i hi).2 cls hcls
      exact ⟨id, hvalue, hle, hlt⟩
  refine ⟨hs', hstep', fun i hi => ⟨(hr i hi).1, fun cls hcls => ?_⟩⟩
  obtain ⟨id, hvalue, hunseen⟩ := (hr i hi).2 cls hcls
  exact ⟨id, hvalue, hunseen.emit nofun⟩

/-- Runs that give what is asked for since any state before give an instance. -/
theorem fresh_of_since {x : Run Instance} {V : State → State → Instance → Prop}
    (h : ∀ s₀, (c.fresh X).Ensures ((c.fresh X).Step s₀) x (V s₀))
    (hV : ∀ s₀ s i, V s₀ s i → (c.fresh X).Knows s i) : (c.fresh X).Gives x := by
  intro s hs _ r s' hx
  obtain ⟨hs', hstep, hv⟩ := h s s hs ((c.fresh X).refl s) r s' hx
  exact ⟨hs', hstep, fun i hi => hV s s' i (hv i hi)⟩

/-- Bindings give what is fresh or known. -/
theorem fresh_resolveBinding {b : Binding}
    (hself : ∀ (X : Nat → Prop) d, (c.fresh X).Gives (self d))
    (hb : c.registry.lookup b.key = some b) : (c.fresh X).Gives (c.resolveBinding self b) := by
  have h := c.admits_fresh X
  have hsupply := fresh_of_since (made_supply (X := X) hself hb) fun _ _ _ hmade => hmade.1
  have hlog : (c.fresh X).Allows (.log (.creatingSingleton b.key)) := allows_emit rfl
  exact Discipline.Conduct.withinScope h
    (fun _ => Discipline.Conduct.inSlot h setsSlots_fresh b.key hlog hsupply) fun _ => hsupply

/-- A dependency that comes to a new object each time does so. -/
theorem made_answer (hself : ∀ (X : Nat → Prop) d, (c.fresh X).Gives (self d)) (d : Dependency)
    (s₀ : State) : (c.fresh X).Ensures ((c.fresh X).Step s₀) (c.answer self d)
      (c.Made X (c.newEach? d) s₀) := by
  have hgives : (c.fresh X).Gives (c.answer self d) :=
    Discipline.Conduct.answer (c.admits_fresh X) (hself X) fun b hb =>
      fresh_resolveBinding hself (by rw [Registry.key_of_lookup hb, hb])
  cases hnew : c.newEach? d with
  | none => exact made_none hgives s₀
  | some cls =>
    unfold newEach? at hnew
    cases hb : c.registry.lookup d.key with
    | none =>
      rw [hb] at hnew
      have hanswer : c.answer self d = c.construct self cls := by
        simp only [answer, hb, hnew]
      rw [hanswer]
      exact made_construct hself cls s₀
    | some b =>
      simp only [hb] at hnew
      cases hscope : b.scope with
      | unscoped =>
        rw [hscope] at hnew
        have hanswer : c.answer self d = c.supply self b := by
          simp only [answer, hb, resolveBinding, withinScope, hscope]
        rw [hanswer, ← hnew]
        exact made_supply hself (by rw [Registry.key_of_lookup hb, hb]) s₀
      | _ =>
        rw [hscope] at hnew
        cases hnew

/-- Resolving a dependency keeps to the discipline. -/
theorem fresh_resolveStep (hself : ∀ (X : Nat → Prop) d, (c.fresh X).Gives (self d))
    (X : Nat → Prop) (d : Dependency) : (c.fresh X).Gives (c.resolveStep self d) := by
  refine ((c.admits_fresh X).log _ (by rfl)).bind fun _ => ?_
  refine fresh_of_since (V := fun _ => (c.fresh X).Knows) (fun s₀ => ?_) fun _ _ _ h => h
  refine Discipline.Ensures.noting_since (W := fun _ => (c.fresh X).Knows) (made_answer hself d)
    (fun s₀ s r hs hstep hr => ?_) s₀
  obtain ⟨hs', hstep'⟩ := fresh_emit (e := .resolved d r) hs hstep fun es hes htold =>
    htold.resolve (fun i hi => (hr i hi).1) fun i cls hi hcls => by
      obtain ⟨id, hvalue, hle, hlt, es', hes', hseen⟩ := (hr i hi).2 cls hcls
      obtain rfl := hes.unique hes'
      exact ⟨id, hvalue, hle, hseen⟩
  exact ⟨hs', hstep', fun i hi => (hr i hi).1⟩

/-- Within any depth, a dependency is resolved to what is fresh or known. -/
theorem fresh_resolveWithin (X : Nat → Prop) (n : Nat) (d : Dependency) :
    (c.fresh X).Gives (c.resolveWithin n d) := by
  induction n generalizing X d with
  | zero => exact Discipline.Ensures.stuck
  | succ n ih => exact fresh_resolveStep ih X d

/-- Building a container keeps to the discipline. -/
theorem fresh_start (c : Container) (X : Nat → Prop) : (c.fresh X).Allows c.start := by
  have hself : ∀ (X : Nat → Prop) d, (c.fresh X).Gives (c.resolve d) := fun X d =>
    fresh_resolveWithin X _ d
  exact Discipline.Conduct.start (c.admits_fresh X)
    (fun _ he _ => allows_emit (Event.isReport_of_stage he)) (hself X)
    (fun b hb d hd => fresh_force (hself X) (Registry.lookup_of_mem hb) hd)
    fun b hb => fresh_resolveBinding hself (Registry.lookup_of_mem hb)

end Container

end Wiring
