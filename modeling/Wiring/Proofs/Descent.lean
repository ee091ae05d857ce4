import Wiring.Proofs.Lineage

/-!
# What Is Kept Comes From Where It Should

A container at work keeps ever more, and it injects ever more objects. What was not kept from before
comes from the source of its binding, and a deferred binding that is ready has got what it is owed.
This is the invariant on which it rests that resolved instances stem from their dependencies. It is
stated here, with the changes of state that keep it.

## Conventions

That what is kept grows in the right way is known already (`Container.Grown`). So it is left to
follow the calls: from the arguments that are resolved for a member to the history of the object
that it is called on, and from there to the instance.

## Main statements

* `Container.Stored`: what is kept comes from where it should.
* `Container.Descended`, `Container.descending`: the states that a container comes to, and how.
* `Container.Descended.changes`: changes by which nothing begins to be kept.
* `Container.Stored.setReadiness`, `Container.Stored.setSlot`, `Container.Stored.setAttribute`,
  `Container.Stored.keepInContext`: how something begins to be kept.
* `Container.Equipped`, `Container.Reaches.record`: what an object has been given since some state.
* `Container.Bestowed.addObject`: a copy has been given what its original has been given.
-/

namespace Wiring

namespace Container

variable (c : Container) (s₀ : State)

/-! ### What is kept -/

/-- What is kept in some place for a binding was kept there before, or it comes from its source. -/
def Houses (look : State → Option Instance) (b : Binding) (s : State) : Prop :=
  ∀ i, look s = some i → look s₀ = some i ∨ c.Sourced s₀ s.world b.source i

/-- What is kept comes from where it should. -/
structure Stored (s : State) : Prop where
  /-- Slots. -/
  slots : ∀ b : Binding, c.registry.lookup b.key = some b →
    c.Houses s₀ (·.memory.instance? b.key) b s
  /-- Requests and sessions. -/
  attributes : ∀ (b : Binding) K, c.registry.lookup b.key = some b →
    c.Houses s₀ (fun s => (s.world.attributes K).get? b.key) b s
  /-- Contexts. -/
  contexts : ∀ (b : Binding) name, c.registry.lookup b.key = some b →
    c.Houses s₀ (fun s => (s.world.context name).kept.get? b.key) b s
  /-- Objects that are ready. -/
  ready : ∀ (b : Binding) d i, c.registry.lookup b.key = some b → b.source.deferral = some d →
    s.memory.readiness b.key = .ready i → c.Sourced s₀ s.world (.injected d) i

/-- The state has come from `s₀` by what a container does. -/
structure Descended (s : State) : Prop where
  /-- It has grown. -/
  grown : c.Grown s₀ s
  /-- The parts of objects are objects. -/
  parted : s.world.Parted
  /-- Objects have gone on. -/
  prolonged : s₀.world.ProlongedBy s.world
  /-- What is kept comes from where it should. -/
  stored : c.Stored s₀ s

/-- The discipline of going on in this way. -/
def descending : Discipline where
  Inv := c.Descended s₀
  Step s t := s.world.ProlongedBy t.world
  Known _ _ := True
  refl := prolonging.refl
  trans := prolonging.trans
  known_step _ h := h

variable {c s₀} {s t : State} {α : Type}

/-- A place that is left as it is houses the same. -/
theorem Houses.of_eq {look : State → Option Instance} {b : Binding} (h : c.Houses s₀ look b s)
    (hw : s.world.ProlongedBy t.world) (heq : look t = look s) : c.Houses s₀ look b t :=
  fun i hi => (h i (heq.symm.trans hi)).imp_right (·.mono hw)

/-- Nothing begins to be kept. -/
theorem Stored.quiet (h : c.Stored s₀ s) (hw : s.world.ProlongedBy t.world)
    (hslots : t.memory.slots = s.memory.slots) (hdeferred : t.memory.deferred = s.memory.deferred)
    (hattributes : ∀ K, t.world.attributes K = s.world.attributes K)
    (hcontexts : t.world.contexts = s.world.contexts) : c.Stored s₀ t where
  slots b hb := (h.slots b hb).of_eq hw (by simp only [Memory.instance?, hslots])
  attributes b K hb := (h.attributes b K hb).of_eq hw (by simp only [hattributes])
  contexts b name hb := (h.contexts b name hb).of_eq hw (by simp only [World.context, hcontexts])
  ready b d i hb hd hready := by
    rw [Memory.readiness, hdeferred] at hready
    exact (h.ready b d i hb hd hready).mono hw

namespace Descended

/-- Changes by which nothing begins to be kept. -/
theorem changes (h : c.Descended s₀ s) (hchanges : c.Changes s t) :
    (c.descending s₀).Moves s t := by
  obtain ⟨hparted, hw⟩ := c.admitsAll_prolonging.toAdmits.changes h.parted hchanges
  exact ⟨⟨h.grown.changes hchanges, hparted, h.prolonged.trans hw, h.stored.quiet hw hchanges.slots
    hchanges.deferred hchanges.attributes hchanges.contexts⟩, hw⟩

/-- Entries in the journal do not matter. -/
theorem emit (h : c.Descended s₀ s) (e : Event) :
    (c.descending s₀).Moves s (s.inWorld (s.world.emit e)) := by
  have hw : s.world.ProlongedBy (s.world.emit e) := .of_things rfl
  exact ⟨⟨h.grown.emit e, h.parted, h.prolonged.trans hw, h.stored.quiet hw rfl rfl
    (s.world.attributes_emit e) rfl⟩, hw⟩

end Descended

/-- An instance that stems from a dependency goes on to do so. -/
theorem lasting_stems (d : Dependency) (i : Instance) :
    (c.descending s₀).Lasting fun s => c.Stems s₀ s.world d i := fun _ _ hw h => h.mono hw

/-- An instance that comes from a source goes on to do so. -/
theorem lasting_sourced (source : Source) (i : Instance) :
    (c.descending s₀).Lasting fun s => c.Sourced s₀ s.world source i := fun _ _ hw h => h.mono hw

variable (c s₀) in
/-- What a dependency is resolved to stems from it. -/
def HandsDown (self : Dependency → Run Instance) (d : Dependency) : Prop :=
  (c.descending s₀).Ensures (fun _ => True) (self d) fun s i => c.Stems s₀ s.world d i

variable (c s₀) in
/-- Members of `cls` were called on an object since `w₀`, provided that it was there to begin
with. -/
def Equipped (there : Prop) (w₀ : World) (id : Nat) (cls : ClassPath) (ms : List Member)
    (s : State) : Prop :=
  there → (∃ o, s.world.object? id = some o) ∧
    ∀ n path, Received (c.StemsFrom s₀ n s.world) w₀ s.world id path cls (onPath path ms)

/-- What an object was given stays given. -/
theorem lasting_equipped (there : Prop) (w₀ : World) (id : Nat) (cls : ClassPath)
    (ms : List Member) : (c.descending s₀).Lasting (c.Equipped s₀ there w₀ id cls ms) := by
  intro s t hw h hthere
  obtain ⟨⟨o, ho⟩, hreceived⟩ := h hthere
  obtain ⟨o', ho', -⟩ := hw id o ho
  exact ⟨⟨o', ho'⟩, fun n path => (hreceived n path).mono (fun _ _ => StemsFrom.mono hw) hw⟩

variable (c s₀) in
/-- A member is about to be called on a part of an object, with arguments that stem from its
dependencies. -/
structure Reaches (there : Prop) (w₀ : World) (id : Nat) (cls : ClassPath) (ms : List Member)
    (m : Member) (is : List Instance) (part : Nat) (s : State) : Prop where
  /-- This is what the object was given so far. -/
  equipped : c.Equipped s₀ there w₀ id cls ms s
  /-- The arguments stem from the dependencies. -/
  stems : List.Forall₂ (c.Stems s₀ s.world) m.dependencies is
  /-- The part is reached, and it is an object. -/
  reached : there → s.world.partAt? id m.path = some part ∧ ∃ o, s.world.object? part = some o

section

variable {there : Prop} {w₀ : World} {id part : Nat} {cls : ClassPath} {ms : List Member}
  {m : Member} {is : List Instance}

/-- Arguments that stem from their dependencies go on to do so. -/
theorem lasting_forall₂_stems (ds : List Dependency) (is : List Instance) :
    (c.descending s₀).Lasting fun s => List.Forall₂ (c.Stems s₀ s.world) ds is :=
  fun _ _ hw h => h.imp fun _ _ hstems => hstems.mono hw

/-- A part that is reached stays reached. -/
theorem lasting_reaches :
    (c.descending s₀).Lasting (c.Reaches s₀ there w₀ id cls ms m is part) := by
  refine fun s t hw h => ⟨lasting_equipped _ _ _ _ _ s t hw h.equipped,
    lasting_forall₂_stems _ _ s t hw h.stems, fun hthere => ?_⟩
  obtain ⟨hpart, o, ho⟩ := h.reached hthere
  obtain ⟨o', ho', -⟩ := hw part o ho
  exact ⟨hw.partAt? hpart, o', ho'⟩

/-- The call of a member is recorded. -/
theorem Reaches.record (h : c.Reaches s₀ there w₀ id cls ms m is part s) (w : World) :
    c.Equipped s₀ there w₀ id cls (ms ++ [m])
      (s.inWorld (s.world.record part (w.call m.name (m.valuesOf cls is)))) := by
  have hw : s.world.ProlongedBy (s.world.record part (w.call m.name (m.valuesOf cls is))) :=
    World.prolongedBy_modifyObject fun o _ => o.prolongedBy_record _
  have hlater := lasting_equipped there w₀ id cls ms s
    (s.inWorld (s.world.record part (w.call m.name (m.valuesOf cls is)))) hw h.equipped
  intro hthere
  obtain ⟨hpart, o, ho⟩ := h.reached hthere
  refine ⟨(hlater hthere).1, fun n path => ?_⟩
  -- The call is recorded for the part at the end of its own path only.
  by_cases hpath : m.path = path
  · have hsplit : onPath path (ms ++ [m]) = onPath path ms ++ [m] := by simp [onPath, hpath]
    have hreceived := ((h.equipped hthere).2 n path).mono (fun _ _ => StemsFrom.mono hw)
      (.refl s.world)
    rw [hsplit]
    refine hreceived.snoc ⟨is, w, h.stems.imp fun _ _ hstems => (hstems n).mono hw, rfl⟩ ?_
    exact World.historyAt_record (hpath ▸ hpart) ho _
  · have hsame : onPath path (ms ++ [m]) = onPath path ms := by simp [onPath, hpath]
    rw [hsame]
    exact (hlater hthere).2 n path

end

/-- A new object has no history but the call of its constructor. -/
theorem equipped_addObject {cls : ClassPath} {m : Member} {is : List Instance}
    (hs : c.Descended s₀ s) (hpath : m.path = [])
    (his : List.Forall₂ (c.Stems s₀ s.world) m.dependencies is) (w : World) :
    c.Equipped s₀ True s₀.world s.world.things.size cls [m]
      (s.inWorld (s.world.addObject cls [w.call m.name (m.valuesOf cls is)] ∅).2) := by
  have ho := s.world.object?_addObject_self cls [w.call m.name (m.valuesOf cls is)]
  have hw := (hs.changes (c.changes_addObject s cls [w.call m.name (m.valuesOf cls is)])).2
  have hbefore := World.historyAt_of_none (hs.prolonged.object?_eq_none s.world.object?_size)
  refine fun _ => ⟨⟨_, ho⟩, fun n path => ?_⟩
  by_cases hnil : path = []
  · subst hnil
    have hall : onPath [] [m] = [m] := by simp [onPath, hpath]
    rw [hall]
    refine ⟨_, .cons ⟨is, w, his.imp fun _ _ hstems => (hstems n).mono hw, rfl⟩ .nil, ?_⟩
    rw [hbefore, State.inWorld, World.historyAt_of_partAt? rfl ho]
    exact List.Sublist.refl _
  · have hnone : onPath path [m] = [] := by simp [onPath, hpath, Ne.symm hnil]
    rw [hnone]
    exact .nil (hs.prolonged.trans hw)

/-- Bindings in force for the same key are the same. -/
theorem eq_of_lookup {b b' : Binding} (hb : c.registry.lookup b.key = some b)
    (hb' : c.registry.lookup b'.key = some b') (hkey : b.key = b'.key) : b' = b := by
  rw [hkey] at hb
  exact Option.some.inj (hb'.symm.trans hb)

section

variable {b : Binding} (h : c.Stored s₀ s) (hb : c.registry.lookup b.key = some b)
include h hb

/-- A deferred binding may go on if what is ready has got what it is owed. -/
theorem Stored.setReadiness {d : Deferral} (hd : b.source.deferral = some d) {r : Readiness}
    (hr : ∀ i, r = .ready i → c.Sourced s₀ s.world (.injected d) i) :
    c.Stored s₀ { s with memory := s.memory.setReadiness b.key r } where
  slots := h.slots
  attributes := h.attributes
  contexts := h.contexts
  ready b' d' i hb' hd' hready := by
    rw [Memory.readiness_setReadiness] at hready
    split at hready
    · next hkey =>
      cases eq_of_lookup hb hb' hkey
      cases hd.symm.trans hd'
      exact hr i hready
    · exact h.ready b' d' i hb' hd' hready

/-- A slot may hold what comes from the source of its binding. -/
theorem Stored.setSlot {cell : Cell}
    (hcell : ∀ i, cell = .full i → c.Sourced s₀ s.world b.source i) :
    c.Stored s₀ { s with memory := s.memory.setSlot b.key cell } where
  slots b' hb' i hi := by
    have hget := s.memory.slots.get?_insert b.key b'.key cell
    by_cases hkey : b.key = b'.key
    · cases eq_of_lookup hb hb' hkey
      rw [if_pos rfl] at hget
      have hfull := hget.symm.trans (Memory.instance?_eq_some.mp hi)
      exact .inr (hcell i (Option.some.inj hfull))
    · rw [if_neg hkey] at hget
      refine h.slots b' hb' i ?_
      rw [← hi]
      simp only [Memory.instance?, Memory.setSlot, hget]
  attributes := h.attributes
  contexts := h.contexts
  ready := h.ready

/-- A request or a session may keep what comes from the source of a binding. -/
theorem Stored.setAttribute {K : World.Keeper} {i : Instance}
    (hi : c.Sourced s₀ s.world b.source i) :
    c.Stored s₀ (s.inWorld (s.world.setAttribute K b.key i)) := by
  have hw : s.world.ProlongedBy (s.world.setAttribute K b.key i) :=
    .of_things (World.things_setAttribute ..)
  refine ⟨fun b' hb' => (h.slots b' hb').of_eq hw rfl, fun b' K' hb' j hj => ?_,
    fun b' name hb' => (h.contexts b' name hb').of_eq hw ?_, fun b' d j hb' hd hready =>
    (h.ready b' d j hb' hd hready).mono hw⟩
  · rcases World.get?_attributes_setAttribute hj with ⟨hkey, rfl⟩ | hj
    · cases eq_of_lookup hb hb' hkey.symm
      exact .inr (hi.mono hw)
    · exact (h.attributes b' K' hb' j hj).imp_right fun hsourced => hsourced.mono hw
  · simp only [State.inWorld, World.context, World.contexts_setAttribute]

/-- A context may keep what comes from the source of a binding. -/
theorem Stored.keepInContext {name : String} {i : Instance}
    (hi : c.Sourced s₀ s.world b.source i) :
    c.Stored s₀ (s.inWorld (s.world.keepInContext name b.key i)) := by
  have hw : s.world.ProlongedBy (s.world.keepInContext name b.key i) := .of_things rfl
  refine ⟨fun b' hb' => (h.slots b' hb').of_eq hw rfl,
    fun b' K hb' => (h.attributes b' K hb').of_eq hw (by cases K <;> rfl),
    fun b' other hb' j hj => ?_, fun b' d j hb' hd hready =>
    (h.ready b' d j hb' hd hready).mono hw⟩
  have hold : (s.world.context other).kept.get? b'.key = some j →
      (s₀.world.context other).kept.get? b'.key = some j ∨
        c.Sourced s₀ (s.world.keepInContext name b.key i) b'.source j := fun hj =>
    (h.contexts b' other hb' j hj).imp_right fun hsourced => hsourced.mono hw
  change ((s.world.keepInContext name b.key i).context other).kept.get? b'.key = some j at hj
  rw [World.context_keepInContext] at hj
  split at hj
  · next hname =>
    subst hname
    rw [Table.get?_insert] at hj
    split at hj
    · next hkey =>
      cases hj
      cases eq_of_lookup hb hb' hkey
      exact .inr (hi.mono hw)
    · exact hold hj
  · exact hold hj

end

/-- The injection of a deferred binding begins. -/
theorem Descended.preparing (h : c.Descended s₀ s) {b : Binding} {d : Deferral}
    (hb : c.registry.lookup b.key = some b) (hd : b.source.deferral = some d) :
    (c.descending s₀).Moves s (s.preparing b.key) := by
  have hgrown : c.Grown s₀ { s with memory := s.memory.setReadiness b.key .running } :=
    h.grown.setReadiness fun b d _ _ _ => .running c s₀ b.key d
  exact Descended.emit ⟨hgrown, h.parted, h.prolonged, h.stored.setReadiness hb hd fun _ => nofun⟩
    (.preparing b.key)

/-- The injection of a deferred binding has come to an end. -/
theorem Descended.prepared (h : c.Descended s₀ s) {b : Binding} {d : Deferral}
    (hb : c.registry.lookup b.key = some b) (hd : b.source.deferral = some d)
    {r : Except ConfigurationError Instance} (hgrown : c.Grown s₀ (s.prepared b.key r))
    (hr : ∀ i, r = .ok i → c.Sourced s₀ s.world (.injected d) i) :
    (c.descending s₀).Moves s (s.prepared b.key r) := by
  have hw : s.world.ProlongedBy (s.prepared b.key r).world := .of_things rfl
  have hstored := h.stored.setReadiness hb hd (r := .ofResult r) fun i hready => by
    cases r with
    | error e => cases hready
    | ok j =>
      cases hready
      exact hr i rfl
  exact ⟨⟨hgrown, h.parted, h.prolonged.trans hw, hstored.quiet hw rfl rfl
    (World.attributes_emit _ _) rfl⟩, hw⟩

variable (c s₀) in
/-- Calls of the members that `S` tells of were made on a part of an object. -/
def Bestowed (S : ClassPath → List Member → Prop) (id : Nat) (path : List ClassPath) (s : State) :
    Prop :=
  ∀ n cls ms, S cls ms →
    Received (c.StemsFrom s₀ n s.world) s₀.world s.world id path cls ms

section

variable {S : ClassPath → List Member → Prop}

/-- What was bestowed stays bestowed. -/
theorem lasting_bestowed (id : Nat) (path : List ClassPath) :
    (c.descending s₀).Lasting (c.Bestowed s₀ S id path) := fun _ _ hw h n cls ms hms =>
  (h n cls ms hms).mono (fun _ _ => StemsFrom.mono hw) hw

/-- What comes from a source was given what it is owed. -/
theorem Sourced.bestowed {source : Source} {i : Instance} {cls : ClassPath} {id : Nat}
    (h : c.Sourced s₀ s.world source i) (hvalue : i.value = .object cls id)
    (path : List ClassPath) : c.Bestowed s₀ (c.Owes s₀ source path) id path s := by
  intro n cls' ms howes
  obtain ⟨id', _, hi, hreceived⟩ := (h n).received path cls' ms howes
  cases hvalue.symm.trans hi
  exact hreceived

/-- A copy has the history of what it copies. -/
theorem Bestowed.addObject {id : Nat} {path : List ClassPath} (h : c.Bestowed s₀ S id path s)
    (hs : c.Descended s₀ s) (cls : ClassPath) {history : List Call}
    (hhistory : s.world.historyAt id path <+: history) :
    c.Bestowed s₀ S s.world.things.size [] (s.inWorld (s.world.addObject cls history ∅).2) := by
  intro n cls' ms hms
  obtain ⟨calls, hcalls, hsub⟩ := h n cls' ms hms
  have hw := (hs.changes (c.changes_addObject s cls history)).2
  have hbefore := World.historyAt_of_none (hs.prolonged.object?_eq_none s.world.object?_size) []
  refine ⟨calls, hcalls.imp fun _ _ => .mono fun _ _ => StemsFrom.mono hw, ?_⟩
  rw [hbefore, List.nil_append, State.inWorld,
    World.historyAt_of_partAt? rfl (s.world.object?_addObject_self cls history)]
  exact ((List.sublist_append_right _ calls).trans hsub).trans hhistory.sublist

end

variable (c s₀) in
/-- An instance is what was kept before for a binding, or it comes from its source, if the scope of
the binding takes it from there. -/
structure Fetched (b : Binding) (w : World) (i : Instance) : Prop where
  /-- What was kept is found. -/
  kept : ∀ j, keptBefore? s₀ b = some j → i.value = j.value
  /-- What is drawn from the source comes from the source. -/
  drawn : keptBefore? s₀ b = none → c.Draws s₀ b → c.Sourced s₀ w b.source i

section

variable {b : Binding} {i : Instance} {look : State → Option Instance}

/-- What comes from the source is fetched if nothing was kept. -/
theorem Fetched.of_sourced {w : World} (hnone : keptBefore? s₀ b = none)
    (h : c.Sourced s₀ w b.source i) : c.Fetched s₀ b w i := by
  refine ⟨fun j hj => ?_, fun _ _ => h⟩
  rw [hnone] at hj
  cases hj

/-- What is found in its place is fetched. -/
theorem Fetched.of_found (hretains : c.Retains s₀ look b.key s) (hhouses : c.Houses s₀ look b s)
    (hkept : keptBefore? s₀ b = look s₀) (hi : look s = some i) : c.Fetched s₀ b s.world i := by
  refine ⟨fun j hj => ?_, fun hnone _ => ?_⟩
  · rw [hkept] at hj
    cases hi.symm.trans (hretains.stays j hj)
    rfl
  · rw [hkept] at hnone
    exact (hhouses i hi).resolve_left (by rw [hnone]; nofun)

/-- What is fetched for the binding of a dependency stems from it, if it resembles what is resolved
to begin with. -/
theorem Fetched.sourced {w : World} {d : Dependency} (h : c.Fetched s₀ b w i)
    (hb : c.registry.lookup d.key = some b) {source : Source} (horigin : c.Origin s₀ d source) :
    c.Sourced s₀ w source i := by
  cases horigin with
  | @kept _ j hb' hj =>
    cases hb.symm.trans hb'
    refine fun n => ⟨?_, nofun⟩
    rintro _ ⟨⟩
    exact h.kept _ hj
  | bound hb' hnone hdraws =>
    cases hb.symm.trans hb'
    exact h.drawn hnone hdraws
  | unbound hb' _ => cases hb.symm.trans hb'

end

end Container

end Wiring
