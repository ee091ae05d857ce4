import Wiring.Proofs.Conduct
import Wiring.Proofs.Entries

/-!
# Sharing of Singletons

The journal tells how far the creation of each singleton is. It is announced, the binding begins to
supply the instance, and then there is one, or there is none again. `Phase.replay` follows this
through the entries of the journal, and fails at an entry that does not fit: at an announcement
although an instance is there, for example, or at a resolution that comes to another instance.

A container keeps to the discipline `Container.sharing`: it has a slot for each singleton and no
others, and whatever it does, the entries that it adds to the journal lead from what is in a slot
before to what is in it afterwards.

## Conventions

A phase says more than the cell in the slot, for the slot is busy from the announcement on. A run
that finds the slot of a singleton busy never ends, so it is left busy only by the run that made it
so. That is why busy slots stay in their phase, from outside of which nothing is added about them.

## Main statements

* `Phase.replay`: the phase that entries lead to.
* `Container.sharing`: the discipline of the slots.
* `Container.shares_resolveWithin`: a singleton that is resolved is the one in its slot.
* `Container.shares_start`: building a container keeps to the discipline.
* `Container.resolveWithin_of_full`, `Container.resolveWithin_of_empty`: what resolving a
  singleton comes to.
* `Memory.SharesOnce`: what the journal of a container tells about a singleton.
-/

namespace Wiring

/-! ### Phases -/

/-- Whether an event tells that the binding of `key` supplied an instance. -/
def Event.isSuccess (key : Key) : Event → Bool
  | supplied k (.ok _) => k = key
  | _ => false

/-- How far the creation of a singleton is. -/
inductive Phase where
  /-- There is no instance. -/
  | empty
  /-- There is no instance, and one is to be created. -/
  | announced
  /-- There is no instance, and the binding is supplying one. -/
  | underway
  /-- There is an instance. -/
  | full (i : Instance)
  deriving DecidableEq

namespace Phase

/-- What is in the slot of a singleton in a phase. -/
def cell : Phase → Cell
  | empty => .empty
  | announced | underway => .busy
  | full i => .full i

/-- The phase in which the supply of an instance ends. -/
def ofResult : Except ConfigurationError Instance → Phase
  | .ok i => full i
  | .error _ => empty

/-- The phase of the singleton of `key` after an entry in the journal, if the entry fits. -/
def next (key : Key) (p : Phase) : Event → Option Phase
  | .logged (.creatingSingleton k) =>
    if k = key then (if p = empty then some announced else none) else some p
  | .supplying k => if k = key then (if p = announced then some underway else none) else some p
  | .supplied k r => if k = key then (if p = underway then some (ofResult r) else none) else some p
  | .resolved d (.ok i) => if d.key = key then (if p = full i then some p else none) else some p
  | _ => some p

/-- The phase of the singleton of `key` after some entries in the journal, if they fit. -/
def replay (key : Key) (p : Phase) : List Event → Option Phase
  | [] => some p
  | e :: es => (p.next key e).bind fun q => q.replay key es

variable {key : Key} {p q : Phase} {e : Event} {es fs : List Event}

/-- Only marks matter for phases. -/
theorem next_of_not_isMark (key : Key) (p : Phase) (h : e.isMark = false) :
    p.next key e = some p := by
  cases e with
  | logged n =>
    cases n with
    | creatingSingleton k => cases h
    | _ => rfl
  | supplying k => cases h
  | supplied k r => cases h
  | resolved d r => cases h
  | _ => rfl

/-- The stages of a build do not matter for phases. -/
theorem next_of_stage (key : Key) (p : Phase) (h : e.stage ≠ 0) : p.next key e = some p := by
  cases e with
  | logged n =>
    cases n with
    | creatingSingleton k => exact absurd rfl h
    | _ => rfl
  | supplying k => exact absurd rfl h
  | supplied k r => exact absurd rfl h
  | resolved d r => exact absurd rfl h
  | _ => rfl

/-- A binding begins to supply an instance only after that was announced. -/
theorem eq_announced_of_next (h : p.next key (.supplying key) = some q) : p = announced := by
  simp only [next, if_true] at h
  split at h
  · assumption
  · cases h

/-- After a failure there is no instance. -/
theorem eq_empty_of_next {e : ConfigurationError}
    (h : p.next key (.supplied key (.error e)) = some q) : q = empty := by
  simp only [next, if_true] at h
  split at h
  · exact (Option.some.inj h).symm
  · cases h

/-- Resolutions come to the instance that is there. -/
theorem eq_full_of_resolved {d : Dependency} {i : Instance}
    (h : p.next d.key (.resolved d (.ok i)) = some q) : p = full i := by
  simp only [next, if_true] at h
  split at h
  · assumption
  · cases h

/-- A singleton that is there stays. -/
theorem eq_full_of_next {i : Instance} (h : (full i).next key e = some q) : q = full i := by
  unfold next at h
  split at h <;> grind

/-- Entries are replayed one after another. -/
theorem replay_append (key : Key) (p : Phase) (es fs : List Event) :
    p.replay key (es ++ fs) = (p.replay key es).bind fun q => q.replay key fs := by
  induction es generalizing p with
  | nil => rfl
  | cons e es ih =>
    rw [List.cons_append, replay, replay]
    cases p.next key e with
    | none => rfl
    | some q => exact ih q

/-- One entry. -/
theorem replay_singleton (key : Key) (p : Phase) (e : Event) :
    p.replay key [e] = p.next key e := by
  rw [replay]
  cases p.next key e <;> rfl

/-- Entries that do not matter to a phase. -/
theorem replay_of_silent (h : ∀ e ∈ es, p.next key e = some p) : p.replay key es = some p := by
  induction es with
  | nil => rfl
  | cons e es ih =>
    rw [replay, h e (by simp)]
    exact ih fun e' he' => h e' (by simp [he'])

/-- A full slot stays as it is. -/
theorem eq_full_of_replay {i : Instance} (h : (full i).replay key es = some q) : q = full i := by
  induction es with
  | nil => exact (Option.some.inj h).symm
  | cons e es ih =>
    rw [replay, Option.bind_eq_some_iff] at h
    obtain ⟨p, hp, h⟩ := h
    rw [eq_full_of_next hp] at h
    exact ih h

/-- Where an entry stands, the phases before and after it fit. -/
theorem replay_split {pre post : List Event} (h : p.replay key (pre ++ e :: post) = some q) :
    ∃ p₁ p₂, p.replay key pre = some p₁ ∧ p₁.next key e = some p₂ ∧
      p₂.replay key post = some q := by
  rw [replay_append, Option.bind_eq_some_iff] at h
  obtain ⟨p₁, hpre, h⟩ := h
  rw [replay, Option.bind_eq_some_iff] at h
  obtain ⟨p₂, he, hpost⟩ := h
  exact ⟨p₁, p₂, hpre, he, hpost⟩

/-- An instance is there if it was, or if it was just supplied. -/
theorem next_eq_full_iff {i : Instance} (h : p.next key e = some q) :
    q = full i ↔ p = full i ∨ e = .supplied key (.ok i) := by
  constructor
  · rintro rfl
    unfold next ofResult at h
    split at h <;> grind
  · rintro (rfl | rfl)
    · exact eq_full_of_next h
    · simp only [next, if_true] at h
      split at h
      · exact (Option.some.inj h).symm
      · cases h

/-- An instance is there if it was, or if it was supplied. -/
theorem replay_eq_full_iff {i : Instance} (h : p.replay key es = some q) :
    q = full i ↔ p = full i ∨ .supplied key (.ok i) ∈ es := by
  induction es generalizing p with
  | nil =>
    obtain rfl := Option.some.inj h
    simp
  | cons e es ih =>
    rw [replay, Option.bind_eq_some_iff] at h
    obtain ⟨p', hp', h⟩ := h
    rw [ih h, next_eq_full_iff hp', List.mem_cons, or_assoc, eq_comm (a := e)]

/-- Nothing is supplied any more once an instance is there. -/
theorem not_isSuccess_of_full {i : Instance} (h : (full i).next key e = some q) :
    e.isSuccess key = false := by
  unfold Event.isSuccess
  split
  · next k j =>
    by_cases hk : k = key
    · simp [next, hk] at h
    · simp [hk]
  · rfl

/-- Nothing is created any more once a slot is full. -/
theorem isSuccess_of_replay_full {i : Instance} (h : (full i).replay key es = some q) :
    ∀ e ∈ es, e.isSuccess key = false := by
  induction es with
  | nil => exact fun e he => nomatch he
  | cons e es ih =>
    rw [replay, Option.bind_eq_some_iff] at h
    obtain ⟨p, hp, h⟩ := h
    rw [eq_full_of_next hp] at h
    intro e' he'
    rcases List.mem_cons.mp he' with rfl | he'
    · exact not_isSuccess_of_full hp
    · exact ih h e' he'

/-- The binding of a singleton supplies one instance at most. -/
theorem countP_isSuccess_le (h : p.replay key es = some q) :
    es.countP (Event.isSuccess key) ≤ 1 := by
  induction es generalizing p with
  | nil => simp
  | cons e es ih =>
    rw [replay, Option.bind_eq_some_iff] at h
    obtain ⟨p', hp', h⟩ := h
    cases he : e.isSuccess key with
    | false =>
      rw [List.countP_cons_of_neg (by simp [he])]
      exact ih h
    | true =>
      obtain ⟨i, rfl⟩ : ∃ i, e = .supplied key (.ok i) := by
        unfold Event.isSuccess at he
        split at he
        · exact ⟨_, by rw [of_decide_eq_true he]⟩
        · cases he
      obtain rfl := (next_eq_full_iff hp').mpr (.inr rfl)
      have hnone : es.countP (Event.isSuccess key) = 0 :=
        List.countP_eq_zero.mpr fun e he => by simp [isSuccess_of_replay_full h e he]
      refine Nat.le_of_eq ?_
      rw [List.countP_cons_of_pos he, hnone]

/-- An empty slot is in one phase only, and so is a full one. -/
theorem eq_empty_of_cell (h : p.cell = .empty) : p = empty := by
  cases p <;> first | rfl | cases h

/-- A phase is known by its cell. -/
theorem eq_full_of_cell {i : Instance} (h : p.cell = .full i) : p = full i := by
  cases p with
  | full j =>
    cases h
    rfl
  | _ => cases h

end Phase

/-! ### The discipline -/

namespace Container

variable (c : Container)

/-- Whether the binding in force for a key is that of a singleton. -/
def IsSingleton (key : Key) : Prop :=
  ∃ b, c.registry.lookup key = some b ∧ b.scope = .singleton

/-- The keys of singletons, in the order of the registry. -/
def singletonKeys : List Key := (c.registry.toList.filter (·.scope.isSingleton)).map Binding.key

/-- The entries `es` lead for each singleton from what is in its slot before to what is in it
afterwards. What is being created from outside stays so. -/
def Advances (s s' : State) (es : List Event) : Prop :=
  ∀ key, c.IsSingleton key → ∀ p : Phase, s.memory.slots.get? key = some p.cell →
    ∃ q : Phase, s'.memory.slots.get? key = some q.cell ∧ p.replay key es = some q ∧
      (p.cell = .busy ∨ q.cell = .busy → q = p)

variable {c}

/-- The binding in force tells whether a key is that of a singleton. -/
theorem isSingleton_iff {key : Key} {b : Binding} (hb : c.registry.lookup key = some b) :
    c.IsSingleton key ↔ b.scope = .singleton := by
  constructor
  · rintro ⟨b', hb', hscope⟩
    rw [hb] at hb'
    cases hb'
    exact hscope
  · exact fun hscope => ⟨b, hb, hscope⟩

theorem Advances.refl (s : State) : c.Advances s s [] :=
  fun _ _ p hp => ⟨p, hp, rfl, fun _ => rfl⟩

theorem Advances.trans {s t u : State} {es fs : List Event} (h : c.Advances s t es)
    (h' : c.Advances t u fs) : c.Advances s u (es ++ fs) := by
  intro key hkey p hp
  obtain ⟨q, hq, hes, hpq⟩ := h key hkey p hp
  obtain ⟨r, hr, hfs, hqr⟩ := h' key hkey q hq
  refine ⟨r, hr, ?_, ?_⟩
  · rw [Phase.replay_append, hes]
    exact hfs
  · rintro (hbusy | hbusy)
    · obtain rfl := hpq (.inl hbusy)
      exact hqr (.inl hbusy)
    · obtain rfl := hqr (.inr hbusy)
      exact hpq (.inr hbusy)

/-- Entries that do not matter to what is in the slots. -/
theorem Advances.of_silent {s s' : State} {es : List Event}
    (hslots : s'.memory.slots = s.memory.slots)
    (h : ∀ key, c.IsSingleton key → ∀ p : Phase, s.memory.slots.get? key = some p.cell →
      ∀ e ∈ es, p.next key e = some p) : c.Advances s s' es :=
  fun key hkey p hp =>
    ⟨p, by rw [hslots, hp], Phase.replay_of_silent (h key hkey p hp), fun _ => rfl⟩

variable (c)

/-- The discipline of having a slot for each singleton, and of filling it once. -/
def sharing : Discipline where
  Inv s := s.memory.slots.keys = c.singletonKeys
  Step s s' := ∃ es, s.Entered s' es ∧ c.Advances s s' es
  Known _ _ := True
  refl s := ⟨[], State.Entered.refl s, Advances.refl s⟩
  trans := by
    rintro s t u ⟨es, hes, h⟩ ⟨fs, hfs, h'⟩
    exact ⟨es ++ fs, hes.trans hfs, h.trans h'⟩
  known_step _ h := h

variable {c}

/-- The keys of singletons are those that the registry lists. -/
theorem mem_singletonKeys {key : Key} : key ∈ c.singletonKeys ↔ c.IsSingleton key := by
  unfold singletonKeys IsSingleton
  rw [List.mem_map]
  constructor
  · rintro ⟨b, hb, rfl⟩
    obtain ⟨hb, hscope⟩ := List.mem_filter.mp hb
    exact ⟨b, Registry.lookup_of_mem hb, (Scope.isSingleton_iff _).mp hscope⟩
  · rintro ⟨b, hb, hscope⟩
    refine ⟨b, List.mem_filter.mpr ⟨?_, (Scope.isSingleton_iff _).mpr hscope⟩,
      Registry.key_of_lookup hb⟩
    exact List.mem_map.mpr ⟨(key, b), Table.mem_of_find hb, rfl⟩

/-- Each singleton has a slot, and so there is no way around it. -/
theorem get?_slots {s : State} (hs : c.sharing.Inv s) {key : Key} (hkey : c.IsSingleton key) :
    ∃ cell, s.memory.slots.get? key = some cell := by
  rw [← Option.isSome_iff_exists, Table.get?_isSome_iff]
  have hkeys : s.memory.slots.keys = c.singletonKeys := hs
  rw [hkeys]
  exact mem_singletonKeys.mpr hkey

/-- A slot that is full stays as it is. -/
theorem lasting_full {key : Key} (hkey : c.IsSingleton key) (i : Instance) :
    c.sharing.Lasting fun s => s.memory.slots.get? key = some (.full i) := by
  rintro s s' ⟨es, -, hadv⟩ hfull
  obtain ⟨q, hq, hreplay, -⟩ := hadv key hkey (.full i) hfull
  rw [Phase.eq_full_of_replay hreplay] at hq
  exact hq

/-- An entry that does not matter to what is in the slots may be made. -/
theorem moves_emit {s : State} (hs : c.sharing.Inv s) {e : Event}
    (h : ∀ key, c.IsSingleton key → ∀ p : Phase, s.memory.slots.get? key = some p.cell →
      p.next key e = some p) : c.sharing.Moves s (s.inWorld (s.world.emit e)) := by
  refine ⟨hs, [e], s.entered_emit e, Advances.of_silent rfl fun key hkey p hp e' he' => ?_⟩
  rw [List.mem_singleton.mp he']
  exact h key hkey p hp

/-- The same as a run. -/
theorem allows_emit_silent {e : Event} (h : ∀ key p, Phase.next key p e = some p) :
    c.sharing.Allows (.emit e) :=
  Discipline.Ensures.change fun _ hs _ => moves_emit hs fun key _ p _ => h key p

/-- All effects keep to the discipline. -/
theorem admits_sharing (c : Container) : c.sharing.Admits c where
  effect {s s'} hs h := by
    have hs : s.memory.slots.keys = c.singletonKeys := hs
    obtain ⟨es, hes, hmark⟩ := h.entered
    refine ⟨?_, es, hes, Advances.of_silent h.slots fun key _ p _ e he => ?_⟩
    · change s'.memory.slots.keys = c.singletonKeys
      rw [h.slots, hs]
    · exact Phase.next_of_not_isMark key p (hmark e he)
  fresh _ _ := trivial
  mentioned _ _ := trivial

/-- Deferred bindings may advance. -/
theorem setsReadiness_sharing : Discipline.Conduct.SetsReadiness c.sharing := fun _ _ =>
  Discipline.Ensures.remember fun s hs _ =>
    ⟨hs, [], State.Entered.refl s, Advances.of_silent rfl fun _ _ _ _ _ he => nomatch he⟩

/-! ### Slots -/

variable {self : Dependency → Run Instance} {b : Binding}

/-- The creation of a singleton is announced and begins, and the end of it is entered. -/
theorem entered_creation {s t : State} {key : Key} {es : List Event}
    (hes : (s.creating key).Entered t es) (r : Except ConfigurationError Instance) :
    s.Entered (t.created key r)
      ([.logged (.creatingSingleton key), .supplying key] ++ es ++ [.supplied key r]) := by
  have hbegin : s.Entered (s.creating key)
      [.logged (.creatingSingleton key), .supplying key] := by
    simp [State.Entered, State.creating, World.log, World.emit]
  exact (hbegin.trans hes).trans (t.entered_emit (.supplied key r))

/-- The creation of a singleton leads from an empty slot to one that is full, or empty again. -/
theorem advances_creation {s t : State} {key : Key} (hkey : c.IsSingleton key)
    (hempty : s.memory.slots.get? key = some .empty) {es : List Event}
    (hes : (s.creating key).Entered t es) (hadv : c.Advances (s.creating key) t es)
    (r : Except ConfigurationError Instance) :
    ∃ fs, s.Entered (t.created key r) fs ∧ c.Advances s (t.created key r) fs := by
  refine ⟨_, entered_creation hes r, ?_⟩
  intro k hk p hp
  rw [Phase.replay_append, Phase.replay_append]
  by_cases heq : key = k
  · -- The slot of `key` itself is busy while `es` is entered.
    subst k
    obtain rfl : p = .empty := Phase.eq_empty_of_cell (Option.some.inj (hp.symm.trans hempty))
    have hbusy : (s.creating key).memory.slots.get? key = some Phase.underway.cell := by
      simp [State.creating, Memory.setSlot, Phase.cell]
    obtain ⟨q, -, hreplay, hstay⟩ := hadv key hkey .underway hbusy
    obtain rfl := hstay (.inl rfl)
    have hbegin : Phase.empty.replay key [.logged (.creatingSingleton key), .supplying key] =
        some .underway := by simp [Phase.replay, Phase.next]
    refine ⟨.ofResult r, ?_, ?_, ?_⟩
    · cases r <;> simp [State.created, Memory.setSlot, Cell.ofResult, Phase.ofResult, Phase.cell]
    · rw [hbegin]
      simp [hreplay, Phase.replay, Phase.next]
    · cases r <;> simp [Phase.ofResult, Phase.cell]
  · have hother : (s.creating key).memory.slots.get? k = some p.cell := by
      rw [← hp]
      exact Table.get?_insert_of_ne _ _ heq
    obtain ⟨q, hq, hreplay, hstay⟩ := hadv k hk p hother
    refine ⟨q, ?_, ?_, hstay⟩
    · rw [← hq]
      exact Table.get?_insert_of_ne _ _ heq
    · simp [Phase.replay, Phase.next, heq, hreplay]

/-- The singleton of a binding is created at most once, and then it is the one in its slot. -/
theorem shares_inSlot (hb : c.registry.lookup b.key = some b) (hscope : b.scope = .singleton)
    (hprovision : c.sharing.Allows (c.provision self b)) :
    c.sharing.Ensures (fun _ => True) (inSlot b.key (c.supply self b))
      fun s i => s.memory.slots.get? b.key = some (.full i) := by
  intro s hs _ r s' h
  have hkey : c.IsSingleton b.key := ⟨b, hb, hscope⟩
  obtain ⟨cell, hcell⟩ := get?_slots hs hkey
  cases cell with
  | busy =>
    rw [inSlot_of_busy hcell] at h
    cases h
  | full i =>
    rw [inSlot_of_full hcell] at h
    cases h
    refine ⟨hs, c.sharing.refl s, fun j hj => ?_⟩
    cases hj
    exact hcell
  | empty =>
    rw [c.inSlot_supply_of_empty self hcell] at h
    obtain ⟨⟨r, t⟩, hrun, heq⟩ := Option.map_eq_some_iff.mp h
    cases heq
    have hkeys : s.memory.slots.keys = c.singletonKeys := hs
    have hmem : b.key ∈ s.memory.slots.keys := (Table.get?_isSome_iff ..).mp (by rw [hcell]; rfl)
    have hu : c.sharing.Inv (s.creating b.key) := by
      change (s.memory.slots.insert b.key .busy).keys = c.singletonKeys
      rw [Table.keys_insert, if_pos hmem, hkeys]
    obtain ⟨ht, ⟨es, hes, hadv⟩, -⟩ := hprovision _ hu trivial _ _ hrun
    have htkeys : t.memory.slots.keys = c.singletonKeys := ht
    refine ⟨?_, advances_creation hkey hcell hes hadv r, fun i hi => ?_⟩
    · change (t.memory.slots.insert b.key _).keys = c.singletonKeys
      rw [Table.keys_insert, if_pos (by rw [htkeys, ← hkeys]; exact hmem), htkeys]
    · subst hi
      simp [State.created, Memory.setSlot, Cell.ofResult]

/-! ### Resolution -/

/-- If the key of a dependency is that of a singleton, then its slot holds `i`. -/
def Shares (c : Container) (d : Dependency) (s : State) (i : Instance) : Prop :=
  c.IsSingleton d.key → s.memory.slots.get? d.key = some (.full i)

/-- An instance that is shared stays so. -/
theorem lasting_shares (d : Dependency) (i : Instance) :
    c.sharing.Lasting fun s => c.Shares d s i :=
  fun s s' hstep h hkey => lasting_full hkey i s s' hstep (h hkey)

/-- Nothing is known of instances but what slots they are in. -/
theorem gives_of_shares {x : Run Instance} {V : State → Instance → Prop}
    (h : c.sharing.Ensures (fun _ => True) x V) : c.sharing.Gives x :=
  h.weaken (fun _ h => h) fun _ _ _ _ _ => trivial

/-- Deferred bindings give what is shared. -/
theorem gives_force (hself : ∀ d, c.sharing.Gives (self d))
    (hb : c.registry.lookup b.key = some b) {d : Deferral} (hd : b.source.deferral = some d) :
    c.sharing.Gives (c.force self b.key d) :=
  Discipline.Conduct.force c.admits_sharing setsReadiness_sharing hself hb hd
    (allows_emit_silent fun _ _ => rfl) fun _ _ hs _ => moves_emit hs fun _ _ _ _ => rfl

/-- What a binding supplies outside of slots does not matter to the slots. -/
theorem gives_supply (hself : ∀ d, c.sharing.Gives (self d))
    (hb : c.registry.lookup b.key = some b) (hscope : b.scope ≠ .singleton) :
    c.sharing.Gives (c.supply self b) := by
  have hne : ∀ key, c.IsSingleton key → b.key ≠ key := by
    rintro key hkey rfl
    exact hscope ((isSingleton_iff hb).mp hkey)
  refine Discipline.Conduct.supply (Discipline.Ensures.change fun s hs _ => ?_)
    (fun r s hs _ => ?_) ?_
  · exact moves_emit hs fun key hkey p _ => by simp [Phase.next, hne key hkey]
  · exact moves_emit hs fun key hkey p _ => by simp [Phase.next, hne key hkey]
  · exact Discipline.Conduct.provision c.admits_sharing hself hb fun d hd => gives_force hself hb hd

/-- A singleton that its binding comes to is the one in its slot. -/
theorem shares_resolveBinding (hself : ∀ d, c.sharing.Gives (self d))
    (hb : c.registry.lookup b.key = some b) :
    c.sharing.Ensures (fun _ => True) (c.resolveBinding self b)
      fun s i => c.IsSingleton b.key → s.memory.slots.get? b.key = some (.full i) := by
  by_cases hscope : b.scope = .singleton
  · have hprovision : c.sharing.Gives (c.provision self b) :=
      Discipline.Conduct.provision c.admits_sharing hself hb fun d hd => gives_force hself hb hd
    have hslot := shares_inSlot hb hscope hprovision.allows
    unfold resolveBinding withinScope
    rw [hscope]
    exact hslot.weaken (fun _ h => h) fun _ _ h _ => h
  · have hgives : c.sharing.Gives (c.resolveBinding self b) :=
      Discipline.Conduct.withinScope c.admits_sharing (fun h => absurd h hscope) fun _ =>
        gives_supply hself hb hscope
    exact hgives.weaken (fun _ h => h) fun s i _ hkey =>
      absurd ((isSingleton_iff hb).mp hkey) hscope

/-- A singleton that a dependency comes to is the one in its slot. -/
theorem shares_answer (hself : ∀ d, c.sharing.Gives (self d)) (d : Dependency) :
    c.sharing.Ensures (fun _ => True) (c.answer self d) (c.Shares d) := by
  cases hb : c.registry.lookup d.key with
  | none =>
    have hnot : ¬ c.IsSingleton d.key := by
      rintro ⟨b, hb', -⟩
      rw [hb] at hb'
      cases hb'
    have hgives := Discipline.Conduct.answer c.admits_sharing hself (d := d)
      fun b hb' => by rw [hb] at hb'; cases hb'
    exact hgives.weaken (fun _ h => h) fun s i _ hkey => absurd hkey hnot
  | some b =>
    have hkey := Registry.key_of_lookup hb
    have hbinding := shares_resolveBinding (b := b) hself (by rw [hkey, hb])
    rw [hkey] at hbinding
    unfold answer
    rw [hb]
    exact hbinding

/-- A singleton that a dependency is resolved to is the one in its slot. -/
theorem shares_resolveStep (hself : ∀ d, c.sharing.Gives (self d)) (d : Dependency) :
    c.sharing.Ensures (fun _ => True) (c.resolveStep self d) (c.Shares d) := by
  refine (c.admits_sharing.log _ (by rfl)).bind fun _ => ?_
  refine (shares_answer hself d).noting (lasting_shares d) fun r s hs hr => ?_
  refine moves_emit hs fun key hkey p hp => ?_
  cases r with
  | error e => rfl
  | ok i =>
    by_cases heq : d.key = key
    · subst key
      have hfull := hr i rfl hkey
      rw [hp] at hfull
      obtain rfl := Phase.eq_full_of_cell (Option.some.inj hfull)
      simp [Phase.next]
    · simp [Phase.next, heq]

/-- Within any depth, a dependency is resolved to what is shared. -/
theorem shares_resolveWithin (n : Nat) (d : Dependency) :
    c.sharing.Ensures (fun _ => True) (c.resolveWithin n d) (c.Shares d) := by
  induction n generalizing d with
  | zero => exact Discipline.Ensures.stuck
  | succ n ih => exact shares_resolveStep (fun d => gives_of_shares (ih d)) d

/-- A dependency is resolved to what is shared. -/
theorem gives_resolve (d : Dependency) : c.sharing.Gives (c.resolve d) :=
  gives_of_shares (shares_resolveWithin _ d)

/-- Building a container keeps to the discipline of the slots. -/
theorem shares_start (c : Container) : c.sharing.Allows c.start :=
  Discipline.Conduct.start c.admits_sharing
    (fun _ he _ => allows_emit_silent fun key p => Phase.next_of_stage key p he) gives_resolve
    (fun _ hb _ hd => gives_force gives_resolve (Registry.lookup_of_mem hb) hd) fun _ hb =>
      gives_of_shares (shares_resolveBinding gives_resolve (Registry.lookup_of_mem hb))

/-- The key of a singleton leads to its slot. -/
theorem answer_of_isSingleton (self : Dependency → Run Instance) {d : Dependency}
    (hkey : c.IsSingleton d.key) :
    ∃ b, b.key = d.key ∧ c.registry.lookup b.key = some b ∧
      c.answer self d = inSlot b.key (c.supply self b) := by
  obtain ⟨b, hb, hscope⟩ := hkey
  have hkey := Registry.key_of_lookup hb
  refine ⟨b, hkey, by rw [hkey, hb], ?_⟩
  simp only [answer, hb, resolveBinding, withinScope, hscope]

/-- A singleton that is there is given, and nothing else is done. -/
theorem resolveWithin_of_full {d : Dependency} (hkey : c.IsSingleton d.key) {s : State}
    {i : Instance} (hfull : s.memory.slots.get? d.key = some (.full i)) (n : Nat) :
    ∃ s', c.resolveWithin (n + 1) d s = some (.ok i, s') ∧ s'.memory = s.memory ∧
      s.Entered s' [.logged (.resolving d.key), .resolved d (.ok i)] := by
  obtain ⟨b, hb, -, hanswer⟩ := answer_of_isSingleton (c.resolveWithin n) hkey
  let t := s.inWorld (s.world.log (.resolving d.key))
  have hrun : c.answer (c.resolveWithin n) d t = some (.ok i, t) := by
    rw [hanswer]
    exact inSlot_of_full (by rw [hb]; exact hfull)
  refine ⟨t.inWorld (t.world.emit (.resolved d (.ok i))), ?_, rfl, ?_⟩
  · change (c.answer (c.resolveWithin n) d t).map _ = _
    rw [hrun]
    rfl
  · exact (s.entered_emit (.logged (.resolving d.key))).trans (t.entered_emit _)

/-- A singleton that is not there is tried to be created, and is there if that succeeds. -/
theorem resolveWithin_of_empty {d : Dependency} (hkey : c.IsSingleton d.key) {s s' : State}
    (hempty : s.memory.slots.get? d.key = some .empty) {n : Nat}
    {r : Except ConfigurationError Instance} (h : c.resolveWithin (n + 1) d s = some (r, s')) :
    (∃ es, s.Entered s' (.logged (.resolving d.key) :: .logged (.creatingSingleton d.key) ::
      .supplying d.key :: (es ++ [.supplied d.key r, .resolved d r]))) ∧
      s'.memory.slots.get? d.key = some (.ofResult r) := by
  obtain ⟨b, hbkey, hb, hanswer⟩ := answer_of_isSingleton (c.resolveWithin n) hkey
  obtain ⟨⟨r, t⟩, hrun, heq⟩ := Option.map_eq_some_iff.mp h
  cases heq
  rw [hanswer, c.inSlot_supply_of_empty _ (by rw [hbkey]; exact hempty)] at hrun
  obtain ⟨⟨r, u⟩, hprovision, heq⟩ := Option.map_eq_some_iff.mp hrun
  cases heq
  have hall := c.admitsAll_growing
  have hself := hall.resolveWithin n
  have hgrows := Discipline.Conduct.provision hall.toAdmits hself hb fun _ hd =>
    hall.force hself hb hd
  obtain ⟨-, ⟨es, hes⟩, -⟩ := hgrows _ trivial trivial _ _ hprovision
  rw [hbkey] at hes ⊢
  refine ⟨⟨es, ?_⟩, Table.get?_insert_self ..⟩
  have hend := ((s.entered_emit (.logged (.resolving d.key))).trans (entered_creation hes r)).trans
    ((u.created d.key r).entered_emit (.resolved d r))
  simp only [List.cons_append, List.nil_append, List.append_assoc] at hend
  exact hend

/-! ### New containers -/

/-- The slots of a new container, in order. -/
theorem entries_initialMemory (c : Container) :
    c.initialMemory.slots.entries = c.singletonKeys.map fun key => (key, .empty) := by
  have hnodup : c.singletonKeys.Nodup := by
    have hsub : c.singletonKeys.Sublist c.registry.keys := by
      rw [Registry.keys_eq_map_key]
      exact List.filter_sublist.map _
    exact c.registry.table.nodup_keys.sublist hsub
  have hslots : c.initialMemory.slots = .ofList (c.singletonKeys.map fun key => (key, .empty)) := by
    rw [singletonKeys, List.map_map]
    rfl
  rw [hslots, Table.entries_ofList]
  rw [List.map_map]
  exact (List.map_id _).symm ▸ hnodup

/-- The slots of a new container are empty. -/
theorem eq_empty_of_initialMemory {key : Key} {cell : Cell}
    (h : c.initialMemory.slots.get? key = some cell) : cell = .empty := by
  have hmem := Table.mem_of_find h
  rw [entries_initialMemory] at hmem
  obtain ⟨_, -, heq⟩ := List.mem_map.mp hmem
  cases heq
  rfl

/-- A new container has an empty slot for each singleton, and no others. -/
theorem slots_initialMemory (c : Container) :
    c.initialMemory.slots.keys = c.singletonKeys ∧
      ∀ key, c.IsSingleton key → c.initialMemory.slots.get? key = some .empty := by
  have hkeys : c.initialMemory.slots.keys = c.singletonKeys := by
    rw [Table.keys, entries_initialMemory, List.map_map]
    exact List.map_id _
  refine ⟨hkeys, fun key hkey => ?_⟩
  obtain ⟨cell, hcell⟩ := get?_slots (s := ⟨c.initialMemory, .new⟩) hkeys hkey
  rw [hcell, eq_empty_of_initialMemory hcell]

end Container

/-! ### What the journal tells -/

/-- What it means that a singleton is shared, where its slot is in the memory `m` of its container
and `es` is what the container entered in the journal since it was new. -/
structure Memory.SharesOnce (m : Memory) (es : List Event) (key : Key) : Prop where
  /-- The slot is full if there was an instance, and else it is empty. -/
  slot : (∀ i, m.slots.get? key = some (.full i) ↔ .supplied key (.ok i) ∈ es) ∧
    ((∀ i, .supplied key (.ok i) ∉ es) → m.slots.get? key = some .empty)
  /-- The binding begins to supply an instance only after that was announced for its empty slot. -/
  begun : ∀ pre post, es = pre ++ .supplying key :: post →
    Phase.empty.replay key pre = some .announced ∧ ∀ i, .supplied key (.ok i) ∉ pre
  /-- After a failure the slot is empty again. -/
  failed : ∀ pre post e, es = pre ++ .supplied key (.error e) :: post →
    Phase.empty.replay key (pre ++ [.supplied key (.error e)]) = some .empty
  /-- At most one instance is ever supplied. -/
  once : es.countP (Event.isSuccess key) ≤ 1
  /-- Whatever comes to the key, comes to the instance that was supplied. -/
  same : ∀ pre post d i, d.key = key → es = pre ++ .resolved d (.ok i) :: post →
    .supplied key (.ok i) ∈ pre

/-- If the entries lead to what is in the slot, and it is not busy, then the singleton is shared. -/
theorem Memory.sharesOnce_of_replay {m : Memory} {es : List Event} {key : Key} {p : Phase}
    (hslot : m.slots.get? key = some p.cell) (hbusy : p.cell ≠ .busy)
    (h : Phase.empty.replay key es = some p) : m.SharesOnce es key where
  slot := by
    have hfull : ∀ i, p = .full i ↔ .supplied key (.ok i) ∈ es := fun i => by
      rw [Phase.replay_eq_full_iff h]
      simp
    refine ⟨fun i => ?_, fun hnone => ?_⟩
    · rw [hslot, ← hfull i, Option.some_inj]
      exact ⟨Phase.eq_full_of_cell, fun hp => by rw [hp]; rfl⟩
    · cases p with
      | empty => exact hslot
      | full i => exact absurd ((hfull i).mp rfl) (hnone i)
      | _ => exact absurd rfl hbusy
  begun pre post hes := by
    subst hes
    obtain ⟨p₁, p₂, hpre, hnext, -⟩ := Phase.replay_split h
    obtain rfl := Phase.eq_announced_of_next hnext
    refine ⟨hpre, fun i hmem => ?_⟩
    cases (Phase.replay_eq_full_iff hpre).mpr (.inr hmem)
  failed pre post e hes := by
    subst hes
    obtain ⟨p₁, p₂, hpre, hnext, -⟩ := Phase.replay_split h
    obtain rfl := Phase.eq_empty_of_next hnext
    rw [Phase.replay_append, hpre, Option.bind_some, Phase.replay_singleton, hnext]
  once := Phase.countP_isSuccess_le h
  same pre post d i hd hes := by
    subst hes hd
    obtain ⟨p₁, p₂, hpre, hnext, -⟩ := Phase.replay_split h
    obtain rfl := Phase.eq_full_of_resolved hnext
    exact ((Phase.replay_eq_full_iff hpre).mp rfl).resolve_left nofun

end Wiring
