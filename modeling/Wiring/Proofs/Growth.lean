import Wiring.Proofs.Catalogs
import Wiring.Proofs.Requests
import Wiring.Proofs.Variation

/-!
# What Is Kept Is What Would Be Supplied

A container at work keeps ever more: instances in slots, for requests and sessions and in contexts.
A state has *grown* from an earlier one if what was kept then is still kept, and if everything else
that is kept by now could have been supplied then: from the earlier state, the binding of the key
supplies an instance that differs from the kept one at most in counts and identities. So it makes no
difference whether an instance is found or supplied anew. Likewise, if a deferred binding has been
used since, then its use would have come to the same then.

Contexts are not opened, closed or emptied by a container, and requests are not left; a state that
has grown from another tells so as well.

## Main statements

* `Container.Supplies`: what a binding supplies from a given state.
* `Container.Retains`: what becomes of a place where an instance may be kept.
* `Container.Ripens`: what becomes of a deferred binding.
* `Container.Grown`: a state has grown from an earlier one.
* `Container.Grown.changes`, `Container.Grown.setReadiness`, `Container.Grown.setSlot`,
  `Container.Grown.setAttribute`, `Container.Grown.keepInContext`: how it goes on growing.
-/

namespace Wiring

/-- The instance in the slot of a key. -/
def Memory.instance? (m : Memory) (key : Key) : Option Instance :=
  match m.slots.get? key with
  | some (.full i) => some i
  | _ => none

theorem Memory.instance?_eq_some {m : Memory} {key : Key} {i : Instance} :
    m.instance? key = some i ↔ m.slots.get? key = some (.full i) := by
  unfold instance?
  rcases m.slots.get? key with _ | ⟨_ | _ | _⟩ <;> simp

/-- A context that begins to keep an instance keeps what it kept, and no other does anything. -/
theorem World.context_keepInContext (w : World) (name : String) (key : Key) (i : Instance)
    (other : String) : (w.keepInContext name key i).context other =
      if name = other then ⟨(w.context name).isOpen, (w.context name).kept.insert key i⟩
      else w.context other := by
  simp only [keepInContext, context, Table.get?_insert]
  split <;> rfl

namespace Container

variable (c : Container) (s₀ : State)

/-- From `s₀`, the binding of a key supplies an instance that differs from `i` at most in counts and
identities. -/
def Supplies (key : Key) (i : Instance) : Prop :=
  ∃ b i₀ t, c.registry.lookup key = some b ∧ c.supply c.resolve b s₀ = some (.ok i₀, t) ∧
    c.SourceAkin b.source i i₀

/-- What is kept under a key in some place since `s₀`: what was kept then, or else what the binding
of the key supplies. -/
structure Retains (look : State → Option Instance) (key : Key) (s : State) : Prop where
  /-- What was kept is kept. -/
  stays : ∀ i, look s₀ = some i → look s = some i
  /-- What is kept was kept then, or could have been supplied. -/
  supplied : ∀ i, look s = some i → look s₀ = some i ∨ c.Supplies s₀ key i

/-- From `s₀`, the use of a deferred binding comes to `r`. -/
def Forces (key : Key) (d : Deferral) (r : Except ConfigurationError Instance) : Prop :=
  ∃ t, c.force c.resolve key d s₀ = some (r, t)

/-- How far a deferred binding may be since `s₀`: what came of its injection is what its use would
have come to then. -/
structure Ripens (key : Key) (d : Deferral) (r : Readiness) : Prop where
  /-- If it waits, then it waited. -/
  waiting : r = .waiting → s₀.memory.readiness key = .waiting
  /-- If it is ready, then the same object would have been ready then. -/
  ready : ∀ i, r = .ready i → ∃ i₀, c.Forces s₀ key d (.ok i₀) ∧ i.value = i₀.value
  /-- If it has failed, then its use would have failed then. -/
  failed : r = .failed → ∃ e, c.Forces s₀ key d (.error e)

/-- The state has grown from `s₀`. -/
structure Grown (s : State) : Prop where
  /-- The kept catalogs are those of the classes. -/
  faithful : s.Faithful c
  /-- Deferred bindings. -/
  readiness : ∀ (b : Binding) d, c.registry.lookup b.key = some b → b.source.deferral = some d →
    c.Ripens s₀ b.key d (s.memory.readiness b.key)
  /-- The same requests are handled. -/
  continues : s₀.world.Continues s.world
  /-- Requests have the parameters that they had. -/
  parameters : ∀ r, (s.world.request r).parameters = (s₀.world.request r).parameters
  /-- The same contexts are open. -/
  isOpen : ∀ name, (s.world.context name).isOpen = (s₀.world.context name).isOpen
  /-- Slots. -/
  slots : ∀ key, c.Retains s₀ (·.memory.instance? key) key s
  /-- Requests and sessions. -/
  attributes : ∀ K key, c.Retains s₀ (fun s => (s.world.attributes K).get? key) key s
  /-- Contexts. -/
  contexts : ∀ name key, c.Retains s₀ (fun s => (s.world.context name).kept.get? key) key s

variable {c s₀} {s t : State} {key : Key}

/-- A place stays as it is. -/
theorem Retains.of_eq {look : State → Option Instance} (h : c.Retains s₀ look key s)
    (heq : look t = look s) : c.Retains s₀ look key t where
  stays i hi := heq.trans (h.stays i hi)
  supplied i hi := h.supplied i (heq.symm.trans hi)

/-- An instance is put into an empty place. -/
theorem Retains.of_none {look : State → Option Instance} (hnone : look s₀ = none)
    (h : ∀ i, look s = some i → c.Supplies s₀ key i) : c.Retains s₀ look key s where
  stays _ hi := absurd (hnone.symm.trans hi) nofun
  supplied i hi := .inr (h i hi)

/-- An empty place has always been empty. -/
theorem Retains.none {look : State → Option Instance} (h : c.Retains s₀ look key s)
    (hnone : look s = none) : look s₀ = none := by
  cases hbefore : look s₀ with
  | none => rfl
  | some i => exact absurd (hnone.symm.trans (h.stays i hbefore)) nofun

/-- The use of a deferred binding comes to one thing only. -/
theorem Forces.unique {d : Deferral} {r r' : Except ConfigurationError Instance}
    (h : c.Forces s₀ key d r) (h' : c.Forces s₀ key d r') : r = r' := by
  obtain ⟨t, ht⟩ := h
  obtain ⟨t', ht'⟩ := h'
  cases ht.symm.trans ht'
  rfl

/-- A deferred binding is as far as it was. -/
theorem Ripens.refl (c : Container) (s₀ : State) (key : Key) (d : Deferral) :
    c.Ripens s₀ key d (s₀.memory.readiness key) where
  waiting hr := hr
  ready i hr := ⟨i, ⟨_, c.force_of_ready c.resolve d hr⟩, rfl⟩
  failed hr := ⟨_, _, c.force_of_failed c.resolve d hr⟩

/-- What is being injected has not come to anything yet. -/
theorem Ripens.running (c : Container) (s₀ : State) (key : Key) (d : Deferral) :
    c.Ripens s₀ key d .running := ⟨nofun, nofun, nofun⟩

/-- A deferred binding becomes ready with the object that its use would have come to. -/
theorem Ripens.of_ready {d : Deferral} {i i₀ : Instance} (h : c.Forces s₀ key d (.ok i₀))
    (hvalue : i.value = i₀.value) : c.Ripens s₀ key d (.ready i) := by
  refine ⟨nofun, fun j hj => ?_, nofun⟩
  cases hj
  exact ⟨i₀, h, hvalue⟩

/-- A deferred binding fails whose use would have failed. -/
theorem Ripens.of_failed {d : Deferral} {e : ConfigurationError}
    (h : c.Forces s₀ key d (.error e)) : c.Ripens s₀ key d .failed :=
  ⟨nofun, nofun, fun _ => ⟨e, h⟩⟩

namespace Grown

theorem refl (hs : s₀.Faithful c) : c.Grown s₀ s₀ where
  faithful := hs
  readiness b d _ _ := .refl c s₀ b.key d
  continues := .refl _
  parameters _ := rfl
  isOpen _ := rfl
  slots _ := ⟨fun _ hi => hi, fun _ hi => .inl hi⟩
  attributes _ _ := ⟨fun _ hi => hi, fun _ hi => .inl hi⟩
  contexts _ _ := ⟨fun _ hi => hi, fun _ hi => .inl hi⟩

/-- Nothing begins to be kept. -/
theorem quiet (h : c.Grown s₀ s) (hfaithful : t.Faithful c)
    (hslots : t.memory.slots = s.memory.slots) (hdeferred : t.memory.deferred = s.memory.deferred)
    (hcontinues : s.world.Continues t.world)
    (hparameters : ∀ r, (t.world.request r).parameters = (s.world.request r).parameters)
    (hattributes : ∀ K, t.world.attributes K = s.world.attributes K)
    (hcontexts : t.world.contexts = s.world.contexts) : c.Grown s₀ t where
  faithful := hfaithful
  readiness b d hb hd := by
    rw [Memory.readiness, hdeferred]
    exact h.readiness b d hb hd
  continues := h.continues.trans hcontinues
  parameters r := (hparameters r).trans (h.parameters r)
  isOpen name := by
    rw [World.context, hcontexts]
    exact h.isOpen name
  slots key := (h.slots key).of_eq (by simp only [Memory.instance?, hslots])
  attributes K key := (h.attributes K key).of_eq (by simp only [hattributes K])
  contexts name key := (h.contexts name key).of_eq (by simp only [World.context, hcontexts])

theorem changes (h : c.Grown s₀ s) (hchanges : c.Changes s t) : c.Grown s₀ t := by
  have hfaithful : t.Faithful c := by
    have hmoves := c.admitsAll_faithful.changes h.faithful hchanges
    exact hmoves.1
  exact h.quiet hfaithful hchanges.slots hchanges.deferred hchanges.continues hchanges.parameters
    hchanges.attributes hchanges.contexts

/-- Entries in the journal do not matter, be they marks or not. -/
theorem emit (h : c.Grown s₀ s) (e : Event) : c.Grown s₀ (s.inWorld (s.world.emit e)) :=
  h.quiet h.faithful rfl rfl (s.world.continues_emit e) (fun _ => rfl) (s.world.attributes_emit e)
    rfl

/-- A deferred binding may go on, as far as it may be. -/
theorem setReadiness (h : c.Grown s₀ s) {r : Readiness}
    (hr : ∀ (b : Binding) d, b.key = key → c.registry.lookup b.key = some b →
      b.source.deferral = some d → c.Ripens s₀ b.key d r) :
    c.Grown s₀ { s with memory := s.memory.setReadiness key r } where
  faithful := h.faithful
  readiness b d hb hd := by
    dsimp only
    rw [Memory.readiness_setReadiness]
    split
    · next hkey => exact hr b d hkey.symm hb hd
    · exact h.readiness b d hb hd
  continues := h.continues
  parameters := h.parameters
  isOpen := h.isOpen
  slots k := (h.slots k).of_eq rfl
  attributes K k := (h.attributes K k).of_eq rfl
  contexts name k := (h.contexts name k).of_eq rfl

/-- A slot that has been empty may be busy, or empty again, or hold what its binding supplies. -/
theorem setSlot (h : c.Grown s₀ s) (hnone : s₀.memory.instance? key = none) {cell : Cell}
    (hcell : ∀ i, cell = .full i → c.Supplies s₀ key i) :
    c.Grown s₀ { s with memory := s.memory.setSlot key cell } where
  faithful := h.faithful
  readiness := h.readiness
  continues := h.continues
  parameters := h.parameters
  isOpen := h.isOpen
  slots k := by
    have hget := s.memory.slots.get?_insert key k cell
    by_cases hk : key = k
    · subst hk
      refine .of_none hnone fun i hi => hcell i ?_
      rw [Memory.instance?_eq_some, Memory.setSlot, hget, if_pos rfl] at hi
      exact Option.some.inj hi
    · rw [if_neg hk] at hget
      exact (h.slots k).of_eq (by simp only [Memory.instance?, Memory.setSlot, hget])
  attributes K k := (h.attributes K k).of_eq rfl
  contexts name k := (h.contexts name k).of_eq rfl

/-- A request or a session that keeps nothing under a key may begin to keep what the binding of the
key supplies. -/
theorem setAttribute (h : c.Grown s₀ s) {K : World.Keeper}
    {i : Instance} (hnone : (s.world.attributes K).get? key = none) (hi : c.Supplies s₀ key i) :
    c.Grown s₀ (s.inWorld (s.world.setAttribute K key i)) := by
  have heffect : Effect c (fun _ => True) s (s.inWorld (s.world.setAttribute K key i)) :=
    .keep K key i trivial hnone
  refine ⟨h.faithful, h.readiness,
    h.continues.trans heffect.continues, fun r => (heffect.parameters r).trans (h.parameters r),
    fun name => ?_, fun k => (h.slots k).of_eq rfl, fun K' k => ?_, fun name k => ?_⟩
  · rw [State.inWorld, World.context, World.contexts_setAttribute]
    exact h.isOpen name
  · by_cases hsame : K' = K ∧ k = key
    · obtain ⟨rfl, rfl⟩ := hsame
      refine .of_none ((h.attributes K' k).none hnone) fun j hj => ?_
      rcases World.get?_attributes_setAttribute hj with ⟨-, rfl⟩ | hj
      · exact hi
      · rw [hnone] at hj
        cases hj
    · refine (h.attributes K' k).of_eq ?_
      exact World.get?_setAttribute_of_ne (not_and_or.mp hsame)
  · refine (h.contexts name k).of_eq ?_
    simp only [State.inWorld, World.context, World.contexts_setAttribute]

/-- A context that has kept nothing under a key may begin to keep what the binding of the key
supplies. -/
theorem keepInContext (h : c.Grown s₀ s) {name : String} {i : Instance}
    (hnone : (s₀.world.context name).kept.get? key = none) (hi : c.Supplies s₀ key i) :
    c.Grown s₀ (s.inWorld (s.world.keepInContext name key i)) := by
  have heffect : Effect c (fun _ => True) s (s.inWorld (s.world.keepInContext name key i)) :=
    .context name key i trivial
  have hget := s.world.context_keepInContext name key i
  refine ⟨h.faithful, h.readiness, h.continues.trans heffect.continues, h.parameters,
    fun other => ?_, fun k => (h.slots k).of_eq rfl, fun K k => (h.attributes K k).of_eq ?_,
    fun other k => ?_⟩
  · rw [State.inWorld, hget]
    split
    · next heq =>
      subst heq
      exact h.isOpen name
    · exact h.isOpen other
  · cases K <;> rfl
  · by_cases hsame : name = other ∧ key = k
    · obtain ⟨rfl, rfl⟩ := hsame
      refine .of_none hnone fun j hj => ?_
      rw [State.inWorld, hget, if_pos rfl, Table.get?_insert_self] at hj
      cases hj
      exact hi
    · refine (h.contexts other k).of_eq ?_
      simp only [State.inWorld, hget]
      split
      · next heq =>
        subst heq
        exact Table.get?_insert_of_ne _ _ fun hk => hsame ⟨rfl, hk⟩
      · rfl

end Grown

end Container

end Wiring
