import Wiring.Proofs.Agreement
import Wiring.Proofs.Configuration
import Wiring.Proofs.Depth

/-!
# Resolution Is Local

A resolution has to do with the keys that its dependency leads to, and with no others. Two
containers that bind these keys in the same way answer alike, from states that agree on what is
remembered under them and on the world: they come to the same result, make the same entries in the
journal, asides left out, and change what they remember under these keys in the same way. What they
remember under other keys is not touched. So modules that bind other keys only may be installed at
no risk.

## Conventions

The closure of a dependency is told by one of the containers. As the other binds the keys in it in
the same way, its own closure is the same. Looking at classes is not part of what is compared,
since one container may have kept a catalog that the other has yet to build.

## Main statements

* `Container.Closure`: the keys that a dependency leads to.
* `Container.Agree`, `Container.Abreast`: states that agree on a closure, and what becomes of them.
* `Container.AnswersAlike`: what it means that two containers answer alike.
* `Container.resolution_is_local`: containers that agree on a closure answer alike.
-/

open Relation

namespace Wiring

/-! ### Memories -/

/-- Two memories hold the same under some keys: in slots, of deferred bindings and of calls of
providers. -/
structure Memory.SameUnder (K : Key → Prop) (m m' : Memory) : Prop where
  /-- The same is in slots. -/
  slot : ∀ key, K key → m.slots.get? key = m'.slots.get? key
  /-- Deferred bindings are equally far. -/
  readiness : ∀ key, K key → m.readiness key = m'.readiness key
  /-- Providers were called equally often. -/
  callCount : ∀ key, K key → m.callCount key = m'.callCount key

namespace Memory

variable {m m' : Memory} {K : Key → Prop} {key : Key}

theorem SameUnder.refl (K : Key → Prop) (m : Memory) : SameUnder K m m :=
  ⟨fun _ _ => rfl, fun _ _ => rfl, fun _ _ => rfl⟩

/-- Memories that are the same under keys are so under fewer keys. -/
theorem SameUnder.mono {K' : Key → Prop} (h : SameUnder K m m') (hK : ∀ key, K' key → K key) :
    SameUnder K' m m' :=
  ⟨fun key hk => h.slot key (hK key hk), fun key hk => h.readiness key (hK key hk),
    fun key hk => h.callCount key (hK key hk)⟩

theorem SameUnder.trans {m'' : Memory} (h : SameUnder K m m') (h' : SameUnder K m' m'') :
    SameUnder K m m'' :=
  ⟨fun key hk => (h.slot key hk).trans (h'.slot key hk),
    fun key hk => (h.readiness key hk).trans (h'.readiness key hk),
    fun key hk => (h.callCount key hk).trans (h'.callCount key hk)⟩

/-- A call is counted under its key. -/
theorem callCount_countCall (m : Memory) (key key' : Key) :
    (m.countCall key).callCount key' =
      if key = key' then m.callCount key + 1 else m.callCount key' := by
  unfold callCount countCall
  rw [Table.get?_insert]
  split <;> rfl

/-- Changes under one key only, which come to the same on both sides. -/
theorem SameUnder.change {n n' : Memory} (h : SameUnder K m m') (key : Key)
    (hother : SameUnder (· ≠ key) m n) (hother' : SameUnder (· ≠ key) m' n')
    (hkey : K key → SameUnder (· = key) n n') : SameUnder K n n' where
  slot k hk := by
    by_cases hne : k = key
    · subst hne
      exact (hkey hk).slot k rfl
    · rw [← hother.slot k hne, ← hother'.slot k hne, h.slot k hk]
  readiness k hk := by
    by_cases hne : k = key
    · subst hne
      exact (hkey hk).readiness k rfl
    · rw [← hother.readiness k hne, ← hother'.readiness k hne, h.readiness k hk]
  callCount k hk := by
    by_cases hne : k = key
    · subst hne
      exact (hkey hk).callCount k rfl
    · rw [← hother.callCount k hne, ← hother'.callCount k hne, h.callCount k hk]

/-- Filling a slot changes nothing under other keys. -/
theorem sameUnder_setSlot (m : Memory) (key : Key) (cell : Cell) :
    SameUnder (· ≠ key) m (m.setSlot key cell) :=
  ⟨fun _ hk => (Table.get?_insert_of_ne _ _ hk.symm).symm, fun _ _ => rfl, fun _ _ => rfl⟩

/-- The progress of a deferred binding changes nothing under other keys. -/
theorem sameUnder_setReadiness (m : Memory) (key : Key) (r : Readiness) :
    SameUnder (· ≠ key) m (m.setReadiness key r) :=
  ⟨fun _ _ => rfl, fun _ hk => by rw [readiness_setReadiness, if_neg hk.symm], fun _ _ => rfl⟩

/-- A call that is counted changes nothing under other keys. -/
theorem sameUnder_countCall (m : Memory) (key : Key) :
    SameUnder (· ≠ key) m (m.countCall key) :=
  ⟨fun _ _ => rfl, fun _ _ => rfl, fun _ hk => by rw [callCount_countCall, if_neg hk.symm]⟩

end Memory

/-- What the journal tells, asides left out. -/
def World.telling (w : World) : List Event := w.journal.toList.filter Event.isTelling

namespace Container

variable {c c' : Container} {K : Key → Prop} {s t s₀ t₀ s₁ t₁ : State} {d e : Dependency}

/-! ### States side by side -/

/-- States of two containers agree: on what is remembered under some keys, and on the world but for
what happened before. -/
structure Agree (c c' : Container) (K : Key → Prop) (s t : State) : Prop where
  /-- The same is remembered under the keys. -/
  memory : s.memory.SameUnder K t.memory
  /-- The worlds are the same but for their journals. -/
  world : { s.world with journal := #[] } = { t.world with journal := #[] }
  /-- The first container keeps catalogs of its classes. -/
  faithful : s.Faithful c
  /-- So does the second. -/
  faithful' : t.Faithful c'

/-- From states on which two containers agreed, they have come to states on which they agree, too.
They have touched nothing under other keys, and have made the same entries in the journal. -/
structure Abreast (c c' : Container) (K : Key → Prop) (s₀ t₀ s t : State) : Prop where
  /-- The containers agree. -/
  agree : c.Agree c' K s t
  /-- The first has not touched other keys. -/
  untouched : s₀.memory.SameUnder (¬ K ·) s.memory
  /-- Neither has the second. -/
  untouched' : t₀.memory.SameUnder (¬ K ·) t.memory
  /-- They have entered the same. -/
  told : ∃ es, s.world.telling = s₀.world.telling ++ es ∧ t.world.telling = t₀.world.telling ++ es

/-- States that agree are abreast of themselves. -/
theorem Agree.abreast (h : c.Agree c' K s t) : c.Abreast c' K s t s t :=
  ⟨h, .refl _ _, .refl _ _, [], by simp, by simp⟩

/-- What is done to both worlds keeps states abreast. -/
theorem likeness_abreast (c c' : Container) (K : Key → Prop) (s₀ t₀ : State) :
    Likeness (c.Abreast c' K s₀ t₀) where
  world {α f} hf s t h := by
    obtain ⟨⟨hmemory, hworld, hs, ht⟩, hunt, hunt', es, hes, hes'⟩ := h
    let u : World := { s.world with journal := #[] }
    have hsu : s.world = u.before s.world.journal := s.world.eq_before
    have htu : t.world = u.before t.world.journal := by
      rw [show u = { t.world with journal := #[] } from hworld]
      exact t.world.eq_before
    have hfs : f s.world = _ := (congrArg f hsu).trans (hf u _)
    have hft : f t.world = _ := (congrArg f htu).trans (hf u _)
    have htold : ∀ j : Array Event, ((f u).2.before j).telling =
        j.toList.filter Event.isTelling ++ (f u).2.telling := fun j => by
      simp only [World.telling, World.before, Array.toList_append, List.filter_append]
    rw [hfs, hft]
    refine ⟨rfl, ⟨hmemory, rfl, hs, ht⟩, hunt, hunt', es ++ (f u).2.telling, ?_, ?_⟩
    · rw [htold, ← List.append_assoc, ← hes]
      rfl
    · rw [htold, ← List.append_assoc, ← hes']
      rfl

/-- Looking at classes changes nothing that is compared. -/
theorem Agree.look (h : c.Agree c' K s t) (hs : quiet.Step s s₁) (ht : quiet.Step t t₁)
    (hfaithful : s₁.Faithful c) (hfaithful' : t₁.Faithful c') : c.Agree c' K s₁ t₁ := by
  refine ⟨?_, hs.2.core.symm.trans (h.world.trans ht.2.core), hfaithful, hfaithful'⟩
  rw [hs.1, ht.1]
  exact ⟨h.memory.slot, h.memory.readiness, h.memory.callCount⟩

/-- Catalogs do not matter to whether states are abreast. -/
theorem oblivious_abreast (c c' : Container) (K : Key → Prop) (s₀ t₀ : State) :
    Oblivious c c' (c.Abreast c' K s₀ t₀) where
  faithful h := h.agree.faithful
  faithful' h := h.agree.faithful'
  left {s s₁ t} h hstep hs₁ := by
    have hstep := quiet_of_reading hstep
    obtain ⟨es, hes, hes'⟩ := h.told
    refine ⟨h.agree.look hstep (quiet.refl t) hs₁ h.agree.faithful', ?_, h.untouched', es, ?_, hes'⟩
    · rw [hstep.1]
      exact ⟨h.untouched.slot, h.untouched.readiness, h.untouched.callCount⟩
    · exact hstep.2.journal.symm.trans hes
  right {s t t₁} h hstep ht₁ := by
    have hstep := quiet_of_reading hstep
    obtain ⟨es, hes, hes'⟩ := h.told
    refine ⟨h.agree.look (quiet.refl s) hstep h.agree.faithful ht₁, h.untouched, ?_, es, hes, ?_⟩
    · rw [hstep.1]
      exact ⟨h.untouched'.slot, h.untouched'.readiness, h.untouched'.callCount⟩
    · exact hstep.2.journal.symm.trans hes'

/-- What is remembered under one of the keys may change in the same way on both sides. -/
theorem Abreast.remember (h : c.Abreast c' K s₀ t₀ s t) {key : Key} (hkey : K key)
    {f : Memory → Memory} (hf : ∀ m : Memory, m.SameUnder (· ≠ key) (f m))
    (hsame : (f s.memory).SameUnder (· = key) (f t.memory))
    (hcatalogs : ∀ m, (f m).catalogs = m.catalogs) :
    c.Abreast c' K s₀ t₀ { s with memory := f s.memory } { t with memory := f t.memory } := by
  have hother : ∀ k, ¬ K k → k ≠ key := fun k hk heq => hk (heq ▸ hkey)
  have hnotebook : ∀ u : State, ({ u with memory := f u.memory } : State).notebook = u.notebook :=
    fun u => by rw [State.notebook, State.notebook, hcatalogs]
  refine ⟨⟨h.agree.memory.change key (hf _) (hf _) fun _ => hsame, h.agree.world, ?_, ?_⟩,
    h.untouched.trans ((hf _).mono hother), h.untouched'.trans ((hf _).mono hother), h.told⟩
  · rw [State.Faithful, hnotebook]
    exact h.agree.faithful
  · rw [State.Faithful, hnotebook]
    exact h.agree.faithful'

/-- States that are abreast remember the same under the keys. -/
theorem shares_abreast (s₀ t₀ : State) {key : Key} (hkey : K key) :
    Wiring.Shares (c.Abreast c' K s₀ t₀) key where
  slot h := h.agree.memory.slot key hkey
  setSlot cell h := h.remember hkey (Memory.sameUnder_setSlot · key cell)
    ⟨fun _ hk => by subst hk; simp [Memory.setSlot],
      fun k hk => hk ▸ h.agree.memory.readiness key hkey,
      fun k hk => hk ▸ h.agree.memory.callCount key hkey⟩ fun _ => rfl
  readiness h := h.agree.memory.readiness key hkey
  setReadiness r h := h.remember hkey (Memory.sameUnder_setReadiness · key r)
    ⟨fun k hk => hk ▸ h.agree.memory.slot key hkey,
      fun _ hk => by subst hk; simp [Memory.readiness_setReadiness],
      fun k hk => hk ▸ h.agree.memory.callCount key hkey⟩ fun _ => rfl
  callCount h := h.agree.memory.callCount key hkey
  countCall h := h.remember hkey (Memory.sameUnder_countCall · key)
    ⟨fun k hk => hk ▸ h.agree.memory.slot key hkey,
      fun k hk => hk ▸ h.agree.memory.readiness key hkey,
      fun _ hk => by
        subst hk
        simp [Memory.callCount_countCall, h.agree.memory.callCount _ hkey]⟩ fun _ => rfl

/-! ### Closures -/

/-- The keys that the resolution of `d` has to do with: its own, and those that it leads to. -/
def Closure (c : Container) (d : Dependency) (key : Key) : Prop :=
  ∃ e, ReflTransGen c.Leads d e ∧ e.key = key

/-- Two containers allow the same classes, read the same ones, and bind the keys in the closure of a
dependency in the same way. -/
structure ShareClosure (c c' : Container) (d : Dependency) : Prop where
  /-- Both construct classes just in time, or none does. -/
  jit : c.config.jitBindings = c'.config.jitBindings
  /-- Both read the same classes. -/
  classes : c.classes = c'.classes
  /-- They have the same bindings, or none. -/
  binding : ∀ key, c.Closure d key → c.registry.lookup key = c'.registry.lookup key

/-- Such containers agree on what the dependency leads to. -/
theorem ShareClosure.agreeOn (h : c.ShareClosure c' d) :
    AgreeOn (ReflTransGen c.Leads d) c c' where
  jit := h.jit
  classes := h.classes
  binding e hde := h.binding e.key ⟨e, hde, rfl⟩
  closed _ _ hde hef := hde.tail hef

/-- New containers agree on what they bind in the same way. -/
theorem agree_initial (hK : ∀ key, K key → c.registry.lookup key = c'.registry.lookup key)
    (w : World) : c.Agree c' K ⟨c.initialMemory, w⟩ ⟨c'.initialMemory, w⟩ := by
  refine ⟨⟨fun key hkey => ?_, fun _ _ => rfl, fun _ _ => rfl⟩, rfl, c.faithful_initial w,
    c'.faithful_initial w⟩
  have hiff : c.IsSingleton key ↔ c'.IsSingleton key := by
    unfold IsSingleton
    rw [hK key hkey]
  by_cases hsingleton : c.IsSingleton key
  · rw [c.slots_initialMemory.2 key hsingleton, c'.slots_initialMemory.2 key (hiff.mp hsingleton)]
  · have hnone : ∀ c : Container, ¬ c.IsSingleton key → c.initialMemory.slots.get? key = none :=
      fun c hc => by
        rw [← Option.not_isSome_iff_eq_none, Table.get?_isSome_iff, c.slots_initialMemory.1,
          mem_singletonKeys]
        exact hc
    rw [hnone c hsingleton, hnone c' (mt hiff.mpr hsingleton)]

/-- Keys of higher ranks are not in the closure of a dependency. -/
theorem Ranked.not_closure {rank : Key → Nat} (h : c.Ranked rank) {key : Key}
    (hlt : rank d.key < rank key) : ¬ c.Closure d key := by
  rintro ⟨e, hde, rfl⟩
  have hle : rank e.key ≤ rank d.key := by
    clear hlt
    induction hde with
    | refl => exact Nat.le_refl _
    | tail _ hef ih => exact Nat.le_trans (Nat.le_of_lt (h.lt hef)) ih
  exact Nat.lt_irrefl _ (Nat.lt_of_lt_of_le hlt hle)

/-- Chains are the same in containers that agree on them. -/
theorem AgreeOn.shallow {D : Dependency → Prop} (h : AgreeOn D c c') (hd : D d) {n : Nat}
    (hshallow : c.Shallow n d) : c'.Shallow n d := by
  intro ds hds
  refine hshallow ds ?_
  clear hshallow
  induction ds generalizing d with
  | nil => exact .singleton d
  | cons e ds ih =>
    obtain ⟨hde, hrest⟩ := List.isChain_cons_cons.mp hds
    have hleads := (h.leads_iff hd).mp hde
    exact .cons_cons hleads (ih (h.closed d e hd hleads) hrest)

/-- Nothing under the keys in the closure of a dependency is being created. -/
structure Idle (c : Container) (d : Dependency) (s : State) : Prop where
  /-- No slot is busy. -/
  slots : ∀ key, c.Closure d key → s.memory.slots.get? key ≠ some .busy
  /-- No deferred binding is running. -/
  deferred : ∀ key, c.Closure d key → s.memory.readiness key ≠ .running

/-- In a new container, nothing is being created. -/
theorem idle_initial (c : Container) (d : Dependency) (w : World) :
    c.Idle d ⟨c.initialMemory, w⟩ where
  slots _ _ hbusy := by cases eq_empty_of_initialMemory hbusy
  deferred _ _ hrunning := nomatch hrunning

/-- A resolution without circles comes to an end if nothing that it needs is being created. -/
theorem ends_of_idle (hd : c.Acyclic d) (hs : s.Faithful c)
    (hidle : c.Idle d s) : ∃ r t, c.resolve d s = some (r, t) := by
  refine (terminates_resolve hd (s.memory.slots.get? · = some .busy)
    (s.memory.readiness · = .running) (fun e hde => ?_) fun e hde => ?_).ends trivial
    ⟨hs, fun _ hkey => hkey, fun _ hkey => hkey⟩ trivial
  · exact hidle.slots e.key ⟨e, hde, rfl⟩
  · exact hidle.deferred e.key ⟨e, hde, rfl⟩

/-! ### The theorem -/

/-- Two containers answer alike about a dependency, from states on which they agree under the keys
in its closure. They come to states on which they still agree, and have touched nothing else. -/
structure AnswersAlike (c c' : Container) (d : Dependency) : Prop where
  /-- Whether it can be resolved. -/
  ask : ∀ s t, c.Agree c' (c.Closure d) s t →
    SameOutcome (c.Abreast c' (c.Closure d) s t) (c.canResolve d s) (c'.canResolve d t)
  /-- What it is resolved to within some depth. -/
  within : ∀ s t, c.Agree c' (c.Closure d) s t → ∀ n,
    SameOutcome (c.Abreast c' (c.Closure d) s t) (c.resolveWithin n d s) (c'.resolveWithin n d t)
  /-- What it is resolved to. -/
  resolve : ∀ s t, c.Agree c' (c.Closure d) s t → ∀ r r' s' t', c.resolve d s = some (r, s') →
    c'.resolve d t = some (r', t') → r' = r ∧ c.Abreast c' (c.Closure d) s t s' t'
  /-- Both resolutions come to an end if there are no circles and nothing is being created. -/
  ends : ∀ s t, c.Agree c' (c.Closure d) s t → c.Acyclic d → c.Idle d s →
    ∃ r s' t', c.resolve d s = some (r, s') ∧ c'.resolve d t = some (r, t')

/-- What agrees on all that a dependency leads to answers it alike. -/
theorem ShareClosure.answersAlike (h : c.ShareClosure c' d) : c.AnswersAlike c' d := by
  have hagree := h.agreeOn
  have hwithin : ∀ s t, c.Agree c' (c.Closure d) s t → ∀ n, SameOutcome
      (c.Abreast c' (c.Closure d) s t) (c.resolveWithin n d s) (c'.resolveWithin n d t) :=
    fun s t hst n => (hagree.resolveWithin (likeness_abreast ..) (oblivious_abreast ..)
      (fun e hde => shares_abreast s t ⟨e, hde, rfl⟩) .refl n).sameOutcome hst.abreast
  have hresolve : ∀ s t, c.Agree c' (c.Closure d) s t → ∀ r r' s' t',
      c.resolve d s = some (r, s') → c'.resolve d t = some (r', t') →
      r' = r ∧ c.Abreast c' (c.Closure d) s t s' t' := by
    intro s t hst r r' s' t' hrun hrun'
    -- both resolutions end in the same way within the greater of the two depths
    have hrun := c.resolveWithin_mono (Nat.le_max_left c.depthBound c'.depthBound) hrun
    have hrun' := c'.resolveWithin_mono (Nat.le_max_right c.depthBound c'.depthBound) hrun'
    obtain ⟨_, heq, habreast⟩ := (hwithin s t hst _).1 r s' hrun
    cases hrun'.symm.trans heq
    exact ⟨rfl, habreast⟩
  refine ⟨fun s t hst => ?_, hwithin, hresolve, fun s t hst hd hidle => ?_⟩
  · exact ((oblivious_abreast ..).canResolve (hagree.available .refl)).sameOutcome hst.abreast
  · have hd' : c'.Acyclic d := (hagree.shallow .refl hd.shallow).acyclic
    have hclosure : ∀ key, c'.Closure d key → c.Closure d key := by
      rintro key ⟨e, hde, rfl⟩
      exact ⟨e, (hagree.reaches .refl hde).1, rfl⟩
    have hidle' : c'.Idle d t :=
      ⟨fun key hkey => hst.memory.slot key (hclosure key hkey) ▸
          hidle.slots key (hclosure key hkey),
        fun key hkey => hst.memory.readiness key (hclosure key hkey) ▸
          hidle.deferred key (hclosure key hkey)⟩
    obtain ⟨r, s', hrun⟩ := ends_of_idle hd hst.faithful hidle
    obtain ⟨r', t', hrun'⟩ := ends_of_idle hd' hst.faithful' hidle'
    obtain ⟨rfl, -⟩ := hresolve s t hst r r' s' t' hrun hrun'
    exact ⟨r', s', t', hrun, hrun'⟩

end Container

/-! ### Further modules -/

/-- What is bound later under other keys does not matter to a key. -/
theorem Registry.lookup_ofDefinitions_append (bs : List Binding) {more : List Binding} {key : Key}
    (hkey : key ∉ more.map Binding.key) :
    (ofDefinitions (bs ++ more)).lookup key = (ofDefinitions bs).lookup key := by
  unfold ofDefinitions
  rw [List.foldl_append]
  generalize bs.foldl register empty = r
  induction more generalizing r with
  | nil => rfl
  | cons b more ih =>
    rw [List.map_cons, List.mem_cons, not_or] at hkey
    rw [List.foldl_cons, ih hkey.2, lookup_register, if_neg (Ne.symm hkey.1)]

/-- Statements add definitions of the keys that they bind. -/
theorem Draft.definitions_configureAll (ss : List Statement) (d : Draft) (w : World) :
    ∃ more, (configureAll ss (d, w)).1.definitions = d.definitions ++ more ∧
      more.map Binding.key = boundKeys ss := by
  refine configureAll_induct (P := fun flat dw => ∃ more,
    dw.1.definitions = d.definitions ++ more ∧
      more.map Binding.key = flat.filterMap Statement.key?)
    ⟨[], by simp, rfl⟩ ss fun pre s dw hinstall _ h => ?_
  obtain ⟨more, hmore, hkeys⟩ := h
  rw [List.filterMap_append, ← hkeys]
  cases s with
  | bind ty viaKey qualifiers scopes source =>
    have hdefine : (Statement.configure (.bind ty viaKey qualifiers scopes source) dw).1 =
        dw.1.define _ := rfl
    exact ⟨_, by rw [hdefine, Draft.define, hmore, List.append_assoc], List.map_append⟩
  | define key source scope eager =>
    have hdefine : (Statement.configure (.define key source scope eager) dw).1 =
        dw.1.define _ := rfl
    exact ⟨_, by rw [hdefine, Draft.define, hmore, List.append_assoc], List.map_append⟩
  | injectStatic cls =>
    refine ⟨more, ?_, by simp [Statement.key?]⟩
    rw [← hmore]
    unfold Statement.configure Draft.requestStatic
    split <;> rfl
  | install ts => exact absurd rfl (hinstall ts)

namespace Container

variable {d : Dependency}

/-- The container with one more binding. -/
def register (c : Container) (b : Binding) : Container :=
  { c with registry := c.registry.register b }

/-- Modules that bind no key in the closure of a dependency leave the closure as it is. -/
theorem shareClosure_install (b : Builder) {ss : List Statement} (classes : ClassTable) (w : World)
    (hss : ∀ key ∈ boundKeys ss, ¬ (b.container classes).Closure d key) :
    (b.container classes).ShareClosure ((b.install ss w).1.container classes) d := by
  refine ⟨rfl, rfl, fun key hkey => ?_⟩
  obtain ⟨more, hmore, hkeys⟩ := Draft.definitions_configureAll ss b.draft w
  have hnew : key ∉ more.map Binding.key := by
    rw [hkeys]
    exact fun hmem => hss key hmem hkey
  have hafter : ((b.install ss w).1.container classes).registry =
      .ofDefinitions (b.draft.definitions ++ more) := congrArg Registry.ofDefinitions hmore
  rw [hafter]
  exact (Registry.lookup_ofDefinitions_append b.draft.definitions hnew).symm

/-- **Resolution is local.** Two containers that allow the same classes, read the same ones, and
bind the keys in the closure of a dependency in the same way, answer alike about it: whether it can
be resolved, what it is resolved to, with the same calls, and what is remembered afterwards. They
touch nothing that is remembered under other keys. This is so for the containers of a builder before
and after more modules are installed that bind no key in the closure. -/
theorem resolution_is_local :
    (∀ (c c' : Container) (d : Dependency), c.ShareClosure c' d → c.AnswersAlike c' d) ∧
    ∀ (b : Builder) (ss : List Statement) (classes : ClassTable) (w : World) (d : Dependency),
      (∀ key ∈ boundKeys ss, ¬ (b.container classes).Closure d key) →
        (b.container classes).AnswersAlike ((b.install ss w).1.container classes) d :=
  ⟨fun _ _ _ h => h.answersAlike, fun b _ classes w _ hss =>
    (shareClosure_install b classes w hss).answersAlike⟩

/-- A bakery, where bread is made once, of one sort of flour. -/
def bakery : List Statement :=
  [.bind (.component "Bread") none [] [.inScope .singleton] .constructor,
    .bind .text none [] [] (.value "rye")]

/-- Bread needs flour. -/
def bakeryClasses : ClassTable := .ofList
  [("Bread", ⟨[(Member.constructor "Bread" (.reading [.text] none)).requiring [.ofTy .text]], [],
    .fresh fun _ => none⟩)]

/-- Bread ranks above flour, and the opening hours are not needed for bread. -/
def bakeryRank (key : Key) : Nat :=
  if key = .ofTy .number then 2 else if key = .ofTy (.component "Bread") then 1 else 0

/-- The bread is the same when the bakery has opening hours, too. -/
theorem bakery_bakes_alike :
    let b := ((Builder.ofConfig .standard).install bakery .new).1
    let c := b.container bakeryClasses
    let c' := (b.install [.bind .number none [] [] (.value "8")] .new).1.container bakeryClasses
    let bread := Dependency.injectable "Bread"
    c.Ranked bakeryRank ∧ ∃ i s t,
      c.resolve bread ⟨c.initialMemory, .new⟩ = some (.ok i, s) ∧
      c'.resolve bread ⟨c'.initialMemory, .new⟩ = some (.ok i, t) ∧
      c.Abreast c' (c.Closure bread) ⟨c.initialMemory, .new⟩ ⟨c'.initialMemory, .new⟩ s t := by
  intro b c c' bread
  have hranked : c.Ranked bakeryRank := by decide +kernel
  have hclosure : ∀ key ∈ boundKeys [.bind .number none [] [] (.value "8")],
      ¬ c.Closure bread key := fun key hkey => by
    rw [List.mem_singleton.mp (show key ∈ [Key.ofTy .number] from hkey)]
    exact hranked.not_closure (by decide)
  have halike : c.AnswersAlike c' bread :=
    resolution_is_local.2 b _ bakeryClasses .new bread hclosure
  have hagree : c.Agree c' (c.Closure bread) ⟨c.initialMemory, .new⟩ ⟨c'.initialMemory, .new⟩ :=
    agree_initial (shareClosure_install b bakeryClasses .new hclosure).binding .new
  obtain ⟨r, s, t, hrun, hrun'⟩ :=
    halike.ends _ _ hagree (acyclic_of_ranked _ hranked bread) (idle_initial c bread .new)
  have hok : (c.resolve bread ⟨c.initialMemory, .new⟩).map Prod.fst =
      some (.ok ⟨0, .object "Bread" 0⟩) := by
    decide +kernel
  rw [hrun] at hok
  obtain rfl : r = .ok ⟨0, .object "Bread" 0⟩ := Option.some.inj hok
  exact ⟨hranked, _, s, t, hrun, hrun', (halike.resolve _ _ hagree _ _ s t hrun hrun').2⟩

end Container

end Wiring
