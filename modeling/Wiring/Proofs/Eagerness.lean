import Wiring.Proofs.Deferred
import Wiring.Proofs.Precedence
import Wiring.Proofs.Stages

/-!
# Singletons Created Ahead of Time

In the last stage of a build, singletons are created: all of them if the configuration says so, and
else those whose definitions in force are marked. Their turns come in the order of the registry. A
singleton may be there before its turn, since a deferred binding, a static member or another
singleton needed it; then its turn creates nothing. So each of them is created once, and after a
build that succeeds it is there for good.

## Conventions

A mark says nothing about a binding that is not a singleton, be it that it was never one or that a
later step of its statement changed its scope. A mark of a definition that was replaced says nothing
at all: the definitions of two builders may then differ in their marks, and the builders do the
same.

## Main statements

* `Event.ahead?`, `BuildStep.ahead?`: the turns of singletons, as the journal tells them and as
  the steps of a build do.
* `Container.turns_of_start`: the turns that a build takes.
* `Container.full_of_performs`: after its turn, a singleton is there for good.
* `Container.Later.full`, `Container.Operates.isCreation_of_full`: a singleton that is there stays,
  and nothing is done for its creation any more.
* `Registry.announced_of_sameButMarks`: marks do not matter when definitions are registered.
* `Builder.eager_singletons_ready`: singletons that are created ahead of time.
-/

namespace Wiring

/-! ### Nothing is created twice -/

/-- Whether an event belongs to the creation of the singleton of `key`: that it is announced, or
that the binding begins to supply an instance or is done. -/
def Event.isCreation (key : Key) : Event → Bool
  | logged (.creatingSingleton k) | supplying k | supplied k _ => k = key
  | _ => false

namespace Phase

variable {key : Key} {q : Phase} {e : Event} {es : List Event} {i : Instance}

/-- What fills a slot is not a creation of an instance that was there. -/
theorem isCreation_of_next_full (h : (full i).next key e = some q) : e.isCreation key = false := by
  unfold Event.isCreation
  split
  all_goals first
    | rfl
    | (next k => by_cases hk : k = key <;> simp_all [next])
    | (next k r => by_cases hk : k = key <;> simp_all [next])

/-- A singleton that is there is not created again. -/
theorem isCreation_of_replay_full (h : (full i).replay key es = some q) :
    ∀ e ∈ es, e.isCreation key = false := by
  induction es with
  | nil => exact List.forall_mem_nil _
  | cons e es ih =>
    rw [replay, Option.bind_eq_some_iff] at h
    obtain ⟨p, hp, h⟩ := h
    rw [eq_full_of_next hp] at h
    exact List.forall_mem_cons.mpr ⟨isCreation_of_next_full hp, ih h⟩

end Phase

/-! ### Turns -/

/-- The key of the singleton whose turn an event tells of. -/
def Event.ahead? : Event → Option Key
  | logged (.creatingAhead key) => some key
  | _ => none

/-- The key of the singleton whose turn a step of a build is. -/
def BuildStep.ahead? : BuildStep → Option Key
  | create b => some b.key
  | _ => none

/-- Singletons are created ahead of time in the last stage only. -/
theorem Event.ahead?_of_stage {e : Event} (h : e.stage ≠ 2) : e.ahead? = none := by
  unfold ahead?
  split
  · exact absurd rfl h
  · rfl

/-- Entries of earlier stages tell of no turns. -/
theorem filterMap_ahead?_eq_nil {es : List Event} (h : ∀ e ∈ es, e.stage ≤ 1) :
    es.filterMap Event.ahead? = [] :=
  List.filterMap_eq_nil_iff.mpr fun e he =>
    Event.ahead?_of_stage (Nat.ne_of_lt (Nat.lt_succ_of_le (h e he)))

namespace Container

variable {c : Container} {s t u : State}

/-- A step announces its turn, if it is one, and nothing that it does announces another. -/
theorem turns_of_run {step : BuildStep} {r : Except ConfigurationError Unit} (hstep : c.Does step)
    (h : step.run c s = some (r, t)) :
    ∃ es, s.Entered t es ∧ es.filterMap Event.ahead? = step.ahead?.toList := by
  have hearly : step.stage ≤ 1 → step.ahead? = none →
      ∃ es, s.Entered t es ∧ es.filterMap Event.ahead? = step.ahead?.toList := by
    intro hle hnone
    obtain ⟨-, ⟨es, hes, hstage⟩, -⟩ := inStage_run hstep s trivial trivial r t h
    refine ⟨es, hes, ?_⟩
    rw [filterMap_ahead?_eq_nil fun e he => Nat.le_trans (hstage e he) hle, hnone]
    rfl
  cases step with
  | prepare b d => exact hearly (Nat.zero_le 1) rfl
  | inject cls => exact hearly (Nat.le_refl 1) rfl
  | announce targets => exact hearly (Nat.le_refl 1) rfl
  | create b =>
    have hall := c.admitsAll_inStage 0
    have hbinding : (inStage 0).Allows do
        let _ ← c.resolveBinding c.resolve b
        return () :=
      (hall.resolveBinding hall.resolve hstep.1).bind fun _ =>
        Discipline.Ensures.succeed fun _ _ _ => trivial
    obtain ⟨-, ⟨es, hes, hstage⟩, -⟩ := hbinding _ trivial trivial r t h
    have hannounced := s.entered_emit (.logged (.creatingAhead b.key))
    refine ⟨_, hannounced.trans hes, ?_⟩
    rw [List.filterMap_append,
      filterMap_ahead?_eq_nil fun e he => Nat.le_trans (hstage e he) (Nat.zero_le 1)]
    rfl

/-- Steps that succeed announce their turns. -/
theorem turns_of_performs {steps : List BuildStep} (h : c.Performs steps s t)
    (hsteps : ∀ step ∈ steps, c.Does step) :
    ∃ es, s.Entered t es ∧
      es.filterMap Event.ahead? = steps.filterMap BuildStep.ahead? := by
  induction h with
  | done s => exact ⟨[], .refl s, rfl⟩
  | @next step steps s t u hrun _ ih =>
    obtain ⟨hdoes, hrest⟩ := List.forall_mem_cons.mp hsteps
    obtain ⟨es, hes, hturn⟩ := turns_of_run hdoes hrun
    obtain ⟨fs, hfs, hturns⟩ := ih hrest
    refine ⟨es ++ fs, hes.trans hfs, ?_⟩
    rw [List.filterMap_append, hturn, hturns]
    cases hahead : step.ahead? <;> simp [hahead]

/-- A build takes the turns of its singletons in their order: all of them if it succeeds, and else
the first of them. -/
theorem turns_of_start {r : Except ConfigurationError Unit} (h : c.start s = some (r, t)) :
    ∃ es, s.Entered t es ∧
      es.filterMap Event.ahead? <+: c.buildSteps.filterMap BuildStep.ahead? ∧
      (r = .ok () → es.filterMap Event.ahead? = c.buildSteps.filterMap BuildStep.ahead?) := by
  cases r with
  | ok =>
    obtain ⟨u, hperforms, rfl⟩ := start_eq_ok_iff.mp h
    obtain ⟨es, hes, hturns⟩ := turns_of_performs hperforms fun _ => does_of_mem
    have hsame : (es ++ [Event.logged (.built (c.stats u.memory))]).filterMap Event.ahead? =
        c.buildSteps.filterMap BuildStep.ahead? := by
      rw [List.filterMap_append, hturns]
      exact List.append_nil _
    exact ⟨_, hes.trans (u.entered_emit _), by rw [hsame], fun _ => hsame⟩
  | error e =>
    obtain ⟨pre, step, post, u, source, hsteps, hperforms, hrun, -⟩ := start_eq_error_iff.mp h
    have hdoes : ∀ step' ∈ pre ++ step :: post, c.Does step' := fun step' hstep' =>
      does_of_mem (by rwa [hsteps])
    obtain ⟨es, hes, hturns⟩ := turns_of_performs hperforms fun step' hstep' =>
      hdoes step' (List.mem_append_left _ hstep')
    obtain ⟨fs, hfs, hturn⟩ := turns_of_run (hdoes step (by simp)) hrun
    refine ⟨es ++ fs, hes.trans hfs, ⟨post.filterMap BuildStep.ahead?, ?_⟩, nofun⟩
    rw [hsteps, List.filterMap_append, List.filterMap_append, hturns, hturn, List.append_assoc]
    cases hahead : step.ahead? <;> simp [hahead]

/-! ### Slots -/

/-- Steps of a build keep to the discipline of the slots. -/
theorem shares_run {step : BuildStep} (hstep : c.Does step) : c.sharing.Allows (step.run c) := by
  have hstages : Discipline.Conduct.Stages c.sharing 3 := fun _ he _ =>
    allows_emit_silent fun key p => Phase.next_of_stage key p he
  cases step with
  | prepare b d =>
    refine (gives_force gives_resolve hstep.1 hstep.2).allows.bind fun _ => ?_
    exact Discipline.Ensures.succeed fun _ _ _ => trivial
  | inject cls =>
    exact Discipline.Conduct.injectStatics c.admits_sharing (hstages.mono (by decide))
      gives_resolve cls
  | announce targets => exact hstages _ (Nat.succ_ne_zero 0) (Nat.le_add_left 1 2)
  | create b =>
    have hannounced : c.sharing.Allows (.log (.creatingAhead b.key)) :=
      hstages _ (Nat.succ_ne_zero 1) (Nat.le_succ 2)
    refine hannounced.bind fun _ => ?_
    refine (shares_resolveBinding gives_resolve hstep.1).allows.bind fun _ => ?_
    exact Discipline.Ensures.succeed fun _ _ _ => trivial

/-- Steps of a build keep to what is shared. -/
theorem shares_performs {steps : List BuildStep} (h : c.Performs steps s t)
    (hsteps : ∀ step ∈ steps, c.Does step) (hs : c.sharing.Inv s) : c.sharing.Moves s t := by
  induction h with
  | done s => exact ⟨hs, c.sharing.refl s⟩
  | next hrun _ ih =>
    obtain ⟨hdoes, hrest⟩ := List.forall_mem_cons.mp hsteps
    obtain ⟨ht, hstep, -⟩ := shares_run hdoes _ hs trivial _ _ hrun
    obtain ⟨hu, hsteps⟩ := ih hrest ht
    exact ⟨hu, c.sharing.trans hstep hsteps⟩

/-- After its turn, a singleton is there for good. -/
theorem full_of_performs {steps : List BuildStep} (h : c.Performs steps s t)
    (hsteps : ∀ step ∈ steps, c.Does step) (hs : c.sharing.Inv s) {b : Binding}
    (hmem : .create b ∈ steps) : ∃ i, t.memory.slots.get? b.key = some (.full i) := by
  induction h with
  | done s => cases hmem
  | @next step steps s t u hrun hrest ih =>
    obtain ⟨hdoes, hdoesRest⟩ := List.forall_mem_cons.mp hsteps
    obtain ⟨ht, -, -⟩ := shares_run hdoes _ hs trivial _ _ hrun
    rcases List.mem_cons.mp hmem with rfl | hmem
    · have hkey : c.IsSingleton b.key := by
        refine ⟨b, hdoes.1, (Scope.isSingleton_iff _).mp ?_⟩
        exact (Bool.and_eq_true_iff.mp hdoes.2).1
      obtain ⟨i, v, hbinding, heq⟩ := Run.andThen_eq_ok hrun
      cases heq
      let announced := s.inWorld (s.world.log (.creatingAhead b.key))
      have hfull := (shares_resolveBinding gives_resolve hdoes.1 announced hs trivial _ _
        hbinding).2.2
      exact ⟨i, lasting_full hkey i _ _ (shares_performs hrest hdoesRest ht).2 (hfull i rfl hkey)⟩
    · exact ih hdoesRest ht hmem

/-- A binding in force that is to be created ahead of time has its turn. -/
theorem create_mem_buildSteps_iff {b : Binding} :
    .create b ∈ c.buildSteps ↔ c.registry.lookup b.key = some b ∧ c.isAhead b = true := by
  refine ⟨fun h => does_of_mem h, fun ⟨hb, hahead⟩ => ?_⟩
  refine List.mem_append_right _ (List.mem_map.mpr ⟨b, List.mem_filter.mpr ⟨?_, hahead⟩, rfl⟩)
  exact List.mem_map.mpr ⟨(b.key, b), Table.mem_of_find hb, rfl⟩

/-- After a build that succeeds, singletons that were to be created ahead of time are there. -/
theorem full_of_start (h : c.start s = some (.ok (), t)) (hs : c.sharing.Inv s) {b : Binding}
    (hb : c.registry.lookup b.key = some b) (hahead : c.isAhead b = true) :
    ∃ i, t.memory.slots.get? b.key = some (.full i) := by
  obtain ⟨u, hperforms, rfl⟩ := start_eq_ok_iff.mp h
  exact full_of_performs hperforms (fun _ => does_of_mem) hs
    (create_mem_buildSteps_iff.mpr ⟨hb, hahead⟩)

/-- If all singletons are there, the number of those that are is that of the slots, which is that of
the bindings in force that are singletons. -/
theorem fullCount_eq (hs : c.sharing.Inv s)
    (h : ∀ key, c.IsSingleton key → ∃ i, s.memory.slots.get? key = some (.full i)) :
    s.memory.fullCount = s.memory.slotCount ∧
      s.memory.slotCount = (c.registry.toList.filter (·.scope.isSingleton)).length := by
  have hkeys : s.memory.slots.keys = c.singletonKeys := hs
  constructor
  · unfold Memory.fullCount Memory.slotCount Table.size
    rw [List.filter_eq_self.mpr, Table.values, List.length_map]
    intro cell hcell
    obtain ⟨⟨key, cell⟩, hentry, rfl⟩ := List.mem_map.mp hcell
    have hkey : c.IsSingleton key := by
      rw [← mem_singletonKeys, ← hkeys]
      exact List.mem_map.mpr ⟨_, hentry, rfl⟩
    obtain ⟨i, hi⟩ := h key hkey
    have hsame : (key, cell) = (key, .full i) :=
      List.inj_on_of_nodup_map s.memory.slots.nodup_keys hentry (Table.mem_of_find hi) rfl
    cases hsame
    rfl
  · rw [Memory.slotCount, Table.size_eq_length_keys, hkeys, singletonKeys, List.length_map]

/-! ### Afterwards -/

/-- Slots are in order later on. -/
theorem Later.shares (h : c.Later s t) (hs : c.sharing.Inv s) : c.sharing.Inv t := by
  induction h with
  | done => exact hs
  | operate _ hop ih => exact (hop.moves c.admits_sharing gives_resolve ih).1
  | elsewhere w _ ih => exact ih

/-- A singleton that is there stays. -/
theorem Later.full (h : c.Later s t) (hs : c.sharing.Inv s) {key : Key} (hkey : c.IsSingleton key)
    {i : Instance} (hfull : s.memory.slots.get? key = some (.full i)) :
    t.memory.slots.get? key = some (.full i) := by
  induction h with
  | done => exact hfull
  | operate hlater hop ih =>
    obtain ⟨-, hstep⟩ := hop.moves c.admits_sharing gives_resolve (hlater.shares hs)
    exact lasting_full hkey i _ _ hstep ih
  | elsewhere w _ ih => exact ih

/-- Nothing is done later for the creation of a singleton that is there. -/
theorem Operates.isCreation_of_full (h : c.Operates s t) (hs : c.sharing.Inv s) {key : Key}
    (hkey : c.IsSingleton key) {i : Instance}
    (hfull : s.memory.slots.get? key = some (.full i)) :
    ∃ es, s.Entered t es ∧ ∀ e ∈ es, e.isCreation key = false := by
  obtain ⟨-, es, hes, hadv⟩ := h.moves c.admits_sharing gives_resolve hs
  obtain ⟨_, -, hreplay, -⟩ := hadv key hkey (.full i) hfull
  exact ⟨es, hes, Phase.isCreation_of_replay_full hreplay⟩

end Container

/-! ### Marks of definitions -/

/-- Definitions of other keys do not matter. -/
theorem lastDefinition_cons_of_ne {b : Binding} {key : Key} (h : b.key ≠ key) (bs : List Binding) :
    lastDefinition (b :: bs) key = lastDefinition bs key := by
  simp [lastDefinition, h]

/-- Two sequences of definitions differ only in which of them are marked. -/
def SameButMarks (bs bs' : List Binding) : Prop :=
  List.Forall₂ (fun b b' => b' = { b with eager := b'.eager }) bs bs'

/-- Definitions that differ in marks are for the same keys. -/
theorem SameButMarks.map_key {bs bs' : List Binding} (h : SameButMarks bs bs') :
    bs.map Binding.key = bs'.map Binding.key := by
  induction h with
  | nil => rfl
  | cons hb _ ih => rw [List.map_cons, List.map_cons, ih, hb]

/-- Marks do not matter when definitions are registered. -/
theorem Registry.announced_of_sameButMarks {bs bs' : List Binding} (h : SameButMarks bs bs') :
    (announced bs).2 = (announced bs').2 := by
  have hfold : ∀ (r r' : Registry) (notices : List Notice), r.keys = r'.keys →
      (bs.foldl (fun p b => (p.1.register b, p.2 ++ p.1.noticesOf b)) (r, notices)).2 =
        (bs'.foldl (fun p b => (p.1.register b, p.2 ++ p.1.noticesOf b)) (r', notices)).2 := by
    induction h with
    | nil => exact fun _ _ _ _ => rfl
    | @cons b b' bs bs' hb _ ih =>
      intro r r' notices hkeys
      have hkey : b.key = b'.key := by rw [hb]
      have hnotices : r.noticesOf b = r'.noticesOf b' := by
        have hcontains : r.contains b.key = r'.contains b.key := by
          rw [Bool.eq_iff_iff, contains_iff, contains_iff, hkeys]
        rw [hb]
        simp only [noticesOf, hcontains]
      simp only [List.foldl_cons]
      rw [hnotices]
      refine ih _ _ _ ?_
      rw [keys_register, keys_register, hkey, hkeys]
  exact hfold .empty .empty [] rfl

namespace Builder

/-- The marks of definitions that were replaced do not matter. -/
theorem build_of_sameButMarks {b b' : Builder} (hconfig : b.config = b'.config)
    (htargets : b.draft.staticTargets = b'.draft.staticTargets)
    (hmarks : SameButMarks b.draft.definitions b'.draft.definitions)
    (hlast : ∀ key, lastDefinition b.draft.definitions key =
      lastDefinition b'.draft.definitions key) (classes : ClassTable) (w : World) :
    b.build classes w = b'.build classes w := by
  have hcontainer : b.container classes = b'.container classes := by
    simp only [container, Draft.container, hconfig, htargets,
      Registry.ofDefinitions_eq ⟨hlast, congrArg List.eraseDups hmarks.map_key⟩]
  rw [build_eq, build_eq, opening, opening, hcontainer, Registry.announced_of_sameButMarks hmarks]

/-- How a build creates singletons ahead of time, and what is true of them afterwards. -/
structure CreatesAhead (b : Builder) (classes : ClassTable) (w : World) : Prop where
  /-- A turn is due to each singleton if the configuration says so, and else to those whose
  definitions in force are marked. It is due to nothing else. -/
  due : ∀ d, .create d ∈ (b.container classes).buildSteps ↔
    lastDefinition b.draft.definitions d.key = some d ∧ d.scope = .singleton ∧
      (b.config.eager = true ∨ d.eager = true)
  /-- A build takes these turns in order, all of them if it succeeds, and no others. -/
  turns : ∀ r w', b.build classes w = some (r, w') →
    ∃ es, w'.journal.toList = (b.opening classes w).world.journal.toList ++ es ∧
      es.filterMap Event.ahead? <+:
        (b.container classes).buildSteps.filterMap BuildStep.ahead? ∧
      ∀ running, r = .ok running → es.filterMap Event.ahead? =
        (b.container classes).buildSteps.filterMap BuildStep.ahead?
  /-- Whether a build succeeds or not, a singleton is supplied at most once, be it in its turn or
  before, and nothing is done for its creation any more once it is there. -/
  once : ∀ r w' es, b.build classes w = some (r, w') →
    w'.journal.toList = (b.opening classes w).world.journal.toList ++ es →
    ∀ key, (b.container classes).IsSingleton key → es.countP (Event.isSuccess key) ≤ 1 ∧
      ∀ pre i post, es = pre ++ .supplied key (.ok i) :: post →
        ∀ e ∈ post, e.isCreation key = false
  /-- After a build that succeeds, the singletons that had turns are there. -/
  there : ∀ running w', b.build classes w = some (.ok running, w') →
    ∀ key d, lastDefinition b.draft.definitions key = some d → d.scope = .singleton →
      (b.config.eager = true ∨ d.eager = true) →
      ∃ i, running.memory.slots.get? key = some (.full i)
  /-- If the configuration asks for all singletons, all slots are full then, and they are as many as
  there are singletons. -/
  all : ∀ running w', b.build classes w = some (.ok running, w') → b.config.eager = true →
    running.memory.fullCount = running.memory.slotCount ∧ running.memory.slotCount =
      ((b.container classes).registry.toList.filter (·.scope.isSingleton)).length
  /-- Whatever is done later, a singleton that is there stays, and nothing is done for its creation
  any more. -/
  stays : ∀ running w' s key i, b.build classes w = some (.ok running, w') →
    (b.container classes).Later ⟨running.memory, w'⟩ s → (b.container classes).IsSingleton key →
    s.memory.slots.get? key = some (.full i) → ∀ t, (b.container classes).Later s t →
      t.memory.slots.get? key = some (.full i) ∧
      ∀ u, (b.container classes).Operates t u →
        ∃ fs, t.Entered u fs ∧ ∀ e ∈ fs, e.isCreation key = false

section

variable (b : Builder) (classes : ClassTable)

/-- The last definition of a key is in force. -/
theorem lookup_container (key : Key) :
    (b.container classes).registry.lookup key = lastDefinition b.draft.definitions key :=
  Registry.lookup_ofDefinitions _ key

/-- Singletons have turns if the configuration says so, or their marks do. -/
theorem isAhead_container (d : Binding) : (b.container classes).isAhead d = true ↔
    d.scope = .singleton ∧ (b.config.eager = true ∨ d.eager = true) := by
  rw [Container.isAhead, Bool.and_eq_true, Bool.or_eq_true, Scope.isSingleton_iff]
  rfl

/-- A new container has the slots of its singletons. -/
theorem shares_opening (w : World) : (b.container classes).sharing.Inv (b.opening classes w) :=
  (b.container classes).slots_initialMemory.1

variable {b classes} {w w' : World}

/-- The slots of a container that was built are those of its singletons. -/
theorem shares_build {running : RunningContainer}
    (hbuild : b.build classes w = some (.ok running, w')) :
    (b.container classes).sharing.Inv ⟨running.memory, w'⟩ := by
  obtain ⟨-, hstart⟩ := build_eq_ok_iff.mp hbuild
  exact ((b.container classes).shares_start _ (b.shares_opening classes w) trivial _ _ hstart).1

/-- Where a build that succeeds has a turn for a binding, its slot is full afterwards. -/
theorem full_of_build {running : RunningContainer}
    (hbuild : b.build classes w = some (.ok running, w')) {key : Key} {d : Binding}
    (hlast : lastDefinition b.draft.definitions key = some d)
    (hahead : (b.container classes).isAhead d = true) :
    ∃ i, running.memory.slots.get? key = some (.full i) := by
  obtain ⟨-, hstart⟩ := build_eq_ok_iff.mp hbuild
  have hd := (b.lookup_container classes key).trans hlast
  have hkey := Registry.key_of_lookup hd
  rw [← hkey] at hd ⊢
  exact Container.full_of_start hstart (b.shares_opening classes w) hd hahead

/-- In a build, a singleton is supplied at most once, and nothing is done for its creation any more
once it is there. -/
theorem once_of_build {r : Except ConfigurationError RunningContainer} {es : List Event}
    (hbuild : b.build classes w = some (r, w'))
    (hes : w'.journal.toList = (b.opening classes w).world.journal.toList ++ es) {key : Key}
    (hkey : (b.container classes).IsSingleton key) :
    es.countP (Event.isSuccess key) ≤ 1 ∧ ∀ pre i post,
      es = pre ++ .supplied key (.ok i) :: post → ∀ e ∈ post, e.isCreation key = false := by
  obtain ⟨r', s, hstart, rfl, rfl⟩ := build_eq_some_iff.mp hbuild
  have hempty := (b.container classes).slots_initialMemory.2 key hkey
  obtain ⟨-, ⟨es', hes', hadv⟩, -⟩ :=
    (b.container classes).shares_start _ (b.shares_opening classes w) trivial _ _ hstart
  obtain rfl : es = es' := State.Entered.unique (s := b.opening classes w) (t := s) hes hes'
  obtain ⟨q, -, hreplay, -⟩ := hadv key hkey .empty hempty
  refine ⟨Phase.countP_isSuccess_le hreplay, ?_⟩
  rintro pre i post rfl
  obtain ⟨p, p', -, hsupplied, hpost⟩ := Phase.replay_split hreplay
  obtain rfl := (Phase.next_eq_full_iff hsupplied).mpr (.inr rfl)
  exact Phase.isCreation_of_replay_full hpost

end

/-- A build creates its singletons ahead of time. -/
theorem createsAhead (b : Builder) (classes : ClassTable) (w : World) :
    b.CreatesAhead classes w where
  due d := by rw [Container.create_mem_buildSteps_iff, lookup_container, isAhead_container]
  turns r w' hbuild := by
    obtain ⟨r', s, hstart, rfl, rfl⟩ := build_eq_some_iff.mp hbuild
    obtain ⟨es, hes, hfirst, hall⟩ := Container.turns_of_start hstart
    refine ⟨es, hes, hfirst, fun running hr => hall ?_⟩
    cases r' with
    | error e => cases hr
    | ok => rfl
  once _ _ _ hbuild hes _ hkey := once_of_build hbuild hes hkey
  there _ _ hbuild _ d hlast hscope heager :=
    full_of_build hbuild hlast ((b.isAhead_container classes d).mpr ⟨hscope, heager⟩)
  all running w' hbuild heager := by
    refine Container.fullCount_eq (shares_build hbuild) ?_
    rintro key ⟨d, hd, hscope⟩
    exact full_of_build hbuild ((b.lookup_container classes key).symm.trans hd)
      ((b.isAhead_container classes d).mpr ⟨hscope, .inl heager⟩)
  stays running w' s key i hbuild hlater hkey hfull t hlater' := by
    have hs : (b.container classes).sharing.Inv s := hlater.shares (shares_build hbuild)
    have hfull := hlater'.full hs hkey hfull
    exact ⟨hfull, fun u hop => hop.isCreation_of_full (hlater'.shares hs) hkey hfull⟩

/-- **Eager singletons.** In every build that succeeds, each singleton is there if the configuration
asks for all of them, and else each whose definition in force is marked. It was supplied once,
whatever needed it before its turn, and nothing is done for its creation any more, whatever is done
later. Turns are due to singletons only, so the mark of another binding leads to none, and the marks
of definitions that were replaced make no difference at all. -/
theorem eager_singletons_ready :
    (∀ (b : Builder) (classes : ClassTable) (w : World), b.CreatesAhead classes w) ∧
    ∀ b b' : Builder, b.config = b'.config → b.draft.staticTargets = b'.draft.staticTargets →
      SameButMarks b.draft.definitions b'.draft.definitions →
      (∀ key, lastDefinition b.draft.definitions key = lastDefinition b'.draft.definitions key) →
      ∀ (classes : ClassTable) (w : World), b.build classes w = b'.build classes w :=
  ⟨createsAhead, fun _ _ => build_of_sameButMarks⟩

/-- An orchard whose well has run dry, and was replaced by a spring before it was used. The mill
needs the press before its turn, and barrels are made when they are needed although they are marked.
The steps say how the well was bound. -/
def orchard (well : List ScopeStep) : List Statement :=
  [.bind .text none [] well (.provider "well" fun _ =>
      some (.providerFailed "Key[String]" "dry")),
    .bind (.component "Mill") none [] [] .injectableInstance,
    .bind (.component "Press") none [] [.asEagerSingleton] .constructor,
    .bind (.component "Barrel") none [] [.asEagerSingleton, .inScope .unscoped] .constructor,
    .bind .text none [] [] (.provider "spring" fun _ => none)]

/-- The classes of the orchard. -/
def orchardClasses : ClassTable := .ofList
  [("Mill", ⟨[.field "Mill" "press" (.injectable "Press")], [], .fresh fun _ => none⟩),
    ("Press", ⟨[.constructor "Press" (.reading [] none)], [], .fresh fun _ => none⟩),
    ("Barrel", ⟨[.constructor "Barrel" (.reading [] none)], [], .fresh fun _ => none⟩)]

/-- There is one press when the orchard is built, and the press alone had a turn. It would be the
same if the well had not been marked. -/
theorem orchard_presses_once :
    let b := ((ofConfig .standard).install (orchard [.asEagerSingleton]) .new).1
    let b' := ((ofConfig .standard).install (orchard [.inScope .singleton]) .new).1
    let w := ((ofConfig .standard).install (orchard [.asEagerSingleton]) .new).2
    let press : Key := .ofTy (.component "Press")
    b.build orchardClasses w = b'.build orchardClasses w ∧
      ∃ running w' es i, b.build orchardClasses w = some (.ok running, w') ∧
        w'.journal.toList = (b.opening orchardClasses w).world.journal.toList ++ es ∧
        es.filterMap Event.ahead? = [press] ∧ es.countP (Event.isSuccess press) ≤ 1 ∧
        running.memory.slots.get? press = some (.full i) := by
  intro b b' w press
  have hmarks : SameButMarks b.draft.definitions b'.draft.definitions :=
    .cons rfl (.cons rfl (.cons rfl (.cons rfl (.cons rfl .nil))))
  have hlast : ∀ key,
      lastDefinition b.draft.definitions key = lastDefinition b'.draft.definitions key := by
    intro key
    by_cases hkey : (.ofTy .text : Key) = key
    · subst hkey
      rfl
    · exact (lastDefinition_cons_of_ne (by exact hkey) b.draft.definitions.tail).trans
        (lastDefinition_cons_of_ne (by exact hkey) _).symm
  have hrun : (b.build orchardClasses w).map (fun r => r.1.map fun _ => ()) = some (.ok ()) := by
    decide +kernel
  obtain ⟨⟨r, w'⟩, hbuild, hr⟩ := Option.map_eq_some_iff.mp hrun
  cases r with
  | error e => cases hr
  | ok running =>
    have hcreates := eager_singletons_ready.1 b orchardClasses w
    obtain ⟨es, hes, -, hturns⟩ := hcreates.turns _ w' hbuild
    obtain ⟨i, hfull⟩ := hcreates.there running w' hbuild press _ rfl rfl (.inr rfl)
    refine ⟨eager_singletons_ready.2 b b' rfl rfl hmarks hlast _ _, running, w', es, i, hbuild,
      hes, hturns running rfl, ?_, hfull⟩
    exact (hcreates.once _ w' es hbuild hes press ⟨_, rfl, rfl⟩).1

end Builder

end Wiring
