import Wiring.Proofs.Kinship
import Wiring.Proofs.Precedence
import Wiring.Proofs.Sites

/-!
# The Order of Definitions

The same definitions, made for different keys, may be given to a builder in any order. The order
says in which order bindings are visited when the container is built, so it says which deferred
binding is injected by its own turn and which one is used before it, which singletons are created
by others, and in which order providers are called. In a container without circles, in which nothing
depends on counts, none of this matters to whether the build succeeds, nor to what the container
answers afterwards.

## Conventions

What two containers answer is compared up to identities, and not only on the surface: an object was
given other instances, and these are compared in turn (`Container.Peers`). Instances that differ in
counts would have to be compared as `Container.Akin` does, but if nothing depends on counts then
this leaves nothing but identities. Since different things may be done with the two containers
before they are compared, an object may have been injected by clients of one of them only. So what
is compared are the calls that the container itself has to see to.

A world in which containers are built may be any one in which the parts of objects are objects. All
worlds are like this that have come about from an empty one by what modules and containers do.

## Main statements

* `Registry.lookup_eq_of_perm`: the order of bindings does not matter for looking them up.
* `Container.Reordered.start_iff`: either both builds succeed or none does.
* `Container.Reordered.exists_poised`: what containers that were built in two orders have in common.
* `parted_configureAll`: modules leave worlds in which the parts of objects are objects.
* `RunningContainer.Matches`: running containers that answer alike.
* `Builder.definitions_in_any_order`: the order of definitions does not matter.
-/

namespace Wiring

namespace Registry

variable {r r' : Registry} {key : Key} {b : Binding} {bs bs' : List Binding}

/-- The bindings in force are those that are listed. -/
theorem lookup_eq_some_iff : r.lookup key = some b ↔ b ∈ r.toList ∧ b.key = key := by
  constructor
  · exact fun h => ⟨List.mem_map.mpr ⟨(key, b), Table.mem_of_find h, rfl⟩, key_of_lookup h⟩
  · rintro ⟨hmem, rfl⟩
    exact lookup_of_mem hmem

/-- Where the bindings are listed does not matter for looking them up. -/
theorem lookup_eq_of_perm (h : r.toList.Perm r'.toList) (key : Key) :
    r.lookup key = r'.lookup key := by
  refine Option.ext fun b => ?_
  rw [lookup_eq_some_iff, lookup_eq_some_iff, h.mem_iff]

/-- Where the bindings are listed does not matter to how many there are. -/
theorem size_eq_of_perm (h : r.toList.Perm r'.toList) : r.size = r'.size := by
  have hsize : ∀ r : Registry, r.size = r.toList.length := fun r => by
    simp [size, toList, Table.size, Table.values]
  rw [hsize, hsize, h.length_eq]

/-- Definitions for different keys are listed as they come. -/
theorem toList_ofDefinitions (h : (bs.map Binding.key).Nodup) : (ofDefinitions bs).toList = bs := by
  induction bs using List.reverseRecOn with
  | nil => rfl
  | append_singleton bs b ih =>
    rw [List.map_append, List.map_singleton, List.nodup_append] at h
    have hlisted := ih h.1
    have hregister : ofDefinitions (bs ++ [b]) = (ofDefinitions bs).register b := by
      simp [ofDefinitions]
    have hnew : b.key ∉ (ofDefinitions bs).keys := by
      rw [keys_eq_map_key, hlisted]
      exact fun hmem => h.2.2 _ hmem _ (List.mem_singleton_self _) rfl
    have hput : ((ofDefinitions bs).register b).table.entries =
        (ofDefinitions bs).table.entries ++ [(b.key, b)] := Table.put_of_not_mem hnew
    rw [hregister, toList, Table.values, hput, List.map_append, List.map_singleton]
    exact congrArg (· ++ [b]) hlisted

end Registry

namespace Container

variable {c c' : Container} {s₀ s s' t t' : State}

/-! ### Containers with the same bindings in another order -/

/-- Two containers differ in nothing but the order of their bindings. -/
structure Reordered (c c' : Container) : Prop where
  /-- They have the same configuration. -/
  config : c.config = c'.config
  /-- They have the same bindings. -/
  bindings : c.registry.toList.Perm c'.registry.toList
  /-- They inject the same classes statically, in the same order. -/
  targets : c.staticTargets = c'.staticTargets
  /-- They have the same classes. -/
  classes : c.classes = c'.classes

namespace Reordered

variable (h : Reordered c c')
include h

/-- Containers that differ in the order of their bindings are siblings. -/
theorem siblings : Siblings c c' :=
  ⟨Registry.lookup_eq_of_perm h.bindings, Registry.size_eq_of_perm h.bindings, h.classes,
    by rw [h.config]⟩

/-- Their builds do the same steps. -/
theorem buildSteps : c'.buildSteps.Perm c.buildSteps := by
  have hahead : c'.isAhead = c.isAhead := funext fun b => by rw [isAhead, isAhead, h.config]
  unfold Container.buildSteps
  rw [hahead, announcement, announcement, h.targets]
  have hbindings := h.bindings.symm
  exact ((hbindings.filterMap _).append_right _).append ((hbindings.filter _).map _)

/-- The builds come to an end, and either both succeed or none does. -/
theorem start_iff (hfirm : c.Firm s₀) (hs : c.Along s₀ s) (hs' : c.Along s₀ s') :
    (∃ r t, c.start s = some (r, t)) ∧ (∃ r t, c'.start s' = some (r, t)) ∧
      ((∃ t, c.start s = some (.ok (), t)) ↔ ∃ t, c'.start s' = some (.ok (), t)) := by
  obtain ⟨r, t, hrun, -, hr⟩ := hfirm.decided_start (Twins.refl c).siblings (.refl _) s hs
  obtain ⟨r', t', hrun', -, hr'⟩ := hfirm.decided_start h.siblings h.buildSteps s' hs'
  refine ⟨⟨r, t, hrun⟩, ⟨r', t', hrun'⟩, ?_⟩
  rw [Run.exists_ok_iff hrun, Run.exists_ok_iff hrun', hr, hr']

/-- After builds that succeed, the states have grown from a common one in which all deferred
bindings are ready. -/
theorem exists_poised (hfirm : c.Firm s₀) (hs : c.Along s₀ s) (hs' : c.Along s₀ s')
    (hfaithful : s'.Faithful c') (hstart : c.start s = some (.ok (), t))
    (hstart' : c'.start s' = some (.ok (), t')) :
    ∃ u, c.Poised u ∧ c.Along u t ∧ c.Along u t' := by
  obtain ⟨_, _, hrun, ht, -⟩ := hfirm.decided_start (Twins.refl c).siblings (.refl _) s hs
  cases hstart.symm.trans hrun
  obtain ⟨_, _, hrun', ht', -⟩ := hfirm.decided_start h.siblings h.buildSteps s' hs'
  cases hstart'.symm.trans hrun'
  have hready := allReady_of_start hstart hs.grown.faithful
  have hready' : c.AllReady t'.memory.readiness := by
    rintro key ⟨b, hb, hdeferred⟩
    exact allReady_of_start hstart' hfaithful key ⟨b, by rwa [← h.siblings.bound], hdeferred⟩
  exact ⟨s₀.advanced t, hfirm.poised_advanced ht hready,
    ⟨hfirm.grown_advanced ht hready ht hready, ht.resting⟩,
    ⟨hfirm.grown_advanced ht hready ht' hready', ht'.resting⟩⟩

end Reordered

/-- Operations do the same in siblings. -/
theorem Siblings.operation_run (h : Siblings c c') {op : Operation} (hop : op.IsPeaceful) :
    op.run c = op.run c' := by
  have hsteps : InStep True Eq c c' c.resolve c'.resolve := h.inStep h.resolve
  have hresolve := h.resolve_eq
  have hget : ∀ ty d, c.getAs ty d = c'.getAs ty d := fun ty d => by
    rw [getAs, getAs, hresolve]
  cases op with
  | start => exact hop.elim
  | resolve d => rw [Operation.run, Operation.run, hresolve]
  | get ty d => rw [Operation.run, Operation.run, hget]
  | inject cls target id =>
    have hinject : c.injectMembers cls target id = c'.injectMembers cls target id :=
      (hsteps.injectObject cls target id).eq
    rw [Operation.run, Operation.run, hinject]
  | injectStatics cls =>
    have hstatics : c.injectStatics c.resolve cls = c'.injectStatics c'.resolve cls :=
      (InStepOn.injectStatics hsteps fun _ _ => trivial).eq
    rw [Operation.run, Operation.run, hstatics]
  | ask d => rw [Operation.run, Operation.run, canResolve, canResolve, h.available]
  | meanwhile f blind => rfl

/-- Siblings do the same operations one after another. -/
theorem Siblings.operate (h : Siblings c c') {ops : List Operation}
    (hops : ∀ op ∈ ops, op.IsPeaceful) : c.operate ops = c'.operate ops := by
  induction ops with
  | nil => rfl
  | cons op ops ih =>
    have hrest := ih fun op' hop' => hops op' (List.mem_cons_of_mem op hop')
    unfold Container.operate at hrest ⊢
    rw [Run.collect, Run.collect, hrest, h.operation_run (hops op List.mem_cons_self)]

end Container

/-! ### Builders -/

/-- The binding is one that a binding statement defines. -/
def Binding.IsStated (b : Binding) : Prop := ∃ ty viaKey qualifiers scopes choice,
  (Statement.bind ty viaKey qualifiers scopes choice).Defines b

/-- Binding statements that defer the injection of an object make the object beforehand, and it is
injected once. -/
theorem Binding.IsStated.once {b : Binding} (h : b.IsStated) {d : Deferral}
    (hd : b.source.deferral = some d) : ∃ cls id, d = .once cls id := by
  obtain ⟨_, _, _, _, choice, -, -, w, hsource⟩ := h
  rw [hsource] at hd
  cases choice <;> cases hd <;> exact ⟨_, _, rfl⟩

/-- Where two lists correspond, each element of the second has one in the first. -/
theorem exists_mem_of_forall₂ {α β : Type} {R : α → β → Prop} {as : List α} {bs : List β}
    (h : List.Forall₂ R as bs) {b : β} (hb : b ∈ bs) : ∃ a ∈ as, R a b := by
  induction h with
  | nil => cases hb
  | @cons a b' as bs hab _ ih =>
    rcases List.mem_cons.mp hb with rfl | hb
    · exact ⟨a, List.mem_cons_self, hab⟩
    · obtain ⟨a', ha', hab'⟩ := ih hb
      exact ⟨a', List.mem_cons_of_mem a ha', hab'⟩

/-- Modules that do not define bindings directly have binding statements for all of them. -/
theorem Draft.isStated_of_mem (ss : List Statement)
    (h : ∀ key source scope eager, .define key source scope eager ∉ flattenAll ss)
    (distinct : Bool) (w : World) {b : Binding}
    (hb : b ∈ (configureAll ss (.empty distinct, w)).1.definitions) : b.IsStated := by
  obtain ⟨made, hmade, hdefines⟩ := Draft.definitions_flatten ss (.empty distinct) w
  rw [hmade, List.mem_append] at hb
  have hb : b ∈ made := hb.resolve_left fun hnone => nomatch hnone
  obtain ⟨s, hs, hdefines⟩ := exists_mem_of_forall₂ hdefines hb
  have hlisted := (List.mem_filter.mp hs).1
  cases s with
  | bind ty viaKey qualifiers scopes choice =>
    exact ⟨ty, viaKey, qualifiers, scopes, choice, hdefines⟩
  | define key source scope eager => exact absurd hlisted (h key source scope eager)
  | injectStatic cls => exact hdefines.elim
  | install ts => exact hdefines.elim

/-- What modules make while they are configured has no parts. -/
theorem parted_configureAll (ss : List Statement) (d : Draft) {w : World} (hw : w.Parted) :
    (configureAll ss (d, w)).2.Parted := by
  let c : Container := ⟨.standard, .empty, [], ∅⟩
  have hparted : Container.prolonging.Inv ⟨.empty, w⟩ := hw
  exact (c.admitsAll_prolonging.toAdmits.changes hparted
    (Site.changes_configureAll c .empty ss d w)).1

/-- Two running containers, in two worlds, have the same bindings, and answer alike with regard to
the state `s₀` in which the first one began to be built. -/
structure RunningContainer.Matches (r r' : RunningContainer) (s₀ : State) (w w' : World) :
    Prop where
  /-- The same keys are bound, in whatever order. -/
  keys : r.container.registry.keys.Perm r'.container.registry.keys
  /-- They are bound to the same. -/
  lookup : ∀ key, r.container.registry.lookup key = r'.container.registry.lookup key
  /-- Whatever is done with each of them, if contexts and objects are left alone, both do it. From
  then on, what is asked of both of them comes to replies that are alike, or to the same error. -/
  answers : ∀ before before' : List Operation, (∀ op ∈ before, op.IsPeaceful) →
    (∀ op ∈ before', op.IsPeaceful) → ∃ rs s rs' s',
      r.container.operate before ⟨r.memory, w⟩ = some (.ok rs, s) ∧
      r'.container.operate before' ⟨r'.memory, w'⟩ = some (.ok rs', s') ∧
      ∀ op op', op.Counterpart op' → ∃ o t o' t', op.run r.container s = some (o, t) ∧
        op'.run r'.container s' = some (o', t') ∧
        SameEnd Eq (r.container.Alike s₀ s.world s'.world t.world t'.world op op') o o'

/-- Containers that differ in the order of their bindings answer alike, in states that have grown
from one in which all deferred bindings are ready. -/
theorem Container.Reordered.matches {c c' : Container} (h : Reordered c c') {s₀ u : State}
    (hregular : c.Regular s₀) (hpoised : c.Poised u) {m m' : Memory} {w w' : World}
    (hs : c.Along u ⟨m, w⟩) (hs' : c.Along u ⟨m', w'⟩) (hd : c.Descended s₀ ⟨m, w⟩)
    (hd' : c.Descended s₀ ⟨m', w'⟩) : RunningContainer.Matches ⟨c, m⟩ ⟨c', m'⟩ s₀ w w' where
  keys := by
    rw [Registry.keys_eq_map_key, Registry.keys_eq_map_key]
    exact h.bindings.map _
  lookup := h.siblings.bound
  answers before before' hbefore hbefore' := by
    obtain ⟨rs, s, hrun, hs⟩ := hpoised.firm.along_operate hbefore hs
    obtain ⟨rs', s', hrun', hs'⟩ := hpoised.firm.along_operate hbefore' hs'
    obtain ⟨hd, -, -⟩ := hregular.allows_operate hbefore _ hd trivial _ _ hrun
    obtain ⟨hd', -, -⟩ := hregular.allows_operate hbefore' _ hd' trivial _ _ hrun'
    rw [h.siblings.operate hbefore'] at hrun'
    refine ⟨rs, s, rs', s', hrun, hrun', fun op op' hop => ?_⟩
    obtain ⟨o, t, o', t', ho, ho', hend⟩ := hpoised.firm.ends_of_counterpart hop hs hs'
    obtain ⟨-, -, hyielded⟩ := hregular.yields_operation hop s.world s hd rfl o t ho
    obtain ⟨-, -, hyielded'⟩ := hregular.yields_operation hop.symm s'.world s' hd' rfl o' t' ho'
    rw [h.siblings.operation_run hop.symm.isPeaceful] at ho'
    refine ⟨o, t, o', t', ho, ho', ?_⟩
    cases o with
    | error e =>
      cases o' with
      | error e' => exact hend hpoised.ready
      | ok r' => exact hend.elim
    | ok r =>
      cases o' with
      | error e' => exact hend.elim
      | ok r' => exact hregular.alike hop hend (hyielded r rfl) (hyielded' r' rfl)

namespace Builder

variable {b b' : Builder}

/-- Builders with the same definitions make containers that differ in the order of their bindings.
-/
theorem reordered_of_perm (hconfig : b.config = b'.config)
    (htargets : b.draft.staticTargets = b'.draft.staticTargets)
    (hperm : b.draft.definitions.Perm b'.draft.definitions)
    (hkeys : (b.draft.definitions.map Binding.key).Nodup) (classes : ClassTable) :
    Container.Reordered (b.container classes) (b'.container classes) := by
  have hkeys' : (b'.draft.definitions.map Binding.key).Nodup :=
    (hperm.map Binding.key).nodup_iff.mp hkeys
  refine ⟨hconfig, ?_, htargets, rfl⟩
  simp only [container, Draft.container]
  rwa [Registry.toList_ofDefinitions hkeys, Registry.toList_ofDefinitions hkeys']

/-- Builds with different definitions begin in states that do not differ in what matters. -/
theorem along_opening (c : Container) (b b' : Builder) (classes : ClassTable) (w : World) :
    c.Along (b.opening classes w) (b'.opening classes w) := by
  have hslot : ∀ (b : Builder) key, (b.opening classes w).memory.instance? key = none :=
    fun b key => by
      cases hcell : (b.opening classes w).memory.instance? key with
      | none => rfl
      | some i => cases Container.eq_empty_of_initialMemory (Memory.instance?_eq_some.mp hcell)
  have hrest : ∀ b : Builder, c.resting.Inv (b.opening classes w) := fun b =>
    ⟨fun _ _ h => (nomatch h), fun _ h => (nomatch Container.eq_empty_of_initialMemory h),
      fun _ h => (nomatch h)⟩
  have hworld : (b'.opening classes w).world =
      { (b.opening classes w).world with journal := (b'.opening classes w).world.journal } := by
    simp only [opening, World.foldl_log]
  have hrefl : c.Grown (b.opening classes w) (b.opening classes w) := .refl (hrest b).1
  refine ⟨⟨(hrest b').1, hrefl.readiness, ?_, ?_, ?_, fun key => ?_, fun K key => ?_,
    fun name key => ?_⟩, hrest b'⟩
  · rw [hworld]
    exact .of_session rfl (Nat.le_refl _) fun _ => rfl
  · rw [hworld]
    exact hrefl.parameters
  · rw [hworld]
    exact hrefl.isOpen
  · exact (hrefl.slots key).of_eq ((hslot b' key).trans (hslot b key).symm)
  · refine (hrefl.attributes K key).of_eq ?_
    rw [hworld]
    cases K <;> rfl
  · refine (hrefl.contexts name key).of_eq ?_
    rw [hworld]
    rfl

/-- These are states from which nothing but what a container does is to be accounted for. -/
theorem descended_opening (c : Container) (b b' : Builder) (classes : ClassTable) {w : World}
    (hw : w.Parted) : c.Descended (b.opening classes w) (b'.opening classes w) := by
  have hthings : ∀ b : Builder, (b.opening classes w).world.things = w.things := fun b => by
    simp only [opening, World.foldl_log]
  refine ⟨(along_opening c b b' classes w).grown, hw.of_things (hthings b'),
    .of_things ((hthings b').trans (hthings b).symm), fun key _ i hi => ?_, fun b K _ i hi => ?_,
    fun b name _ i hi => ?_, fun _ _ _ _ _ hready => by cases hready⟩
  · cases Container.eq_empty_of_initialMemory (Memory.instance?_eq_some.mp hi)
  · refine .inl (hi ▸ ?_)
    simp only [opening, World.foldl_log]
    cases K <;> rfl
  · refine .inl (hi ▸ ?_)
    simp only [opening, World.foldl_log]
    rfl

/-- **The order of definitions.** Let two builders have the same definitions in different orders,
made by binding statements for different keys, and the same configuration and static targets. If
nothing depends on counts and there are no circles, then both builds come to an end in each world,
and either both succeed or none does. If they succeed, then whatever is done with each of the
containers later, they answer alike: they come to the same error, or to instances that differ in
nothing but identities, all the way down to what they were given. -/
theorem definitions_in_any_order (b b' : Builder) (hconfig : b.config = b'.config)
    (htargets : b.draft.staticTargets = b'.draft.staticTargets)
    (hperm : b.draft.definitions.Perm b'.draft.definitions)
    (hkeys : (b.draft.definitions.map Binding.key).Nodup)
    (hstated : ∀ d ∈ b.draft.definitions, d.IsStated) (classes : ClassTable)
    (hconstant : (b.container classes).Constant)
    (hacyclic : ∀ d, (b.container classes).Acyclic d) (w : World) (hparted : w.Parted) :
    (∃ o v, b.build classes w = some (o, v)) ∧ (∃ o v, b'.build classes w = some (o, v)) ∧
      ((∃ r v, b.build classes w = some (.ok r, v)) ↔
        ∃ r v, b'.build classes w = some (.ok r, v)) ∧
      ∀ r v r' v', b.build classes w = some (.ok r, v) → b'.build classes w = some (.ok r', v') →
        r.Matches r' (b.opening classes w) v v' := by
  have hreordered := reordered_of_perm hconfig htargets hperm hkeys classes
  have honce : (b.container classes).InjectsOnce := fun d _ hd hdeferral =>
    (hstated d (Draft.mem_of_lookup hd)).once hdeferral
  have hregular : (b.container classes).Regular (b.opening classes w) :=
    ⟨hconstant, honce, hacyclic, Container.resting_initial _ _⟩
  have hfirm := hregular.firm
  have halong := along_opening (b.container classes) b b' classes w
  obtain ⟨⟨o, s, hend⟩, ⟨o', s', hend'⟩, hiff⟩ := hreordered.start_iff hfirm hfirm.along halong
  have hends : ∀ {b : Builder} {o s}, (b.container classes).start (b.opening classes w) =
      some (o, s) → ∃ o v, b.build classes w = some (o, v) := fun hend =>
    ⟨_, _, build_eq_some_iff.mpr ⟨_, _, hend, rfl, rfl⟩⟩
  have hbuilds : ∀ b : Builder, (∃ r v, b.build classes w = some (.ok r, v)) ↔
      ∃ s, (b.container classes).start (b.opening classes w) = some (.ok (), s) := fun b =>
    ⟨fun ⟨_, _, hbuild⟩ => ⟨_, (build_eq_ok_iff.mp hbuild).2⟩,
      fun ⟨s, hstart⟩ => ⟨⟨_, s.memory⟩, s.world, build_eq_ok_iff.mpr ⟨rfl, hstart⟩⟩⟩
  refine ⟨hends hend, hends hend', ?_, ?_⟩
  · rw [hbuilds, hbuilds, hiff]
  · rintro ⟨c, m⟩ v ⟨c', m'⟩ v' hbuild hbuild'
    obtain ⟨rfl, hstart⟩ := build_eq_ok_iff.mp hbuild
    obtain ⟨rfl, hstart'⟩ := build_eq_ok_iff.mp hbuild'
    obtain ⟨u, hpoised, hu, hu'⟩ := hreordered.exists_poised hfirm hfirm.along halong
      ((b'.container classes).faithful_initial _) hstart hstart'
    obtain ⟨hd, -⟩ := hregular.allows_start (Container.Twins.refl _).siblings (.refl _) _
      (descended_opening _ b b classes hparted) trivial _ _ hstart
    obtain ⟨hd', -⟩ := hregular.allows_start hreordered.siblings hreordered.buildSteps _
      (descended_opening _ b b' classes hparted) trivial _ _ hstart'
    exact hreordered.matches hregular hpoised hu hu' hd hd'

/-- A boat that waits for its oar, which is bound after it and gets a name, and a shed that is built
ahead of time around the boat. -/
def boathouse : List Statement :=
  [.bind (.component "Boat") none [] [] .injectableInstance,
    .bind (.component "Oar") none [] [] .injectableInstance,
    .bind .text none [] [] (.calls "name" fun _ => .ok "ash"),
    .bind (.component "Shed") none [] [.asEagerSingleton] .constructor]

/-- The classes of the boathouse. -/
def boathouseClasses : ClassTable := .ofList
  [("Boat", ⟨[.field "Boat" "oar" (.injectable "Oar")], [], .fresh fun _ => none⟩),
    ("Oar", ⟨[.field "Oar" "name" (.ofTy .text)], [], .fresh fun _ => none⟩),
    ("Shed", ⟨[(Member.constructor "Shed" (.reading [.component "Boat"] none)).requiring
      [.injectable "Boat"]], [], .fresh fun _ => none⟩)]

/-- The builder of the boathouse. -/
def boathouseBuilder : Builder := ((ofConfig .standard).install boathouse .new).1

/-- The world after the boat and the oar were made. -/
def boathouseWorld : World := ((ofConfig .standard).install boathouse .new).2

/-- The shed needs the boat, the boat needs the oar, and the oar needs its name. -/
def boathouseRank (key : Key) : Nat :=
  if key = .ofTy (.component "Shed") then 3
  else if key = .ofTy (.component "Boat") then 2
  else if key = .ofTy (.component "Oar") then 1
  else 0

/-- The boathouse is made of binding statements. -/
theorem isStated_boathouse {b : Binding} (hb : b ∈ boathouseBuilder.draft.definitions) :
    b.IsStated := by
  refine Draft.isStated_of_mem boathouse (fun key source scope eager hmem => ?_) true .new hb
  simp [boathouse, flattenAll, Statement.flatten] at hmem

/-- Nothing in the boathouse depends on counts. -/
theorem constant_boathouse : (boathouseBuilder.container boathouseClasses).Constant := by
  refine Container.constant_of_plain (ClassTable.decl_ofList (P := fun _ decl => decl.IsPlain)
    (fun _ => ClassDecl.isPlain_none) ?_) fun b hb => ⟨fun ty label outcome hsource => ?_, ?_⟩
  · simp only [List.forall_mem_cons, List.not_mem_nil, false_imp_iff, implies_true, and_true]
    refine ⟨ClassDecl.isPlain_of_members ?_, ClassDecl.isPlain_of_members ?_,
      ClassDecl.isPlain_of_members ?_⟩
    all_goals
      simp only [List.forall_mem_cons, List.not_mem_nil, false_imp_iff, implies_true, and_true]
    all_goals exact ⟨_, rfl⟩
  · have hcalls : ∀ b ∈ boathouseBuilder.draft.definitions, ∀ ty label outcome,
        b.source = .provider (.calls ty label outcome) → outcome = fun _ => .ok "ash" := by
      simp [boathouseBuilder, install, boathouse, configureAll, Statement.configure,
        SourceChoice.source, Draft.define, ofConfig, Draft.empty]
    rw [hcalls b (Draft.mem_of_lookup hb) ty label outcome hsource]
    exact fun _ _ => rfl
  · have hnone : ∀ b ∈ boathouseBuilder.draft.definitions, b.source.supplier? = none := by
      decide +kernel
    intro cls outcome hsupplier
    rw [hnone b (Draft.mem_of_lookup hb)] at hsupplier
    cases hsupplier

/-- In either order, the boat waits for its oar, and the shed is built around the boat. -/
theorem boathouse_in_either_order :
    let b := boathouseBuilder
    let b' : Builder := ⟨b.config, { b.draft with definitions := b.draft.definitions.reverse }⟩
    ∃ r v r' v', b.build boathouseClasses boathouseWorld = some (.ok r, v) ∧
      b'.build boathouseClasses boathouseWorld = some (.ok r', v') ∧
      r.container.registry.keys ≠ r'.container.registry.keys ∧
      r.Matches r' (b.opening boathouseClasses boathouseWorld) v v' := by
  intro b b'
  have hacyclic := Container.acyclic_of_ranked (c := b.container boathouseClasses) boathouseRank
    (by decide +kernel)
  obtain ⟨-, -, hiff, hmatches⟩ := definitions_in_any_order b b' rfl rfl
    (List.reverse_perm _).symm (by decide +kernel) (fun _ => isStated_boathouse) boathouseClasses
    constant_boathouse hacyclic boathouseWorld
    (parted_configureAll boathouse (ofConfig .standard).draft fun _ _ _ howns => nomatch howns)
  have hbuild : (b.build boathouseClasses boathouseWorld).map (fun r => r.1.map fun _ => ()) =
      some (.ok ()) := by
    decide +kernel
  obtain ⟨⟨r | r, v⟩, hbuild, hr⟩ := Option.map_eq_some_iff.mp hbuild
  · cases hr
  obtain ⟨r', v', hbuild'⟩ := hiff.mp ⟨r, v, hbuild⟩
  refine ⟨r, v, r', v', hbuild, hbuild', ?_, hmatches r v r' v' hbuild hbuild'⟩
  rw [(build_eq_ok_iff.mp hbuild).1, (build_eq_ok_iff.mp hbuild').1]
  decide +kernel

end Builder

end Wiring
