import Mathlib.Data.Finset.Card
import Mathlib.Data.Finset.Dedup
import Wiring.Proofs.Agreement
import Wiring.Proofs.Configuration
import Wiring.Proofs.Entries
import Wiring.Proofs.Retelling
import Wiring.Proofs.System

/-!
# Later Definitions Prevail

A key may be defined more than once, in one module or in several. The last definition is in force,
with its source, its scope and its eagerness; the key keeps the place of its first definition. What
was defined before is as good as not defined: it is not part of the container, so nothing that a
container does depends on it, neither when it is built nor later. Builders whose definitions in
force are the same, in the same order of keys, come to the same, but for what is written to the log
when definitions are registered.

## Conventions

A definition is compared as a whole, together with the instance, the object or the provider that it
holds. So builders are compared in worlds that have the same things in them, and differ in nothing
but their journals.

## Main statements

* `lastDefinition`: the last definition of a key.
* `Registry.TellsOf`: what a registry of definitions says; `Registry.tellsOf_ofDefinitions`.
* `Draft.definitions_flatten`: the definitions of modules are those of the statements that they come
  down to.
* `Registry.ofDefinitions_eq`: only definitions in force matter, and the order of keys.
* `Container.InForce`, `Container.start_inForce`, `Container.Operates.inForce`: only bindings in
  force are put to use.
* `Builder.later_definitions_prevail`: later definitions prevail.
-/

namespace Wiring

/-! ### The last definition -/

/-- The last definition of a key. -/
def lastDefinition (bs : List Binding) (key : Key) : Option Binding :=
  (bs.filter (·.key = key)).getLast?

/-- The last definition counts. -/
theorem lastDefinition_concat (bs : List Binding) (b : Binding) (key : Key) :
    lastDefinition (bs ++ [b]) key = if b.key = key then some b else lastDefinition bs key := by
  unfold lastDefinition
  rw [List.filter_append]
  by_cases hkey : b.key = key <;> simp [hkey]

/-- There is no last definition of keys that are not defined. -/
theorem lastDefinition_eq_none_iff {bs : List Binding} {key : Key} :
    lastDefinition bs key = none ↔ key ∉ bs.map Binding.key := by
  unfold lastDefinition
  rw [List.getLast?_eq_none_iff, List.filter_eq_nil_iff, List.mem_map, not_exists]
  simp only [decide_eq_true_eq, not_and]

namespace Registry

/-- What is found under a key is its last definition. -/
theorem lookup_ofDefinitions (bs : List Binding) (key : Key) :
    (ofDefinitions bs).lookup key = lastDefinition bs key := by
  induction bs using List.reverseRecOn with
  | nil => rfl
  | append_singleton bs b ih =>
    have hregister : ofDefinitions (bs ++ [b]) = (ofDefinitions bs).register b := by
      simp [ofDefinitions]
    rw [hregister, lookup_register, ih, lastDefinition_concat]

/-- The bindings in force are listed key by key. -/
theorem map_some_toList (r : Registry) : r.toList.map some = r.keys.map r.lookup := by
  rw [keys_eq_map_key, List.map_map]
  exact List.map_congr_left fun b hb => (lookup_of_mem hb).symm

/-- A registry is told by the bindings that it lists. -/
theorem ext_toList {r r' : Registry} (h : r.toList = r'.toList) : r = r' := by
  have hentries : ∀ r : Registry, r.table.entries = r.toList.map fun b => (b.key, b) := by
    intro r
    rw [toList, Table.values, List.map_map]
    refine (List.map_id _).symm.trans (List.map_congr_left fun e he => ?_)
    rw [id_eq, Function.comp_apply, r.keyed e he]
  have hsame : r.table.entries = r'.table.entries := by rw [hentries, hentries, h]
  obtain ⟨⟨es, _⟩, _⟩ := r
  obtain ⟨⟨es', _⟩, _⟩ := r'
  obtain rfl : es = es' := hsame
  rfl

/-- A registry tells of a sequence of definitions which of them are in force. -/
structure TellsOf (r : Registry) (bs : List Binding) : Prop where
  /-- What is found under a key is its last definition. -/
  lookup : ∀ key, r.lookup key = lastDefinition bs key
  /-- Nothing is found under a key that was never defined, and only then. -/
  absent : ∀ key, r.lookup key = none ↔ key ∉ bs.map Binding.key
  /-- A key is bound if something is found under it. -/
  contains : ∀ key, r.contains key = (r.lookup key).isSome
  /-- The keys are listed in the order of their first definitions. -/
  keys : r.keys = (bs.map Binding.key).eraseDups
  /-- Each of them is listed once. -/
  nodup : r.keys.Nodup
  /-- The bindings in force are listed in the same order. -/
  bindings : r.toList.map some = r.keys.map r.lookup
  /-- They are as many as there are different keys. -/
  size : r.size = (bs.map Binding.key).toFinset.card

/-- A registry tells of the definitions that it was made of. -/
theorem tellsOf_ofDefinitions (bs : List Binding) : (ofDefinitions bs).TellsOf bs where
  lookup := lookup_ofDefinitions bs
  absent key := by rw [lookup_ofDefinitions, lastDefinition_eq_none_iff]
  contains := contains_eq_isSome_lookup _
  keys := keys_ofDefinitions bs
  nodup := (ofDefinitions bs).table.nodup_keys
  bindings := map_some_toList _
  size := by
    have hkeys : (bs.map Binding.key).toFinset = (ofDefinitions bs).keys.toFinset := by
      ext key
      rw [keys_ofDefinitions, List.mem_toFinset, List.mem_toFinset, List.mem_eraseDups]
    have hnodup : (ofDefinitions bs).keys.Nodup := (ofDefinitions bs).table.nodup_keys
    rw [hkeys, List.toFinset_card_of_nodup hnodup]
    exact (ofDefinitions bs).table.size_eq_length_keys

end Registry

/-- Two sequences of definitions have the same definitions in force, in the same order of keys. -/
structure SameInForce (bs bs' : List Binding) : Prop where
  /-- The last definition of each key is the same. -/
  last : ∀ key, lastDefinition bs key = lastDefinition bs' key
  /-- The keys are first defined in the same order. -/
  keys : (bs.map Binding.key).eraseDups = (bs'.map Binding.key).eraseDups

/-- Only definitions in force matter, and the order of keys. -/
theorem Registry.ofDefinitions_eq {bs bs' : List Binding} (h : SameInForce bs bs') :
    ofDefinitions bs = ofDefinitions bs' := by
  refine ext_toList (List.map_injective_iff.mpr (Option.some_injective _) ?_)
  have hkeys : (ofDefinitions bs).keys = (ofDefinitions bs').keys := by
    rw [keys_ofDefinitions, keys_ofDefinitions, h.keys]
  rw [map_some_toList, map_some_toList, hkeys]
  refine List.map_congr_left fun key _ => ?_
  rw [lookup_ofDefinitions, lookup_ofDefinitions, h.last]

/-! ### The definitions of modules -/

/-- What a binding statement defines: its key, scope and eagerness, and a source of the kind that it
chooses, with an instance or an object that is made for it. -/
def Statement.Defines : Statement → Binding → Prop
  | bind ty viaKey qualifiers scopes choice, b =>
    b.key = statedKey ty viaKey qualifiers ∧
      (b.scope, b.eager) = ScopeStep.runAll scopes (.unscoped, false) ∧
      ∃ w, b.source = (choice.source ty w).1
  | define key choice scope eager, b =>
    b.key = key ∧ b.scope = scope ∧ b.eager = eager ∧ ∃ w, b.source = (choice.source w).1
  | injectStatic _, _ | install _, _ => False

/-- The definitions of modules are those of the binding statements that the modules come down to, in
their order. -/
theorem Draft.definitions_flatten (ss : List Statement) (d : Draft) (w : World) :
    ∃ made, (configureAll ss (d, w)).1.definitions = d.definitions ++ made ∧
      List.Forall₂ Statement.Defines ((flattenAll ss).filter (·.key?.isSome)) made := by
  refine configureAll_induct (P := fun flat dw => ∃ made,
    dw.1.definitions = d.definitions ++ made ∧
      List.Forall₂ Statement.Defines (flat.filter (·.key?.isSome)) made)
    ⟨[], by simp, .nil⟩ ss fun pre s dw hinstall _ h => ?_
  obtain ⟨made, hmade, hdefines⟩ := h
  have hdefine : ∀ b : Binding, s.key?.isSome = true → s.Defines b →
      (s.configure dw).1 = dw.1.define b → ∃ made,
        (s.configure dw).1.definitions = d.definitions ++ made ∧
          List.Forall₂ Statement.Defines ((pre ++ [s]).filter (·.key?.isSome)) made := by
    intro b hkey hb hconfigure
    refine ⟨made ++ [b], ?_, ?_⟩
    · rw [hconfigure, Draft.define, hmade, List.append_assoc]
    · have hone : [s].filter (·.key?.isSome) = [s] := List.filter_eq_self.mpr fun t ht => by
        rwa [List.mem_singleton.mp ht]
      rw [List.filter_append, hone]
      exact List.rel_append hdefines (.cons hb .nil)
  cases s with
  | bind ty viaKey qualifiers scopes choice =>
    exact hdefine _ rfl ⟨rfl, rfl, dw.2, rfl⟩ rfl
  | define key choice scope eager => exact hdefine _ rfl ⟨rfl, rfl, rfl, dw.2, rfl⟩ rfl
  | injectStatic cls =>
    refine ⟨made, ?_, ?_⟩
    · rw [← hmade]
      unfold Statement.configure Draft.requestStatic
      split <;> rfl
    · rw [List.filter_append, List.filter_cons_of_neg (by simp [Statement.key?]), List.filter_nil,
        List.append_nil]
      exact hdefines
  | install ts => exact absurd rfl (hinstall ts)

/-! ### Only bindings in force are put to use -/

/-- The discipline of entering nothing in the journal but events of which `P` holds. -/
def entering (P : Event → Prop) : Discipline where
  Inv _ := True
  Step s s' := ∃ es, s.Entered s' es ∧ ∀ e ∈ es, P e
  Known _ _ := True
  refl s := ⟨[], .refl s, fun _ he => nomatch he⟩
  trans := by
    rintro s t u ⟨es, hes, hP⟩ ⟨fs, hfs, hP'⟩
    refine ⟨es ++ fs, hes.trans hfs, fun e he => ?_⟩
    exact (List.mem_append.mp he).elim (hP e) (hP' e)
  known_step _ h := h

/-- A permitted entry may be made. -/
theorem entering_emit {P : Event → Prop} {e : Event} (he : P e) (s : State) :
    (entering P).Moves s (s.inWorld (s.world.emit e)) :=
  ⟨trivial, [e], s.entered_emit e, fun e' he' => by rwa [List.mem_singleton.mp he']⟩

/-- A discipline that lets everything be entered but marks admits what a container does. -/
theorem admits_entering {P : Event → Prop} (hP : ∀ e : Event, e.isMark = false → P e)
    (c : Container) : (entering P).Admits c where
  fresh _ _ := trivial
  mentioned _ _ := trivial
  effect _ h := by
    obtain ⟨es, hes, hmark⟩ := h.entered
    exact ⟨trivial, es, hes, fun e he => hP e (hmark e he)⟩

namespace Container

variable (c : Container)

/-- What an event says about the binding of a key is true of the binding in force: that it supplies
something, that the members of its object are injected first, that it has a slot, or that it is to
be created ahead of time. -/
def InForce : Event → Prop
  | .supplying key | .supplied key _ => ∃ b, c.registry.lookup key = some b
  | .preparing key | .forced key _ =>
    ∃ b d, c.registry.lookup key = some b ∧ b.source.deferral = some d
  | .logged (.creatingSingleton key) => ∃ b, c.registry.lookup key = some b ∧ b.scope = .singleton
  | .logged (.creatingAhead key) => ∃ b, c.registry.lookup key = some b ∧ c.isAhead b = true
  | _ => True

variable {c} {b : Binding} {self : Dependency → Run Instance} {s s' : State}

/-- What is no mark does not tell of bindings. -/
theorem inForce_of_not_isMark {e : Event} (h : e.isMark = false) : c.InForce e := by
  unfold Event.isMark at h
  unfold InForce
  split <;> trivial

/-- Only the bindings in force are told of by effects. -/
theorem admits_inForce (c : Container) : (entering c.InForce).Admits c :=
  admits_entering (fun _ => inForce_of_not_isMark) c

/-- What tells of bindings in force may be entered. -/
theorem emits_inForce {e : Event} (he : c.InForce e) : (entering c.InForce).Allows (.emit e) :=
  Discipline.Ensures.change fun s _ _ => entering_emit he s

/-- So may marks that do. -/
theorem marks_inForce {f : Except ConfigurationError Instance → Event}
    (hf : ∀ r, c.InForce (f r)) : Discipline.Conduct.Marks (entering c.InForce) f :=
  fun r s _ _ => entering_emit (hf r) s

/-- Deferred bindings tell of bindings in force only. -/
theorem inForce_force (hself : ∀ d, (entering c.InForce).Gives (self d))
    (hb : c.registry.lookup b.key = some b) {d : Deferral} (hd : b.source.deferral = some d) :
    (entering c.InForce).Gives (c.force self b.key d) :=
  Discipline.Conduct.force c.admits_inForce
    (fun _ _ => Discipline.Ensures.remember fun s _ _ => ⟨trivial, (entering _).refl s⟩) hself hb hd
    (emits_inForce ⟨b, d, hb, hd⟩) (marks_inForce fun _ => ⟨b, d, hb, hd⟩)

/-- A binding in force is put to use. -/
theorem inForce_resolveBinding (hself : ∀ d, (entering c.InForce).Gives (self d))
    (hb : c.registry.lookup b.key = some b) :
    (entering c.InForce).Gives (c.resolveBinding self b) := by
  have hadmits := c.admits_inForce
  have hprovision := Discipline.Conduct.provision hadmits hself hb fun d hd =>
    inForce_force hself hb hd
  have hsupply := Discipline.Conduct.supply (emits_inForce ⟨b, hb⟩)
    (marks_inForce fun _ => ⟨b, hb⟩) hprovision
  refine Discipline.Conduct.withinScope hadmits (fun hscope => ?_) fun _ => hsupply
  exact Discipline.Conduct.inSlot hadmits
    (fun _ _ => Discipline.Ensures.remember fun s _ _ => ⟨trivial, (entering _).refl s⟩) b.key
    (emits_inForce ⟨b, hb, hscope⟩) hsupply

/-- So do resolutions. -/
theorem inForce_resolve (d : Dependency) : (entering c.InForce).Gives (c.resolve d) := by
  refine Discipline.Conduct.resolveWithin (fun self hself d => ?_) _ d
  refine Discipline.Conduct.resolveStep c.admits_inForce (marks_inForce fun _ => trivial) ?_
  refine Discipline.Conduct.answer c.admits_inForce hself fun b hb => ?_
  exact inForce_resolveBinding hself (by rw [Registry.key_of_lookup hb, hb])

/-- When a container is built, only bindings in force are put to use. -/
theorem start_inForce {r : Except ConfigurationError Unit} (h : c.start s = some (r, s')) :
    ∃ es, s.Entered s' es ∧ ∀ e ∈ es, c.InForce e := by
  have hstage : Discipline.Conduct.Stages (entering c.InForce) 1 := fun e hne hle => by
    refine emits_inForce ?_
    unfold InForce
    split <;> trivial
  have hprepare : ∀ b ∈ c.registry.toList, (entering c.InForce).Allows (c.prepare b) :=
    fun b hb => Discipline.Conduct.prepare fun d hd =>
      inForce_force inForce_resolve (Registry.lookup_of_mem hb) hd
  have hahead : ∀ b ∈ c.registry.toList.filter c.isAhead,
      (entering c.InForce).Allows (c.createAhead b) := by
    intro b hb
    obtain ⟨hb, hahead⟩ := List.mem_filter.mp hb
    have hlookup := Registry.lookup_of_mem hb
    refine (emits_inForce (e := .logged (.creatingAhead b.key)) ⟨b, hlookup, hahead⟩).bind
      fun _ => ?_
    refine Discipline.Ensures.mapError _ ?_
    refine (inForce_resolveBinding inForce_resolve hlookup).allows.bind fun _ => ?_
    exact Discipline.Ensures.succeed fun _ _ _ => trivial
  have hstart : (entering c.InForce).Allows c.start := by
    refine (Discipline.Ensures.each hprepare).bind fun _ => ?_
    refine (Discipline.Conduct.injectStaticTargets c.admits_inForce hstage inForce_resolve).bind
      fun _ => ?_
    refine (Discipline.Ensures.each hahead).bind fun _ => ?_
    refine Discipline.Ensures.bind (V := fun _ _ => True)
      (Discipline.Ensures.read fun _ _ _ => trivial) fun _ => emits_inForce trivial
  exact (hstart s trivial trivial r s' h).2.1

/-- Neither are others put to use later. -/
theorem Operates.inForce (h : c.Operates s s') :
    ∃ es, s.Entered s' es ∧ ∀ e ∈ es, c.InForce e :=
  (h.moves c.admits_inForce inForce_resolve trivial).2

end Container

/-! ### Builders -/

/-- Whether a notice is written when a binding is registered. -/
def Notice.isRegistration : Notice → Bool
  | registered .. | overridden _ => true
  | _ => false

/-- What is written to the log when definitions are registered tells of nothing else. -/
theorem Registry.isRegistration_of_mem_announced {bs : List Binding} {n : Notice}
    (h : n ∈ (announced bs).2) : n.isRegistration = true := by
  have hall : ∀ n ∈ (announced bs).2, n.isRegistration = true := by
    refine List.foldlRecOn (motive := fun p : Registry × List Notice =>
      ∀ n ∈ p.2, n.isRegistration = true) bs _ (List.forall_mem_nil _) fun p hp b _ n hn => ?_
    rcases List.mem_append.mp hn with hn | hn
    · exact hp n hn
    · unfold noticesOf at hn
      rcases List.mem_cons.mp hn with rfl | hn
      · rfl
      · split at hn
        · rw [List.mem_singleton.mp hn]
          rfl
        · cases hn
  exact hall n h

/-- Notices are written to the log one after another, and nothing else changes. -/
theorem World.foldl_log (ns : List Notice) (w : World) :
    ns.foldl log w = { w with journal := w.journal ++ (ns.map Event.logged).toArray } := by
  induction ns generalizing w with
  | nil => simp
  | cons n ns ih =>
    rw [List.foldl_cons, ih]
    simp [log, emit]

/-- Two builds come to the same, where journals begin with `j` in the one and with `k` in the other.
So does whatever is done with the containers later. -/
structure SameBuild (j k : Array Event) (x y : BuildResult ConfigurationError) : Prop where
  /-- Neither of them ends if the other does not. -/
  ends : x = none → y = none
  /-- They come to the same container that remembers the same, or to the same error. The worlds are
  the same afterwards, and so is what was written to the journals meanwhile. -/
  result : ∀ r v, x = some (r, v) → ∃ w : World, v = w.before j ∧ y = some (r, w.before k)
  /-- From then on, operations come to the same results, and to states that differ only in what the
  journals begin with. -/
  later : ∀ r v v', x = some (.ok r, v) → y = some (.ok r, v') → ∀ ops,
    SameOutcome (State.Retells j k) (r.container.operate ops ⟨r.memory, v⟩)
      (r.container.operate ops ⟨r.memory, v'⟩)

namespace Builder

/-- A journal goes on with notices that bindings were registered. -/
def Registers (j k : Array Event) : Prop :=
  ∃ ns : List Notice, k = j ++ (ns.map Event.logged).toArray ∧ ∀ n ∈ ns, n.isRegistration = true

/-- Before a build, the journal tells how definitions were registered. -/
theorem registers_opening (b : Builder) (classes : ClassTable) (w : World) :
    Registers w.journal (b.opening classes w).world.journal := by
  refine ⟨(Registry.announced b.draft.definitions).2, ?_, fun n hn =>
    Registry.isRegistration_of_mem_announced hn⟩
  rw [opening, World.foldl_log]

variable {b b' : Builder} {w w' : World} {j k : Array Event}

/-- Builds that begin in states which differ only in what the journals begin with come to the
same. -/
theorem sameBuild_of_retells {classes : ClassTable}
    (hcontainer : b.container classes = b'.container classes)
    (h : State.Retells j k (b.opening classes w) (b'.opening classes w')) :
    SameBuild j k (b.build classes w) (b'.build classes w') := by
  have hstart : Follows True (State.Retells j k) (b.container classes).start
      (b.container classes).start := (b.container classes).retells_start
  have hresult : ∀ r v, b.build classes w = some (r, v) →
      ∃ u : World, v = u.before j ∧ b'.build classes w' = some (r, u.before k) := by
    intro r v hbuild
    obtain ⟨r', s, hrun, rfl, rfl⟩ := build_eq_some_iff.mp hbuild
    obtain ⟨t, hrun', hst⟩ := hstart.eq_some h hrun
    obtain ⟨u, hs, ht⟩ := hst.world
    refine ⟨u, hs, build_eq_some_iff.mpr ⟨r', t, ?_, ?_, ht.symm⟩⟩
    · rw [← hcontainer]
      exact hrun'
    · rw [← hcontainer, hst.memory]
  refine ⟨fun hnone => ?_, hresult, fun r v v' hbuild hbuild' ops => ?_⟩
  · rw [build_eq, Option.map_eq_none_iff] at hnone ⊢
    rw [← hcontainer]
    exact hstart.eq_none h hnone
  · obtain ⟨u, rfl, hbuild''⟩ := hresult _ v hbuild
    cases hbuild'.symm.trans hbuild''
    exact (r.container.retells_operate ops).sameOutcome ⟨rfl, u, rfl, rfl⟩

/-- Builders come to the same if the same definitions are in force in them. -/
theorem sameBuild_of_sameInForce (hconfig : b.config = b'.config)
    (hforce : SameInForce b.draft.definitions b'.draft.definitions)
    (htargets : b.draft.staticTargets = b'.draft.staticTargets)
    (hworld : { w with journal := #[] } = { w' with journal := #[] }) (classes : ClassTable) :
    ∃ j k, Registers w.journal j ∧ Registers w'.journal k ∧
      SameBuild j k (b.build classes w) (b'.build classes w') := by
  have hcontainer : b.container classes = b'.container classes := by
    simp only [container, Draft.container, hconfig, htargets, Registry.ofDefinitions_eq hforce]
  refine ⟨_, _, b.registers_opening classes w, b'.registers_opening classes w',
    sameBuild_of_retells hcontainer ⟨?_, { w with journal := #[] }, ?_, ?_⟩⟩
  · rw [opening, opening, hcontainer]
  · exact (World.eq_before _).trans (by rw [opening, World.foldl_log])
  · refine (World.eq_before _).trans ?_
    rw [opening, World.foldl_log, hworld]

/-- **Later definitions prevail.** What modules define is what the statements define that they come
down to, in the same order. Of these definitions, the registry tells which are in force: the last
one for each key, in the place of the first. Only these are put to use, when a container is built
and later. So definitions that are replaced may be anything: two builders with the same definitions
in force, the same order of keys and the same static targets come to the same container, which does
the same from then on, apart from the notices that bindings were registered. -/
theorem later_definitions_prevail :
    (∀ (b : Builder) (ss : List Statement) (w : World),
      b.install ss w = b.install (flattenAll ss) w ∧ (∀ ts, .install ts ∉ flattenAll ss) ∧
        ∃ made, (b.install ss w).1.draft.definitions = b.draft.definitions ++ made ∧
          List.Forall₂ Statement.Defines ((flattenAll ss).filter (·.key?.isSome)) made) ∧
    (∀ (b : Builder) (classes : ClassTable),
      (b.container classes).registry.TellsOf b.draft.definitions) ∧
    (∀ (c : Container) (s s' : State), (∃ r, c.start s = some (r, s')) ∨ c.Operates s s' →
      ∃ es, s.Entered s' es ∧ ∀ e ∈ es, c.InForce e) ∧
    (∀ (b b' : Builder) (classes : ClassTable) (w w' : World), b.config = b'.config →
      SameInForce b.draft.definitions b'.draft.definitions →
      b.draft.staticTargets = b'.draft.staticTargets →
      { w with journal := #[] } = { w' with journal := #[] } →
      ∃ j k, Registers w.journal j ∧ Registers w'.journal k ∧
        SameBuild j k (b.build classes w) (b'.build classes w')) ∧
    ∀ (config : ContainerConfig) (ss ss' : List Statement) (classes : ClassTable) (w : World),
      let (b, v) := (ofConfig config).install ss w
      let (b', v') := (ofConfig config).install ss' w
      (∀ key, lastDefinition b.draft.definitions key = lastDefinition b'.draft.definitions key) →
      (boundKeys ss).eraseDups = (boundKeys ss').eraseDups →
      (requestedClasses ss).eraseDups = (requestedClasses ss').eraseDups →
      { v with journal := #[] } = { v' with journal := #[] } →
      ∃ j k, Registers v.journal j ∧ Registers v'.journal k ∧
        SameBuild j k (b.build classes v) (b'.build classes v') := by
  refine ⟨fun b ss w => ⟨?_, install_notMem_flattenAll ss, ?_⟩, fun b classes => ?_, ?_, ?_, ?_⟩
  · rw [install, install, configureAll_eq_flatten ss]
  · exact Draft.definitions_flatten ss b.draft w
  · exact Registry.tellsOf_ofDefinitions b.draft.definitions
  · rintro c s s' (⟨r, hstart⟩ | hoperates)
    · exact Container.start_inForce hstart
    · exact hoperates.inForce
  · exact fun _ _ classes _ _ hconfig hforce htargets hworld =>
      sameBuild_of_sameInForce hconfig hforce htargets hworld classes
  · intro config ss ss' classes w hlast hkeys htargets hworld
    have hcollects := Draft.collects_configureAll ss w
    have hcollects' := Draft.collects_configureAll ss' w
    have hforce : SameInForce ((ofConfig config).install ss w).1.draft.definitions
        ((ofConfig config).install ss' w).1.draft.definitions :=
      ⟨hlast, (congrArg List.eraseDups hcollects.keys).trans
        (hkeys.trans (congrArg List.eraseDups hcollects'.keys).symm)⟩
    have hstatics : ((ofConfig config).install ss w).1.draft.staticTargets =
        ((ofConfig config).install ss' w).1.draft.staticTargets :=
      hcollects.classes.trans (htargets.trans hcollects'.classes.symm)
    have hconfig : ((ofConfig config).install ss w).1.config =
        ((ofConfig config).install ss' w).1.config := rfl
    have hsame := sameBuild_of_sameInForce hconfig hforce hstatics hworld classes
    exact hsame

/-- Whoever sees the value of a single reply sees an instance that was handed over. -/
theorem exists_handed_of_map_value
    {as : Except ConfigurationError (List (Except ConfigurationError Reply))} {v : Value}
    (h : as.toOption.map (List.map fun a => (a.toOption.bind Reply.instance?).map
      Instance.value) = some [some v]) : ∃ i, as = .ok [.ok (.handed i)] ∧ i.value = v := by
  cases as with
  | error e => cases h
  | ok rs =>
    obtain ⟨a, rfl, ha⟩ := List.map_eq_singleton_iff.mp (Option.some.inj h)
    cases a with
    | error e => cases ha
    | ok r =>
      obtain ⟨i, hi, hvalue⟩ := Option.map_eq_some_iff.mp ha
      exact ⟨i, by rw [Reply.instance?_eq_some.mp hi], hvalue⟩

/-- A tea room, which was to boil water in a kettle that fails, and was then taken over by another
module that serves green tea. -/
def teaRoom : List Statement :=
  [.install
    [.bind .text none [] [.asEagerSingleton] (.provider "kettle" fun _ =>
        some (.providerFailed "Key[String]" "dry")),
      .injectStatic "Waiter"],
    .install
      [.bind .number none [] [] (.value "4"),
        .bind .text none [] [] (.provider "green" fun _ => none),
        .injectStatic "Waiter"]]

/-- The same tea room without its past. -/
def newTeaRoom : List Statement :=
  [.bind .text none [] [] (.provider "green" fun _ => none),
    .bind .number none [] [] (.value "4"),
    .injectStatic "Waiter"]

/-- The tea room opens in spite of the kettle, and serves the same tea as the new one. -/
theorem teaRoom_serves_green :
    let (b, v) := (ofConfig .production).install teaRoom .new
    let (b', v') := (ofConfig .production).install newTeaRoom .new
    ∃ r u u', b.build ∅ v = some (.ok r, u) ∧ b'.build ∅ v' = some (.ok r, u') ∧
      ∃ i t t', r.container.operate [.resolve (.ofTy .text)] ⟨r.memory, u⟩ =
          some (.ok [.ok (.handed i)], t) ∧
        r.container.operate [.resolve (.ofTy .text)] ⟨r.memory, u'⟩ =
          some (.ok [.ok (.handed i)], t') ∧ i.value = .text "green/0" := by
  have hlast : ∀ key,
      lastDefinition ((ofConfig .production).install teaRoom .new).1.draft.definitions key =
        lastDefinition ((ofConfig .production).install newTeaRoom .new).1.draft.definitions
          key := by
    intro key
    by_cases htext : key = .ofTy .text
    · subst htext
      rfl
    by_cases hnumber : key = .ofTy .number
    · subst hnumber
      rfl
    have hother : ∀ ss : List Statement, (∀ key' ∈ boundKeys ss, key' = .ofTy .text ∨
        key' = .ofTy .number) → lastDefinition
          ((ofConfig .production).install ss .new).1.draft.definitions key = none := by
      intro ss hss
      have hkeys : ((ofConfig .production).install ss .new).1.draft.definitions.map Binding.key =
          boundKeys ss := (Draft.collects_configureAll ss .new).keys
      rw [lastDefinition_eq_none_iff, hkeys]
      exact fun hmem => (hss key hmem).elim htext hnumber
    rw [hother teaRoom (by decide), hother newTeaRoom (by decide)]
  obtain ⟨j, k, -, -, hsame⟩ := later_definitions_prevail.2.2.2.2 .production teaRoom newTeaRoom ∅
    .new hlast (by decide) (by decide) rfl
  have hserves : (((ofConfig .production).install teaRoom .new).1.build ∅
      ((ofConfig .production).install teaRoom .new).2).bind (fun p => p.1.toOption.bind fun r =>
        (r.container.operate [.resolve (.ofTy .text)] ⟨r.memory, p.2⟩).map fun q =>
          q.1.toOption.map (List.map fun a => (a.toOption.bind Reply.instance?).map
            Instance.value)) = some (some [some (.text "green/0")]) := by
    decide +kernel
  obtain ⟨⟨x, u⟩, hbuild, hserves⟩ := Option.bind_eq_some_iff.mp hserves
  obtain ⟨r, hr, hserves⟩ := Option.bind_eq_some_iff.mp hserves
  obtain rfl : x = .ok r := by
    cases x with
    | error e => cases hr
    | ok r' => exact congrArg Except.ok (Option.some.inj hr)
  obtain ⟨⟨as, t⟩, hrun, hgreen⟩ := Option.map_eq_some_iff.mp hserves
  obtain ⟨w, rfl, hbuild'⟩ := hsame.result _ u hbuild
  obtain ⟨t', hrun', -⟩ := (hsame.later r _ _ hbuild hbuild' [.resolve (.ofTy .text)]).1 as t hrun
  obtain ⟨i, rfl, hvalue⟩ := exists_handed_of_map_value hgreen
  exact ⟨r, _, _, hbuild, hbuild', i, t, t', hrun, hrun', hvalue⟩

end Builder

end Wiring
