import Wiring.Proofs.Freshness
import Wiring.Proofs.Sharing

/-!
# Containers that Refer to What Is There

A container is grounded if it refers only to things that are there, and so is a world if its
requests, sessions and contexts keep only such things. When modules are configured, they make the
things that their statements mention, so a container that is built from modules is grounded from
the start.

## Conventions

A definition may state a source directly. What is said here about modules is said of those in which
these sources refer only to things that are there.

## Main statements

* `Container.Grounded`, `World.Grounded`: what refers only to things that are there.
* `grounded_configureAll`: what modules state refers only to things that are there.
* `Draft.Grounded.container`: so does the container that a draft describes.
-/

namespace Wiring

/-- A container and its world refer only to things that are there. -/
def Container.Grounded (c : Container) (s : State) : Prop :=
  ∀ id, c.Mentions s id → id < s.world.things.size

/-- Requests, sessions and contexts keep only instances of things that are there. -/
structure World.Grounded (w : World) : Prop where
  /-- What requests and sessions keep. -/
  kept : ∀ k key i id, (w.attributes k).get? key = some i → i.value.thing? = some id →
    id < w.things.size
  /-- What contexts keep. -/
  context : ∀ name key i id, (w.context name).kept.get? key = some i →
    i.value.thing? = some id → id < w.things.size

/-- A source refers only to things that are there. -/
structure Source.Grounded (source : Source) (w : World) : Prop where
  /-- What is given. -/
  given : ∀ i id, source = .given i → i.value.thing? = some id → id < w.things.size
  /-- Objects whose members are to be injected. -/
  subject : ∀ d cls id, source.deferral = some d → d.subject = .existing cls id →
    id < w.things.size

/-- A draft and its world refer only to things that are there. -/
structure Draft.Grounded (d : Draft) (w : World) : Prop where
  /-- The world. -/
  world : w.Grounded
  /-- The sources that were stated. -/
  sources : ∀ b ∈ d.definitions, b.source.Grounded w

namespace Container

variable {c : Container} {s : State} {w : World}

/-- The world of a container that refers only to things that are there is grounded. -/
theorem Grounded.world (h : c.Grounded s) : s.world.Grounded where
  kept _ _ _ id hk hv := h id (.kept hk hv)
  context _ _ _ id hk hv := h id (.context hk hv)

/-- While nothing is under construction, the discipline of new objects asks for no more. -/
theorem inv_fresh_iff : (c.fresh fun _ => False).Inv s ↔ c.Grounded s := by
  constructor
  · intro h id hid
    exact (h.2 id hid).1
  · intro h
    exact ⟨fun _ hX => hX.elim, fun id hid => ⟨h id hid, fun hX => hX⟩⟩

/-- A new container refers to what its sources and its world refer to. -/
theorem grounded_initial (hw : w.Grounded)
    (hsources : ∀ b, c.registry.lookup b.key = some b → b.source.Grounded w) :
    c.Grounded ⟨c.initialMemory, w⟩ := by
  intro id hid
  cases hid with
  | @slot key i hk hv =>
    cases eq_empty_of_initialMemory hk
  | deferred hk hv => cases hk
  | kept hk hv => exact hw.kept _ _ _ _ hk hv
  | context hk hv => exact hw.context _ _ _ _ hk hv
  | given hb hsource hv => exact (hsources _ hb).given _ _ hsource hv
  | subject hb hd hsubject => exact (hsources _ hb).subject _ _ _ hd hsubject

end Container

/-! ### Worlds -/

namespace World

variable {w : World}

/-- A container without bindings, for what happens in a world without any. -/
def onlooker : Container := ⟨.standard, .empty, [], .ofList []⟩

/-- What a container without bindings does keeps a world grounded, and takes nothing away. -/
theorem Grounded.of_moves {s : State}
    (h : (onlooker.fresh fun _ => False).Moves ⟨onlooker.initialMemory, w⟩ s) :
    s.world.Grounded ∧ w.things.size ≤ s.world.things.size :=
  ⟨(Container.inv_fresh_iff.mp h.1).world, h.2.1⟩

theorem Grounded.inv (h : w.Grounded) :
    (onlooker.fresh fun _ => False).Inv ⟨onlooker.initialMemory, w⟩ :=
  Container.inv_fresh_iff.mpr (Container.grounded_initial h fun _ hb => nomatch hb)

/-- Nothing is kept at first. -/
theorem grounded_new : World.new.Grounded where
  kept k key i id hk := by cases k <;> cases hk
  context name key i id hk := by cases hk

theorem Grounded.log (h : w.Grounded) (n : Notice) : (w.log n).Grounded where
  kept k key i id hk := h.kept k key i id (by cases k <;> exact hk)
  context name key i id hk := h.context name key i id hk

theorem Grounded.makeObject (h : w.Grounded) (cls : ClassPath) :
    (w.makeObject cls).2.Grounded ∧ w.things.size < (w.makeObject cls).2.things.size := by
  obtain ⟨hmoves, hknown⟩ := (onlooker.admits_fresh _).makeObject h.inv cls
  exact ⟨(Grounded.of_moves hmoves).1, hknown.1⟩

theorem Grounded.makeInstance (h : w.Grounded) (ty : Ty) (label : String) :
    (w.makeInstance ty label).2.Grounded ∧
      w.things.size ≤ (w.makeInstance ty label).2.things.size ∧
      ∀ id, (w.makeInstance ty label).1.value.thing? = some id →
        id < (w.makeInstance ty label).2.things.size := by
  obtain ⟨hinv, hstep, hknows⟩ :=
    (onlooker.admits_fresh _).makeInstance ty label _ h.inv trivial _ _ rfl
  obtain ⟨hgrounded, hsize⟩ := Grounded.of_moves ⟨hinv, hstep⟩
  exact ⟨hgrounded, hsize, fun id hid => (hknows _ rfl id hid).1⟩

end World

/-! ### Modules -/

/-- A source that refers to nothing. -/
theorem Source.grounded_of_plain {source : Source} {w : World} (hgiven : ∀ i, source ≠ .given i)
    (hdeferral : source.deferral = none) : source.Grounded w where
  given i _ hi := absurd hi (hgiven i)
  subject d _ _ hd := by
    rw [hdeferral] at hd
    cases hd

/-- Things may come to be. -/
theorem Source.Grounded.mono {source : Source} {w w' : World} (h : source.Grounded w)
    (hsize : w.things.size ≤ w'.things.size) : source.Grounded w' where
  given i id hi hid := Nat.lt_of_lt_of_le (h.given i id hi hid) hsize
  subject d cls id hd hs := Nat.lt_of_lt_of_le (h.subject d cls id hd hs) hsize

/-- The source of an object whose members are to be injected. -/
theorem Source.grounded_of_deferral {source : Source} {w : World} {cls : ClassPath} {id : Nat}
    (hgiven : ∀ i, source ≠ .given i) (hdeferral : source.deferral = some (.once cls id))
    (hid : id < w.things.size) : source.Grounded w where
  given i _ hi := absurd hi (hgiven i)
  subject d _ _ hd hs := by
    rw [hdeferral] at hd
    cases hd
    cases hs
    exact hid

/-- What a choice makes is there. -/
theorem SourceChoice.grounded_source (choice : SourceChoice) (ty : Ty) {w : World}
    (h : w.Grounded) :
    (choice.source ty w).2.Grounded ∧ w.things.size ≤ (choice.source ty w).2.things.size ∧
      (choice.source ty w).1.Grounded (choice.source ty w).2 := by
  cases choice with
  | value label =>
    obtain ⟨hw, hsize, hthing⟩ := h.makeInstance ty label
    refine ⟨hw, hsize, ⟨fun i id hi hid => ?_, fun _ _ _ hd => nomatch hd⟩⟩
    cases hi
    exact hthing id hid
  | injectableProvider cls =>
    obtain ⟨hw, hlt⟩ := h.makeObject cls
    exact ⟨hw, Nat.le_of_lt hlt, Source.grounded_of_deferral nofun rfl hlt⟩
  | injectableInstance =>
    obtain ⟨hw, hlt⟩ := h.makeObject ty.fullName
    exact ⟨hw, Nat.le_of_lt hlt, Source.grounded_of_deferral nofun rfl hlt⟩
  | _ => exact ⟨h, Nat.le_refl _, Source.grounded_of_plain nofun rfl⟩

/-- What a definition makes is there, and what it states is there if it was before. -/
theorem DirectSource.grounded_source (choice : DirectSource) {w : World} (h : w.Grounded)
    (hready : ∀ source, choice = .ready source → source.Grounded w) :
    (choice.source w).2.Grounded ∧ w.things.size ≤ (choice.source w).2.things.size ∧
      (choice.source w).1.Grounded (choice.source w).2 := by
  cases choice with
  | ready source => exact ⟨h, Nat.le_refl _, hready source rfl⟩
  | value m =>
    obtain ⟨hw, hsize, hthing⟩ := h.makeInstance m.ty m.label
    refine ⟨hw, hsize, ⟨fun i id hi hid => ?_, fun _ _ _ hd => nomatch hd⟩⟩
    cases hi
    exact hthing id hid

namespace Draft

variable {d : Draft} {w w' : World}

theorem Grounded.log (h : d.Grounded w) (n : Notice) : d.Grounded (w.log n) where
  world := h.world.log n
  sources b hb := (h.sources b hb).mono (Nat.le_refl _)

/-- A source may be added. -/
theorem Grounded.define (h : d.Grounded w) (hw : w'.Grounded)
    (hsize : w.things.size ≤ w'.things.size) {b : Binding} (hb : b.source.Grounded w') :
    (d.define b).Grounded w' where
  world := hw
  sources b' hb' := by
    rcases List.mem_append.mp hb' with hb' | hb'
    · exact (h.sources b' hb').mono hsize
    · rw [List.mem_singleton.mp hb']
      exact hb

/-- The definition in force for a key is one of the definitions. -/
theorem mem_of_lookup {bs : List Binding} {key : Key} {b : Binding}
    (h : (Registry.ofDefinitions bs).lookup key = some b) : b ∈ bs := by
  have hfold : ∀ (bs : List Binding) (r : Registry), (bs.foldl .register r).lookup key = some b →
      b ∈ bs ∨ r.lookup key = some b := by
    intro bs
    induction bs with
    | nil => exact fun r hr => .inr hr
    | cons b' bs ih =>
      intro r hr
      rcases ih (r.register b') hr with hmem | hr
      · exact .inl (List.mem_cons_of_mem _ hmem)
      · rw [Registry.lookup_register] at hr
        split at hr
        · cases hr
          exact .inl List.mem_cons_self
        · exact .inr hr
  exact (hfold bs .empty h).resolve_right nofun

/-- The container that a draft describes refers only to things that are there. -/
theorem Grounded.container (h : d.Grounded w) (config : ContainerConfig) (classes : ClassTable) :
    (d.container config classes).Grounded ⟨(d.container config classes).initialMemory, w⟩ :=
  Container.grounded_initial h.world fun b hb => h.sources b (mem_of_lookup hb)

end Draft

mutual

/-- What a statement adds to a draft refers only to things that are there. -/
theorem Statement.grounded_configure (s : Statement) {d : Draft} {w : World} (h : d.Grounded w)
    (hready : ∀ key source scope eager,
      .define key (.ready source) scope eager ∈ s.flatten → source.Grounded w) :
    (s.configure (d, w)).1.Grounded (s.configure (d, w)).2 ∧
      w.things.size ≤ (s.configure (d, w)).2.things.size := by
  cases s with
  | bind ty viaKey qualifiers scopes source =>
    obtain ⟨hw, hsize, hsource⟩ := source.grounded_source ty h.world
    exact ⟨h.define hw hsize hsource, hsize⟩
  | define key source scope eager =>
    obtain ⟨hw, hsize, hsource⟩ := source.grounded_source h.world fun source hs =>
      hready key source scope eager (by rw [hs]; exact List.mem_singleton_self _)
    exact ⟨h.define hw hsize hsource, hsize⟩
  | injectStatic cls =>
    rw [Statement.configure, Draft.requestStatic]
    split
    · have hlog := h.log (.repeatedStaticRequest cls)
      exact ⟨⟨hlog.world, hlog.sources⟩, Nat.le_refl _⟩
    · exact ⟨⟨h.world, h.sources⟩, Nat.le_refl _⟩
  | install statements =>
    rw [Statement.configure]
    exact grounded_configureAll statements h (by rwa [Statement.flatten] at hready)

/-- What modules state refers only to things that are there. -/
theorem grounded_configureAll (ss : List Statement) {d : Draft} {w : World} (h : d.Grounded w)
    (hready : ∀ key source scope eager,
      .define key (.ready source) scope eager ∈ flattenAll ss → source.Grounded w) :
    (configureAll ss (d, w)).1.Grounded (configureAll ss (d, w)).2 ∧
      w.things.size ≤ (configureAll ss (d, w)).2.things.size := by
  cases ss with
  | nil => exact ⟨h, Nat.le_refl _⟩
  | cons s rest =>
    rw [flattenAll] at hready
    obtain ⟨hs, hsize⟩ := s.grounded_configure h fun key source scope eager hmem =>
      hready key source scope eager (List.mem_append_left _ hmem)
    obtain ⟨hrest, hsize'⟩ := grounded_configureAll rest hs fun key source scope eager hmem =>
      (hready key source scope eager (List.mem_append_right _ hmem)).mono hsize
    rw [configureAll]
    exact ⟨hrest, Nat.le_trans hsize hsize'⟩

end

end Wiring
