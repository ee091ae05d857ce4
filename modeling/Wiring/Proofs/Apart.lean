import Wiring.Proofs.Grounding
import Wiring.Proofs.Lifting

/-!
# Things That Stand Apart

A container comes across the things that it and its world refer to, the parts of these, and what it
makes itself. What nothing refers to is out of its reach. So an object that is in the hands of
somebody else stays as it is, together with its parts, whatever the container resolves meanwhile.

## Conventions

The things that stand apart are told by a predicate on their numbers. An object that has a part
among them is one of them itself.

## Main statements

* `Discipline.MindsThings`: a discipline about things, which admits all that a container does.
* `Container.StandsApart`: things stand apart from a container and its world.
* `Container.StandsApart.resolve`: what stands apart is left as it is by resolutions.
* `Container.Whole.standsApart_makeObject`: new objects stand apart.
-/

namespace Wiring

/-! ### Parts after a change -/

namespace World

variable {w : World} {id id' part : Nat} {cls : ClassPath}

/-- A new thing without parts owns nothing. -/
theorem owns_push {t : Thing} (ht : t.IsBare)
    (h : World.Owns { w with things := w.things.push t } id cls part) : w.Owns id cls part := by
  obtain ⟨o, ho, hpart⟩ := Option.bind_eq_some_iff.mp h
  rcases object?_push ho with ho | rfl
  · exact Option.bind_eq_some_iff.mpr ⟨o, ho, hpart⟩
  · rw [show o.parts = ∅ from ht] at hpart
    cases hpart

/-- A change of an object only matters for what it owns itself. -/
theorem owns_modifyObject {f : Object → Object} (h : (w.modifyObject id f).Owns id' cls part) :
    w.Owns id' cls part ∨
      id' = id ∧ ∃ o, w.object? id = some o ∧ (f o).parts.get? cls = some part := by
  obtain ⟨o, ho, hpart⟩ := Option.bind_eq_some_iff.mp h
  have hget := object?_eq_some_iff.mp ho
  rw [modifyObject, Array.getElem?_modify] at hget
  split at hget
  · next heq =>
    obtain ⟨t, ht, hchanged⟩ := Option.map_eq_some_iff.mp hget
    cases t with
    | service => cases hchanged
    | object o' =>
      cases hchanged
      exact .inr ⟨heq.symm, o', object?_eq_some_iff.mpr (heq ▸ ht), hpart⟩
  · exact .inl (Option.bind_eq_some_iff.mpr ⟨o, object?_eq_some_iff.mpr hget, hpart⟩)

end World

/-! ### Disciplines about things -/

namespace Discipline

variable {D : Discipline} {c : Container} {T : State → Nat → Prop}

/-- What a discipline minds are things, and which of them are known. Those of which `T` holds may be
touched. -/
structure MindsThings (D : Discipline) (c : Container) (T : State → Nat → Prop) : Prop where
  /-- Other things are left alone, and only known things come to be referred to. -/
  moves : ∀ {s s' : State}, D.Inv s → s.world.things.size ≤ s'.world.things.size →
    (∀ id < s.world.things.size, ¬ T s id → s'.world.things[id]? = s.world.things[id]?) →
    (∀ id, c.Mentions s' id → c.Mentions s id ∨ D.Known s id) →
    (∀ id cls part, s'.world.Owns id cls part → s.world.Owns id cls part ∨ T s part) →
    D.Moves s s'
  /-- A new thing is known. -/
  fresh : ∀ {s : State} (t : Thing), D.Inv s →
    D.Known (s.inWorld { s.world with things := s.world.things.push t }) s.world.things.size
  /-- What is referred to is known. -/
  mentioned : ∀ {s : State} {id : Nat}, D.Inv s → c.Mentions s id → D.Known s id
  /-- What is known may be touched. -/
  known : ∀ {s : State} {id : Nat}, D.Known s id → T s id
  /-- The parts of what may be touched may be touched. -/
  part : ∀ {s : State} {id part : Nat} {cls : ClassPath}, D.Inv s → T s id →
    s.world.Owns id cls part → T s part
  /-- What may be touched may be touched later on. -/
  lasting : ∀ id, D.Lasting fun s => T s id

namespace MindsThings

variable (h : D.MindsThings c T) {s s' : State}
include h

/-- Nothing is minded that leaves things alone. -/
theorem quiet (hs : D.Inv s) (hthings : s'.world.things = s.world.things)
    (hmentions : ∀ id, c.Mentions s' id → c.Mentions s id ∨ D.Known s id) : D.Moves s s' :=
  h.moves hs (by rw [hthings]) (fun _ _ _ => by rw [hthings]) hmentions
    fun _ _ _ howns => .inl (howns.congr hthings.symm)

theorem deed (hs : D.Inv s) (hdeed : Deed c D T s s') : D.Moves s s' := by
  have hmentions : ∀ id, c.Mentions s' id → c.Mentions s id ∨ D.Known s id := fun id hid =>
    (hdeed.effect.mentions hid).imp_right fun ⟨_, hi, hid⟩ => hi id hid
  have hsize := hdeed.effect.size_things
  cases hdeed with
  | emit e _ => exact h.quiet hs rfl hmentions
  | aside _ hthings _ => exact h.quiet hs hthings hmentions
  | thing t ht =>
    refine h.moves hs hsize (fun id hlt _ => ?_) hmentions fun id cls part howns => ?_
    · rw [State.inWorld, Array.getElem?_push_lt hlt, Array.getElem?_eq_getElem hlt]
    · exact .inl (World.owns_push ht howns)
  | object id f hid _ hnew =>
    refine h.moves hs hsize (fun id' _ hid' => ?_) hmentions fun id' cls part howns => ?_
    · have hne : id ≠ id' := fun heq => hid' (heq ▸ hid)
      rw [State.inWorld, World.modifyObject, Array.getElem?_modify, if_neg hne]
    · rcases World.owns_modifyObject howns with howns | ⟨rfl, o, ho, hpart⟩
      · exact .inl howns
      · exact (hnew o cls part hpart).imp
          (fun hpart => Option.bind_eq_some_iff.mpr ⟨o, ho, hpart⟩) And.left

/-- Such a discipline admits all that a container does. -/
theorem admitsAllDeeds : D.AdmitsAllDeeds c T where
  deed := h.deed
  fresh := h.fresh
  mentioned := h.mentioned
  known := h.known
  part hs hid ho hpart := h.part hs hid (Option.bind_eq_some_iff.mpr ⟨_, ho, hpart⟩)
  lasting := h.lasting
  readiness key r := by
    refine Ensures.remember fun s hs hr => h.quiet hs rfl fun id hid => ?_
    exact (Container.mentions_of_setReadiness hid).imp_right fun ⟨i, hi, hv⟩ => hr i hi id hv
  slots key cell := by
    refine Ensures.remember fun s hs hcell => h.quiet hs rfl fun id hid => ?_
    exact (Container.mentions_of_setSlot hid).imp_right fun ⟨i, hi, hv⟩ => hcell i hi id hv
  mark e s _ hs := h.quiet hs rfl fun _ hid => .inl (Container.mentions_of_emit hid)

end MindsThings

end Discipline

/-! ### What stands apart -/

namespace Container

variable (c : Container) (X : Nat → Prop)

/-- The things in `X` stand apart: they are there, neither the container nor its world refers to any
of them, and they are not parts of other objects. -/
structure StandsApart (s : State) : Prop where
  /-- They are there. -/
  there : ∀ id, X id → id < s.world.things.size
  /-- Nothing refers to them. -/
  unmentioned : ∀ id, c.Mentions s id → ¬ X id
  /-- Only objects among them have parts among them. -/
  enclosed : ∀ id cls part, s.world.Owns id cls part → X part → X id

/-- The discipline of leaving alone the things in `X`, which stand apart. -/
def standingApart : Discipline where
  Inv := c.StandsApart X
  Step s s' := ∀ id, X id → s'.world.things[id]? = s.world.things[id]?
  Known _ id := ¬ X id
  refl _ _ _ := rfl
  trans h h' id hid := (h' id hid).trans (h id hid)
  known_step _ h := h

/-- Only what stands apart may not be touched. -/
theorem mindsThings_standingApart : (c.standingApart X).MindsThings c fun _ id => ¬ X id where
  moves {s s'} hs hsize hsame hmentions hparts := by
    have hrest : ∀ id, X id → s'.world.things[id]? = s.world.things[id]? := fun id hid =>
      hsame id (hs.there id hid) fun h => h hid
    refine ⟨⟨fun id hid => ?_, fun id hid => ?_, fun id cls part howns hX => ?_⟩, hrest⟩
    · exact Nat.lt_of_lt_of_le (hs.there id hid) hsize
    · exact (hmentions id hid).elim (hs.unmentioned id) fun h => h
    · exact (hparts id cls part howns).elim (hs.enclosed id cls part · hX) fun h => absurd hX h
  fresh t hs hX := Nat.lt_irrefl _ (hs.there _ hX)
  mentioned hs hid := hs.unmentioned _ hid
  known h := h
  part hs hid howns hX := hid (hs.enclosed _ _ _ howns hX)
  lasting _ _ _ _ h := h

variable {c X} {s s' : State}

/-- What stands apart is left as it is when a dependency is resolved. -/
theorem StandsApart.resolve {d : Dependency} {r : Except ConfigurationError Instance}
    (hs : c.StandsApart X s) (h : c.resolve d s = some (r, s')) :
    (c.standingApart X).Moves s s' := by
  have hadmits := (c.mindsThings_standingApart X).admitsAllDeeds
  obtain ⟨hs', hsame, -⟩ := hadmits.resolve d s hs trivial r s' h
  exact ⟨hs', hsame⟩

/-! ### New objects -/

variable (c)

/-- Everything that is referred to is there, and so are all parts. -/
structure Whole (s : State) : Prop where
  /-- What the container and its world refer to is there. -/
  grounded : c.Grounded s
  /-- Parts are there. -/
  parts : ∀ id cls part, s.world.Owns id cls part → part < s.world.things.size

variable {c}

/-- An object that was just made stands apart. -/
theorem Whole.standsApart_makeObject (hs : c.Whole s) (cls : ClassPath) :
    c.StandsApart (· = s.world.things.size) (s.inWorld (s.world.makeObject cls).2) := by
  have heffect : Effect c (fun _ => False) s (s.inWorld (s.world.addObject cls [] ∅).2) :=
    .thing _ rfl
  refine ⟨?_, fun id hid => ?_, fun id other part howns hpart => ?_⟩
  · rintro id rfl
    simp [State.inWorld, World.makeObject, World.addObject, World.emit]
  · rcases heffect.mentions (mentions_of_emit hid) with hid | ⟨i, hi, -⟩
    · exact Nat.ne_of_lt (hs.grounded id hid)
    · exact hi.elim
  · have howns : s.world.Owns id other part :=
      World.owns_push (t := .object ⟨cls, [], ∅, 0⟩) rfl howns
    exact absurd hpart (Nat.ne_of_lt (hs.parts id other part howns))

end Container

end Wiring
