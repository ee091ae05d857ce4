import Wiring.Proofs.Lifting

/-!
# Objects Go On

Whatever a container does, the objects that are there stay there. They keep their classes and their
parts, and what happened to them stays in their histories. So once a member of an object was called,
this is never lost.

A lifted member is called on a part of the object that it is injected into, and the part may be made
for the call. For this to be told of the object, its parts have to be objects themselves. That is so
of every part that a container makes.

## Conventions

The history of an object along a path is that of the part which is reached through parts of the
classes in the path. Before the part is made, the history is empty.

## Main statements

* `World.ProlongedBy`: the objects of a world go on.
* `World.Parted`: the parts of objects are objects.
* `World.historyAt`, `World.ProlongedBy.historyAt`: what happened to a part stays in its history.
* `World.historyAt_record`: a call of a lifted member is told of the object.
* `Container.prolonging`, `Container.admitsAll_prolonging`: a container only lets objects go on.
-/

namespace Wiring

/-! ### Objects -/

namespace Object.ProlongedBy

variable {o o' o'' : Object}

theorem refl (o : Object) : o.ProlongedBy o := ⟨rfl, List.prefix_rfl, fun _ _ h => h⟩

theorem trans (h : o.ProlongedBy o') (h' : o'.ProlongedBy o'') : o.ProlongedBy o'' :=
  ⟨h'.cls.trans h.cls, h.history.trans h'.history,
    fun cls part hpart => h'.parts cls part (h.parts cls part hpart)⟩

end Object.ProlongedBy

namespace World

variable {w w' w'' : World} {id part : Nat} {cls : ClassPath} {path : List ClassPath} {o : Object}

/-- Each object that is there goes on. -/
def ProlongedBy (w w' : World) : Prop :=
  ∀ id o, w.object? id = some o → ∃ o', w'.object? id = some o' ∧ o.ProlongedBy o'

namespace ProlongedBy

theorem refl (w : World) : w.ProlongedBy w := fun _ o ho => ⟨o, ho, .refl o⟩

theorem trans (h : w.ProlongedBy w') (h' : w'.ProlongedBy w'') : w.ProlongedBy w'' :=
  fun id o ho =>
    have ⟨o', ho', hgoes⟩ := h id o ho
    have ⟨o'', ho'', hgoes'⟩ := h' id o' ho'
    ⟨o'', ho'', hgoes.trans hgoes'⟩

/-- Only things matter. -/
theorem of_things (h : w'.things = w.things) : w.ProlongedBy w' := fun _ o ho => by
  refine ⟨o, ?_, .refl o⟩
  unfold object? at ho ⊢
  rwa [h]

/-- An object that was not there is new. -/
theorem object?_eq_none (h : w.ProlongedBy w') (hnone : w'.object? id = none) :
    w.object? id = none := by
  cases ho : w.object? id with
  | none => rfl
  | some o =>
    obtain ⟨o', ho', -⟩ := h id o ho
    cases hnone.symm.trans ho'

end ProlongedBy

/-- The parts of objects are objects. -/
def Parted (w : World) : Prop :=
  ∀ id cls part, w.Owns id cls part → ∃ o, w.object? part = some o

/-- Only things matter. -/
theorem Parted.of_things (h : w.Parted) (hthings : w'.things = w.things) : w'.Parted := by
  intro id cls part howns
  obtain ⟨o, ho⟩ := h id cls part (howns.congr hthings.symm)
  refine ⟨o, ?_⟩
  unfold object? at ho ⊢
  rwa [hthings]

/-- The next number is not that of an object. -/
theorem object?_size (w : World) : w.object? w.things.size = none := by
  simp [object?]

/-! ### Parts along paths -/

/-- The part that is reached from an object through parts of the classes `path`, if it is there. -/
def partAt? (w : World) : Nat → List ClassPath → Option Nat
  | id, [] => some id
  | id, cls :: path =>
    ((w.object? id).bind (·.parts.get? cls)).bind fun part => w.partAt? part path

/-- What happened to the part that is reached from an object. -/
def historyAt (w : World) (id : Nat) (path : List ClassPath) : List Call :=
  (((w.partAt? id path).bind w.object?).map Object.history).getD []

/-- A path goes on from the first part. -/
theorem partAt?_cons (h : w.Owns id cls part) (path : List ClassPath) :
    w.partAt? id (cls :: path) = w.partAt? part path := by
  rw [partAt?, show (w.object? id).bind (·.parts.get? cls) = some part from h, Option.bind_some]

/-- The history at a path is that of the part at its end. -/
theorem historyAt_of_partAt? (h : w.partAt? id path = some part) (ho : w.object? part = some o) :
    w.historyAt id path = o.history := by
  rw [historyAt, h, Option.bind_some, ho]
  rfl

/-- Nothing happened to what is not there. -/
theorem historyAt_of_none (h : w.object? id = none) (path : List ClassPath) :
    w.historyAt id path = [] := by
  cases path <;> simp [historyAt, partAt?, h]

/-- Parts stay with their objects. -/
theorem ProlongedBy.owns (h : w.ProlongedBy w') (howns : w.Owns id cls part) :
    w'.Owns id cls part := by
  obtain ⟨o, ho, hpart⟩ := Option.bind_eq_some_iff.mp howns
  obtain ⟨o', ho', hgoes⟩ := h id o ho
  exact Option.bind_eq_some_iff.mpr ⟨o', ho', hgoes.parts cls part hpart⟩

/-- A part that is reached is reached later on, too. -/
theorem ProlongedBy.partAt? (h : w.ProlongedBy w') {id part : Nat}
    (hpart : w.partAt? id path = some part) : w'.partAt? id path = some part := by
  induction path generalizing id with
  | nil => exact hpart
  | cons cls path ih =>
    obtain ⟨next, howns, hrest⟩ := Option.bind_eq_some_iff.mp hpart
    rw [partAt?_cons (h.owns howns)]
    exact ih hrest

/-- What happened to a part stays in its history. -/
theorem ProlongedBy.historyAt (h : w.ProlongedBy w') (id : Nat) (path : List ClassPath) :
    w.historyAt id path <+: w'.historyAt id path := by
  cases hpart : w.partAt? id path with
  | none => simp [World.historyAt, hpart]
  | some part =>
    cases ho : w.object? part with
    | none => simp [World.historyAt, hpart, ho]
    | some o =>
      obtain ⟨o', ho', hgoes⟩ := h part o ho
      rw [historyAt_of_partAt? hpart ho, historyAt_of_partAt? (h.partAt? hpart) ho']
      exact hgoes.history

/-! ### Changes of objects -/

/-- New things leave objects alone. -/
theorem prolongedBy_push (w : World) (t : Thing) :
    w.ProlongedBy { w with things := w.things.push t } := fun id o ho => by
  refine ⟨o, object?_eq_some_iff.mpr ?_, .refl o⟩
  have hget := object?_eq_some_iff.mp ho
  have hid : id < w.things.size := (Array.getElem?_eq_some_iff.mp hget).1
  rw [Array.getElem?_push_lt hid, ← hget, Array.getElem?_eq_getElem hid]

/-- An object is changed, and no other. -/
theorem object?_modifyObject (w : World) (id id' : Nat) (f : Object → Object) :
    (w.modifyObject id f).object? id' =
      if id = id' then (w.object? id').map f else w.object? id' := by
  unfold object? modifyObject
  rw [Array.getElem?_modify]
  by_cases h : id = id'
  · simp only [if_pos h]
    rcases w.things[id']? with _ | ⟨_ | _⟩ <;> rfl
  · simp only [if_neg h]

/-- Objects go on if the one that is changed does. -/
theorem prolongedBy_modifyObject {f : Object → Object}
    (h : ∀ o, w.object? id = some o → o.ProlongedBy (f o)) :
    w.ProlongedBy (w.modifyObject id f) := fun id' o ho => by
  rw [object?_modifyObject]
  split
  · next heq =>
    subst heq
    exact ⟨f o, by rw [ho]; rfl, h o ho⟩
  · exact ⟨o, ho, .refl o⟩

end World

/-- Objects go on through effects. -/
theorem Effect.prolongs {c : Container} {ok : Instance → Prop} {s s' : State}
    (h : Effect c ok s s') : s.world.ProlongedBy s'.world := by
  cases h with
  | thing t _ => exact s.world.prolongedBy_push t
  | object id f hgoes _ => exact World.prolongedBy_modifyObject hgoes
  | keep k key i _ _ => exact .of_things (World.things_setAttribute ..)
  | _ => exact .of_things rfl

/-- The parts that objects get are objects. -/
theorem Effect.parted {c : Container} {ok : Instance → Prop} {s s' : State}
    (h : Effect c ok s s') (hs : s.world.Parted) : s'.world.Parted := by
  have hthere : ∀ part, (∃ o, s.world.object? part = some o) →
      ∃ o, s'.world.object? part = some o := fun part ⟨o, ho⟩ =>
    have ⟨o', ho', _⟩ := h.prolongs part o ho
    ⟨o', ho'⟩
  have hsame : s'.world.things = s.world.things → s'.world.Parted := fun heq id cls part howns =>
    hthere part (hs id cls part (howns.congr heq.symm))
  cases h with
  | thing t hbare =>
    intro id cls part howns
    obtain ⟨o, ho, hpart⟩ := Option.bind_eq_some_iff.mp howns
    rcases World.object?_push ho with ho | rfl
    · exact hthere part (hs id cls part (Option.bind_eq_some_iff.mpr ⟨o, ho, hpart⟩))
    · rw [show o.parts = ∅ from hbare] at hpart
      cases hpart
  | object id f _ hnew =>
    intro id' cls part howns
    obtain ⟨o, ho, hpart⟩ := Option.bind_eq_some_iff.mp howns
    rw [State.inWorld, World.object?_modifyObject] at ho
    split at ho
    · obtain ⟨o, ho', rfl⟩ := Option.map_eq_some_iff.mp ho
      rcases hnew o cls part hpart with hpart | hthing
      · exact hthere part (hs id' cls part (Option.bind_eq_some_iff.mpr ⟨o, ho', hpart⟩))
      · exact hthere part hthing
    · exact hthere part (hs id' cls part (Option.bind_eq_some_iff.mpr ⟨o, ho, hpart⟩))
  | keep k key i _ _ => exact hsame (World.things_setAttribute ..)
  | _ => exact hsame rfl

namespace Container

/-- The discipline of letting objects go on, where parts are objects. -/
def prolonging : Discipline where
  Inv s := s.world.Parted
  Step s s' := s.world.ProlongedBy s'.world
  Known _ _ := True
  refl s := .refl s.world
  trans := .trans
  known_step _ h := h

/-- Nothing that a container does keeps objects from going on. -/
theorem admitsAll_prolonging (c : Container) : prolonging.AdmitsAll c where
  fresh _ _ := trivial
  mentioned _ _ := trivial
  effect hs h := ⟨h.parted hs, h.prolongs⟩
  readiness _ _ := Discipline.Ensures.remember fun s hs _ => ⟨hs, .refl s.world⟩
  slots _ _ := Discipline.Ensures.remember fun s hs _ => ⟨hs, .refl s.world⟩
  mark _ _ _ hs := ⟨hs, .of_things rfl⟩

end Container

/-! ### Calls of lifted members -/

namespace World

variable {w : World} {id part : Nat} {path : List ClassPath} {o : Object}

/-- An object has the part that it was asked for, maybe since then. -/
theorem owns_partOf (ho : w.object? id = some o) (cls : ClassPath) :
    (w.partOf id cls).2.Owns id cls (w.partOf id cls).1 := by
  unfold partOf
  split
  · next part hpart => exact hpart
  · obtain ⟨o', ho', -⟩ := w.prolongedBy_push (.object ⟨cls, [], ∅, 0⟩) id o ho
    have ho' : (w.makeObject cls).2.object? id = some o' := ho'
    have hchanged : ((w.makeObject cls).2.modifyObject id fun o =>
        { o with parts := o.parts.insert cls w.things.size }).object? id =
        some { o' with parts := o'.parts.insert cls w.things.size } := by
      rw [object?_modifyObject, if_pos rfl, ho']
      rfl
    exact Option.bind_eq_some_iff.mpr ⟨_, hchanged, Table.get?_insert_self ..⟩

/-- What happened to a part that an object is asked for is in the history of the part. -/
theorem historyAt_partOf (w : World) (id : Nat) (cls : ClassPath) :
    (w.partOf id cls).2.historyAt id [cls] <+:
      (((w.partOf id cls).2.object? (w.partOf id cls).1).map Object.history).getD [] := by
  have hhistory : ∀ {w : World} {part : Nat}, w.Owns id cls part →
      w.historyAt id [cls] = ((w.object? part).map Object.history).getD [] := by
    intro w part howns
    rw [historyAt, partAt?_cons howns, partAt?, Option.bind_some]
  unfold partOf
  split
  · next part hpart => exact hhistory hpart ▸ List.prefix_rfl
  · cases ho : ((w.makeObject cls).2.modifyObject id fun o =>
        { o with parts := o.parts.insert cls w.things.size }).object? id with
    | none => exact (historyAt_of_none ho [cls]).symm ▸ List.nil_prefix
    | some o =>
      have howns : ((w.makeObject cls).2.modifyObject id fun o =>
          { o with parts := o.parts.insert cls w.things.size }).Owns id cls w.things.size := by
        refine Option.bind_eq_some_iff.mpr ⟨o, ho, ?_⟩
        rw [object?_modifyObject, if_pos rfl] at ho
        obtain ⟨o', -, rfl⟩ := Option.map_eq_some_iff.mp ho
        exact Table.get?_insert_self ..
      exact hhistory howns ▸ List.prefix_rfl

/-- A call of a part is told of the object. -/
theorem historyAt_record (hpart : w.partAt? id path = some part) (ho : w.object? part = some o)
    (call : Call) : (w.record part call).historyAt id path = w.historyAt id path ++ [call] := by
  have hgoes : w.ProlongedBy (w.record part call) :=
    prolongedBy_modifyObject fun o _ => o.prolongedBy_record call
  have ho' : (w.record part call).object? part =
      some { o with history := o.history ++ [call] } := by
    rw [record, object?_modifyObject, if_pos rfl, ho]
    rfl
  rw [historyAt_of_partAt? hpart ho, historyAt_of_partAt? (hgoes.partAt? hpart) ho']

end World

namespace Container

variable {s : State}

/-- Objects go on as a part is looked for. -/
theorem moves_partOf (c : Container) (hs : s.world.Parted) (id : Nat) (cls : ClassPath) :
    prolonging.Moves s (s.inWorld (s.world.partOf id cls).2) :=
  c.admitsAll_prolonging.toAdmits.changes hs (c.changes_partOf s id cls)

/-- So they do as a path is followed. -/
theorem moves_partAlong (c : Container) (hs : s.world.Parted) (id : Nat) (path : List ClassPath) :
    prolonging.Moves s (s.inWorld (s.world.partAlong id path).2) :=
  c.admitsAll_prolonging.toAdmits.changes hs (c.changes_partAlong s id path)

/-- The part of an object that a lifted member acts on is reached from the object. -/
theorem reaches_partAlong (c : Container) (hs : s.world.Parted) {id : Nat} {o : Object}
    (ho : s.world.object? id = some o) (path : List ClassPath) :
    (s.world.partAlong id path).2.partAt? id path = some (s.world.partAlong id path).1 ∧
      ∃ o', (s.world.partAlong id path).2.object? (s.world.partAlong id path).1 = some o' := by
  induction path generalizing s id o with
  | nil => exact ⟨rfl, o, ho⟩
  | cons cls path ih =>
    have hmoves := c.moves_partOf hs id cls
    have howns := World.owns_partOf ho cls
    obtain ⟨part, hpart⟩ := hmoves.1 id cls _ howns
    obtain ⟨hreached, hthere⟩ := ih hmoves.1 hpart
    have hrest := c.moves_partAlong hmoves.1 (s.world.partOf id cls).1 path
    exact ⟨(World.partAt?_cons (hrest.2.owns howns) path).trans hreached, hthere⟩

end Container

end Wiring
