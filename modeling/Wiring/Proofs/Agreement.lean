import Wiring.Proofs.Availability
import Wiring.Proofs.Effects
import Wiring.Proofs.Likeness

/-!
# Containers That Agree

Two containers agree on some dependencies if they have the same binding for each of them, or none,
and read the same classes. Then they do the same as long as they are asked for no other dependency,
from states that correspond.

Containers need not look at classes at the same time, for one may have kept a catalog that the
other has yet to build. A correspondence of states that does not mind is called oblivious: it is
kept if one of the two looks at classes, which changes nothing but the kept catalogs and adds
nothing but asides to the journal.

## Main statements

* `SameOutcome`: two computations come to the same end.
* `Oblivious`: a correspondence of states that is kept when one side looks at classes.
* `Oblivious.catalog`, `Oblivious.firstUnavailable`: looking at classes on both sides.
* `Container.AgreeOn`: containers that agree on some dependencies.
* `Container.LooksAlike`: containers that find the same when they look at classes.
* `Container.AgreeOn.inStepOn`: what such containers do along the way.
* `Container.AgreeOn.available`: the same dependencies are available in them.
-/

open Relation

namespace Wiring

/-- Two computations come to the same end: to none, or to the same result in states that
correspond. -/
def SameOutcome {α : Type} (R : State → State → Prop)
    (x y : Option (Except ConfigurationError α × State)) : Prop :=
  (∀ r s', x = some (r, s') → ∃ t', y = some (r, t') ∧ R s' t') ∧ (x = none → y = none)

/-- Runs in lockstep come to the same end. -/
theorem Follows.sameOutcome {α : Type} {R : State → State → Prop} {x y : Run α}
    (h : Follows True R x y) {s t : State} (hR : R s t) : SameOutcome R (x s) (y t) :=
  ⟨fun _ _ hx => h.eq_some hR hx, h.eq_none hR⟩

/-- Whether an event tells of more than looking at classes and writing to the log. -/
def Event.isTelling (e : Event) : Bool := !e.isAside

/-! ### Looking at classes leaves no trace -/

/-- The discipline of leaving everything as it is but for the catalogs, and for what is not of
interest in the journal. -/
def leaving (p : Event → Bool) : Discipline where
  Inv _ := True
  Step s s' := s'.memory = { s.memory with catalogs := s'.memory.catalogs } ∧
    World.Alike p s.world s'.world
  Known _ _ := True
  refl s := ⟨rfl, rfl, rfl⟩
  trans := by
    rintro s t u ⟨hm, hw⟩ ⟨hm', hw'⟩
    exact ⟨by rw [hm', hm], hw.core.trans hw'.core, hw.journal.trans hw'.journal⟩
  known_step _ h := h

/-- If less is of interest, then less is left as it is. -/
theorem leaving_mono {p q : Event → Bool} (hpq : ∀ e, q e = true → p e = true) {s s' : State}
    (h : (leaving p).Step s s') : (leaving q).Step s s' := by
  refine ⟨h.1, h.2.core, ?_⟩
  have hfilter : ∀ es : List Event, es.filter q = (es.filter p).filter q := fun es => by
    rw [List.filter_filter]
    refine List.filter_congr fun e _ => ?_
    cases hq : q e
    · rfl
    · rw [hpq e hq]
      rfl
  rw [hfilter, h.2.journal, ← hfilter]

/-- Entering what is not of interest. -/
theorem leaving_emit {p : Event → Bool} {e : Event} (he : p e = false) (s : State) :
    (leaving p).Moves s (s.inWorld (s.world.emit e)) := by
  refine ⟨trivial, rfl, rfl, ?_⟩
  simp [State.inWorld, World.emit, he]

/-- The discipline of leaving everything but the catalogs and asides in the journal as it is. -/
abbrev quiet : Discipline := leaving Event.isTelling

/-- Looks at classes are quiet. -/
theorem admitsLooks_quiet (c : Container) : quiet.AdmitsLooks c where
  emit {s} _ e he _ := leaving_emit (by rw [Event.isTelling, he]; rfl) s
  keep _ _ _ _ _ := ⟨trivial, rfl, rfl, rfl⟩

/-- The discipline of leaving everything as it is but for the catalogs and the entries about them in
the journal. -/
abbrev reading : Discipline := leaving (!Event.isReading ·)

/-- Looks at classes are readings. -/
theorem admitsReading_reading (c : Container) : reading.AdmitsReading c where
  read {s} _ e he := leaving_emit (by rw [he]; rfl) s
  keep _ _ _ _ _ := ⟨trivial, rfl, rfl, rfl⟩

/-- Who only reads about classes is quiet. -/
theorem quiet_of_reading {s s' : State} (h : reading.Step s s') : quiet.Step s s' := by
  refine leaving_mono (fun e he => ?_) h
  cases hread : e.isReading with
  | false => rfl
  | true =>
    rw [Event.isTelling, (Event.aside_of_isReading hread).1] at he
    cases he

/-- A correspondence of states of two containers that is kept when one of them looks at classes. -/
structure Oblivious (c c' : Container) (R : State → State → Prop) : Prop where
  /-- The first container keeps catalogs of its classes. -/
  faithful : ∀ {s t : State}, R s t → s.Faithful c
  /-- So does the second. -/
  faithful' : ∀ {s t : State}, R s t → t.Faithful c'
  /-- The first may look at classes. -/
  left : ∀ {s s' t : State}, R s t → reading.Step s s' → s'.Faithful c → R s' t
  /-- So may the second. -/
  right : ∀ {s t t' : State}, R s t → reading.Step t t' → t'.Faithful c' → R s t'

namespace Oblivious

variable {c c' : Container} {R : State → State → Prop} {lockstep : Prop} (h : Oblivious c c' R)
include h

/-- Both containers answer alike whether a dependency can be resolved. -/
theorem canResolve {d : Dependency} (hd : c.isAvailable d = c'.isAvailable d) :
    Follows lockstep R (c.canResolve d) (c'.canResolve d) := by
  refine Follows.note fun s t hR => ⟨?_, ?_⟩
  · have hs : (c.available d s.notebook).1 = _ := c.available_fst d (h.faithful hR)
    have ht : (c'.available d t.notebook).1 = _ := c'.available_fst d (h.faithful' hR)
    rw [hs, ht, hd]
  · have hs := (admitsReading_reading c).availableWithin (s := s) trivial c.classes.size [] d
    have ht := (admitsReading_reading c').availableWithin (s := t) trivial c'.classes.size [] d
    refine h.right (h.left hR hs.2 ?_) ht.2 ?_
    · exact c.faithful_availableWithin _ _ d (h.faithful hR)
    · exact c'.faithful_availableWithin _ _ d (h.faithful' hR)

/-- Both containers find the first of some dependencies that is not available. -/
theorem firstUnavailable {ds : List Dependency}
    (hds : ∀ d ∈ ds, c.isAvailable d = c'.isAvailable d) :
    Follows lockstep R (c.firstUnavailable ds) (c'.firstUnavailable ds) := by
  intro s t hR
  obtain ⟨nb, hnb, hs⟩ := c.firstUnavailable_eq ds (h.faithful hR)
  obtain ⟨nb', hnb', ht⟩ := c'.firstUnavailable_eq ds (h.faithful' hR)
  have hsame : ds.find? (!c.isAvailable ·) = ds.find? (!c'.isAvailable ·) := by
    rw [← List.head?_filter, ← List.head?_filter,
      List.filter_congr fun d hd => congrArg (!·) (hds d hd)]
  have hreading := (admitsReading_reading c).firstUnavailable ds s trivial trivial _ _ hs
  have hreading' := (admitsReading_reading c').firstUnavailable ds t trivial trivial _ _ ht
  rw [hs]
  exact ⟨_, by rw [ht, hsame], h.right (h.left hR hreading.2.1 hnb) hreading'.2.1 hnb'⟩

/-- Both containers find catalogs of a class that go together, or the same error. -/
theorem catalog {f : Catalog → Catalog} {cls : ClassPath}
    (hcls : c'.classes.catalog cls = (c.classes.catalog cls).map f) :
    FollowsUpTo (fun cat cat' => c.classes.catalog cls = .ok cat ∧ cat' = f cat) lockstep R
      (c.catalog cls) (c'.catalog cls) := by
  intro s t hR
  have hs := catalogOf_fst c.classes cls s.notebook
  have ht := catalogOf_fst c'.classes cls t.notebook
  rw [(h.faithful hR).look_eq] at hs
  rw [(h.faithful' hR).look_eq, hcls] at ht
  have hR' : R (s.withNotebook (catalogOf c.classes cls s.notebook).2)
      (t.withNotebook (catalogOf c'.classes cls t.notebook).2) := by
    refine h.right (h.left hR ((admitsReading_reading c).catalogOf (s := s) trivial cls).2 ?_)
      ((admitsReading_reading c').catalogOf (s := t) trivial cls).2 ?_
    · exact Notebook.Faithful.catalogOf (h.faithful hR) cls
    · exact Notebook.Faithful.catalogOf (h.faithful' hR) cls
  simp only [Container.catalog, Run.bind_eq, Run.note]
  cases hcat : c.classes.catalog cls with
  | error e =>
    rw [hcat] at hs ht
    rw [hs, ht]
    exact ⟨_, rfl, hR'⟩
  | ok cat =>
    rw [hcat] at hs ht
    rw [hs, ht]
    exact ⟨_, _, rfl, ⟨rfl, rfl⟩, hR'⟩

end Oblivious

/-! ### Agreement -/

namespace Container

/-- What a constructor requires is something that the construction may ask for. -/
theorem leads_of_requires {c : Container} {d e : Dependency}
    (h : c.Requires c.classes.catalog d e) : c.Leads d e := by
  obtain ⟨cls, cat, m, hc, he⟩ := h
  refine leads_of_class (Registry.lookup_of_contains hc.unbound) hc.allowed ?_
  rw [Catalog.requirements, List.mem_append, List.mem_flatMap] at he
  rcases he with he | ⟨p, hp, he⟩
  · exact .inr ⟨cat, m, hc.catalog, hc.constructor, he⟩
  · exact .inl ⟨cat, hc.catalog, p, (List.mem_filter.mp hp).1, he⟩

/-- Two containers have the same bindings for the dependencies in a set that leads nowhere else,
allow the same classes, and read the same ones. -/
structure AgreeOn (D : Dependency → Prop) (c c' : Container) : Prop where
  /-- Both construct classes just in time, or none does. -/
  jit : c.config.jitBindings = c'.config.jitBindings
  /-- Both read the same classes. -/
  classes : c.classes = c'.classes
  /-- The same bindings are in force. -/
  binding : ∀ d, D d → c.registry.lookup d.key = c'.registry.lookup d.key
  /-- What a dependency in the set leads to is in the set. -/
  closed : ∀ d e, D d → c.Leads d e → D e

/-- From states that correspond, two containers find the same when they look at classes: the same
of some dependencies is the first that is not available, as long as these are in a set, and each
class has the same catalog, the one of the class table. -/
structure LooksAlike (D : Dependency → Prop) (lockstep : Prop) (R : State → State → Prop)
    (c c' : Container) : Prop where
  /-- The same is not available. -/
  firstUnavailable : ∀ {ds : List Dependency}, (∀ d ∈ ds, D d) →
    Follows lockstep R (c.firstUnavailable ds) (c'.firstUnavailable ds)
  /-- The same catalogs are found. -/
  catalog : ∀ cls, FollowsUpTo (fun cat cat' => c.classes.catalog cls = .ok cat ∧ cat' = cat)
    lockstep R (c.catalog cls) (c'.catalog cls)

/-- What is found for a set is found for each that it contains. -/
theorem LooksAlike.mono {D E : Dependency → Prop} {lockstep : Prop} {R : State → State → Prop}
    {c c' : Container} (h : LooksAlike D lockstep R c c') (hED : ∀ d, E d → D d) :
    LooksAlike E lockstep R c c' where
  firstUnavailable hds := h.firstUnavailable fun d hd => hED d (hds d hd)
  catalog := h.catalog

namespace AgreeOn

variable {D : Dependency → Prop} {c c' : Container} {d e : Dependency} {lockstep : Prop}
  {R : State → State → Prop} {self self' : Dependency → Run Instance} (h : AgreeOn D c c')
include h

/-- Containers that agree construct the same classes just in time. -/
theorem justInTime (d : Dependency) : c.justInTime d = c'.justInTime d := by
  unfold Container.justInTime
  rw [h.jit]

/-- They contain the same keys. -/
theorem contains (hd : D d) : c'.registry.contains d.key = c.registry.contains d.key := by
  rw [Registry.contains_eq_isSome_lookup, Registry.contains_eq_isSome_lookup, h.binding d hd]

/-- The dependencies in the set lead to the same in both containers. -/
theorem leads_iff (hd : D d) : c'.Leads d e ↔ c.Leads d e := by
  have hneeds : ∀ source, c.SourceNeeds source e ↔ c'.SourceNeeds source e := fun source => by
    cases source <;>
      simp only [SourceNeeds, ConstructionNeeds, InjectionNeeds, h.classes]
  unfold Leads
  rw [← h.binding d hd, ← h.justInTime d]
  cases c.registry.lookup d.key with
  | some b => exact (hneeds b.source).symm
  | none => simp only [ConstructionNeeds, InjectionNeeds, h.classes]

/-- What is reached in the other container is reached in the same way, and is in the set. -/
theorem reaches (hd : D d) (hde : ReflTransGen c'.Leads d e) :
    ReflTransGen c.Leads d e ∧ D e := by
  induction hde with
  | refl => exact ⟨.refl, hd⟩
  | tail _ hef ih =>
    have hleads := (h.leads_iff ih.2).mp hef
    exact ⟨ih.1.tail hleads, h.closed _ _ ih.2 hleads⟩

theorem symm : AgreeOn D c' c :=
  ⟨h.jit.symm, h.classes.symm, fun d hd => (h.binding d hd).symm, fun d e hd hde =>
    h.closed d e hd ((h.leads_iff hd).mp hde)⟩

/-- What is missing for a dependency in one container is missing in the other. -/
theorem lacks {n : Nat} (hd : D d) (hlacks : c.Lacks c.classes.catalog n d) :
    c'.Lacks c'.classes.catalog n d := by
  induction hlacks with
  | here hdead =>
    obtain ⟨hunbound, hclass⟩ := hdead
    refine .here ⟨(h.contains hd).trans hunbound, ?_⟩
    rwa [← h.justInTime, ← h.classes]
  | there hde _ ih =>
    refine .there ?_ (ih (h.closed _ _ hd (leads_of_requires hde)))
    obtain ⟨cls, cat, m, hc, he⟩ := hde
    rw [← h.classes]
    exact ⟨cls, cat, m, ⟨(h.contains hd).trans hc.unbound, (h.justInTime _).symm.trans hc.allowed,
      hc.catalog, hc.constructor⟩, he⟩

/-- The same dependencies are available. -/
theorem available (hd : D d) : c.isAvailable d = c'.isAvailable d := by
  rw [Bool.eq_iff_iff, ← not_iff_not, Bool.not_eq_true, Bool.not_eq_true,
    isAvailable_eq_false_iff, isAvailable_eq_false_iff]
  exact ⟨fun ⟨n, hn⟩ => ⟨n, h.lacks hd hn⟩, fun ⟨n, hn⟩ => ⟨n, h.symm.lacks hd hn⟩⟩

/-- They reach the same. -/
theorem reach (hd : D d) :
    (c.registry.contains d.key || (c.justInTime d).isSome) =
      (c'.registry.contains d.key || (c'.justInTime d).isSome) := by
  rw [h.contains hd, h.justInTime d]

/-- A correspondence of states that does not mind looks at classes finds the same on both sides. -/
theorem looksAlike (hlook : Oblivious c c' R) : LooksAlike D lockstep R c c' where
  firstUnavailable hds := hlook.firstUnavailable fun d hd => h.available (hds d hd)
  catalog cls := by
    refine hlook.catalog (f := id) ?_
    rw [h.classes, Except.map_id]
    rfl

/-- A member gets the same arguments on both sides, or is skipped on both. -/
theorem argumentsFor (hlike : Likeness R) (hlook : LooksAlike D lockstep R c c')
    (hself : ∀ d, D d → Follows lockstep R (self d) (self' d)) (member : String)
    {ds : List Dependency} (hds : ∀ d ∈ ds, D d) (optional : Bool) :
    Follows lockstep R (c.argumentsFor self member ds optional)
      (c'.argumentsFor self' member ds optional) := by
  have hrequired : Follows lockstep R (c.argumentsFor self member ds false)
      (c'.argumentsFor self' member ds false) := by
    rw [argumentsFor_required, argumentsFor_required]
    refine (Follows.collect fun d hd => ?_).bind fun values => Follows.succeed (some values)
    exact Likeness.resolveRequired (h.reach (hds d hd)) (hself d (hds d hd)) member
  cases optional with
  | false => exact hrequired
  | true =>
    rw [argumentsFor_optional, argumentsFor_optional]
    refine (hlook.firstUnavailable hds).bind fun d => ?_
    cases d with
    | none => exact hrequired
    | some d => exact (hlike.log _).bind fun _ => Follows.succeed none

/-- Containers that agree on some dependencies do the same as long as they are asked for these
only. -/
theorem inStepOn (hlike : Likeness R) (hlook : LooksAlike D lockstep R c c')
    {K : Key → Prop} (hshares : ∀ key, K key → Wiring.Shares R key)
    (hself : ∀ d, D d → Follows lockstep R (self d) (self' d)) :
    InStepOn ⟨D, K⟩ lockstep R c c' self self' where
  like := hlike
  shares := hshares
  along := hself
  reach _ := h.reach
  supply cls := by rw [h.classes]
  catalog cls := by
    intro s t hR
    have hcat := hlook.catalog cls s t hR
    revert hcat
    rcases c.catalog cls s with _ | ⟨_ | cat, s'⟩
    · exact id
    · exact id
    · rintro ⟨_, t', ht, ⟨hcat, rfl⟩, hR'⟩
      refine ⟨_, t', ht, ⟨rfl, rfl, fun hasks m hm d hd => ?_, fun hasks target id => ?_,
        fun hasks => ?_⟩, hR'⟩
      · exact hasks d (.inr ⟨_, m, hcat, hm, hd⟩)
      · refine Follows.each fun m hm => hlike.injectPoint rfl ?_ target id
        exact h.argumentsFor hlike hlook hself _ (fun d hd => hasks d ⟨_, hcat, m, hm, hd⟩) _
      · refine Follows.each fun m hm => hlike.injectStaticPoint rfl ?_
        exact h.argumentsFor hlike hlook hself _ (fun d hd => hasks d ⟨_, hcat, m, hm, hd⟩) _

/-- Within each depth, such containers resolve each of the dependencies to the same. -/
theorem resolveWithin (hlike : Likeness R) (hlook : Oblivious c c' R)
    (hshares : ∀ d, D d → Wiring.Shares R d.key) (hd : D d) (n : Nat) :
    Follows lockstep R (c.resolveWithin n d) (c'.resolveWithin n d) := by
  induction n generalizing d with
  | zero => exact Follows.stuck
  | succ n ih =>
    have hstep := h.inStepOn hlike (h.looksAlike hlook) (K := (· = d.key))
      (by rintro _ rfl; exact hshares d hd) fun e he => ih he
    exact hstep.resolveStep (h.binding d hd) (h.justInTime d) (fun _ => rfl)
      fun e he => h.closed d e hd he

end AgreeOn

end Container

end Wiring
