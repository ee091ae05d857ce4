import Wiring.Proofs.Availability
import Wiring.Proofs.Catalogs
import Wiring.Proofs.Likeness

/-!
# Runs That Are Sure to Succeed

When everything that a construction relies on works, the construction works. What it relies on is
stated in `Container.Dependable`: bound keys resolve, catalogs can be built, members accept
arguments of the types that they declare, and nothing depends on itself. Then whatever is
available can be resolved.

## Conventions

How deep a resolution of a bound key goes is not known beforehand, and may differ from state to
state. `Depths` says how deep it may go: to any depth, or up to a given one. A construction goes
deeper than the bound keys that it relies on by at most the number of declared classes, as no
class comes twice on a chain of constructions.

The states from which bound keys resolve are given by a predicate. It must not depend on what
constructions change: the things, the number of wrapped values, the journal and the catalogs.

## Main statements

* `Delivers`: a run succeeds at all depths that are great enough.
* `Container.MayNeed`, `Container.Dependable`: what constructions rely on.
* `delivers_construct`: the construction of an object.
* `delivers_resolveWithin`: the resolution of what is available.
-/

open Relation

namespace Wiring

/-- Depths that may be used up: with two depths, the greater one may be used up too. -/
structure Depths where
  /-- Whether a depth may be used up. -/
  allows : Nat → Prop
  /-- Some depth may be used up. -/
  zero : allows 0
  /-- The greater of two depths may be used up. -/
  max : ∀ {m n}, allows m → allows n → allows (Nat.max m n)

/-- Any depth may be used up. -/
def Depths.any : Depths := ⟨fun _ => True, trivial, fun _ _ => trivial⟩

/-- Depths up to `bound` may be used up. -/
def Depths.upTo (bound : Nat) : Depths :=
  ⟨(· ≤ bound), Nat.zero_le _, fun h h' => Nat.max_le.mpr ⟨h, h'⟩⟩

/-- A run that depends on a depth succeeds at all depths from an allowed one on, from states of
which `P` holds, comes to a result of which `V` holds and leaves `P` true. -/
def Delivers {α : Type} (depths : Depths) (P : State → Prop) (x : Nat → Run α) (V : α → Prop) :
    Prop :=
  ∀ s, P s → ∃ n a s', depths.allows n ∧ (∀ m, n ≤ m → x m s = some (.ok a, s')) ∧ P s' ∧ V a

namespace Delivers

variable {α β : Type} {depths : Depths} {P : State → Prop} {V : α → Prop} {W : β → Prop}

/-- A run that does not depend on the depth. -/
theorem const {x : Run α}
    (h : ∀ s, P s → ∃ a s', x s = some (.ok a, s') ∧ P s' ∧ V a) :
    Delivers depths P (fun _ => x) V := by
  intro s hs
  obtain ⟨a, s', hx, hs', ha⟩ := h s hs
  exact ⟨0, a, s', depths.zero, fun _ _ => hx, hs', ha⟩

/-- A run that succeeds at once delivers. -/
theorem succeed {a : α} (ha : V a) : Delivers depths P (fun _ => Run.succeed a) V :=
  const fun s hs => ⟨a, s, rfl, hs, ha⟩

/-- A run that goes on with what was delivered delivers. -/
theorem bind {x : Nat → Run α} {f : Nat → α → Run β} (hx : Delivers depths P x V)
    (hf : ∀ a, V a → Delivers depths P (fun n => f n a) W) :
    Delivers depths P (fun n => x n >>= f n) W := by
  intro s hs
  obtain ⟨n, a, s', hn, hxs, hs', ha⟩ := hx s hs
  obtain ⟨m, b, s'', hm, hfs, hs'', hb⟩ := hf a ha s' hs'
  refine ⟨Nat.max n m, b, s'', depths.max hn hm, fun k hk => ?_, hs'', hb⟩
  have hnk : n ≤ k := Nat.le_trans (Nat.le_max_left n m) hk
  have hmk : m ≤ k := Nat.le_trans (Nat.le_max_right n m) hk
  change (x k >>= f k) s = _
  rw [Run.bind_eq, hxs k hnk]
  exact hfs k hmk

/-- What is told of a run does not matter. -/
theorem noting {x : Nat → Run α} {f : Except ConfigurationError α → Event}
    (hx : Delivers depths P x V) (hP : ∀ e s, P s → P (s.inWorld (s.world.emit e))) :
    Delivers depths P (fun n => (x n).noting f) V := by
  intro s hs
  obtain ⟨n, a, s', hn, hxs, hs', ha⟩ := hx s hs
  refine ⟨n, a, _, hn, fun m hm => ?_, hP (f (.ok a)) s' hs', ha⟩
  change (x m s).map _ = _
  rw [hxs m hm]
  rfl

/-- Doing something for each element delivers if each step does. -/
theorem each {f : Nat → α → Run Unit} {as : List α}
    (h : ∀ a ∈ as, Delivers depths P (fun n => f n a) fun _ => True) :
    Delivers depths P (fun n => Run.each (f n) as) fun _ => True := by
  induction as with
  | nil => exact succeed trivial
  | cons a as ih => exact bind (h a (by simp)) fun _ _ => ih fun b hb => h b (by simp [hb])

/-- What is collected is of the expected types. -/
theorem collect {γ : Type} {f : Nat → α → Run β} {as : List α} {tyOf : β → γ} {expected : α → γ}
    (h : ∀ a ∈ as, Delivers depths P (fun n => f n a) fun b => tyOf b = expected a) :
    Delivers depths P (fun n => Run.collect (f n) as)
      fun bs => bs.map tyOf = as.map expected := by
  induction as with
  | nil => exact succeed rfl
  | cons a as ih =>
    refine bind (h a (by simp)) fun b hb => ?_
    refine bind (ih fun a' ha' => h a' (by simp [ha'])) fun bs hbs => ?_
    refine succeed ?_
    rw [List.map_cons, List.map_cons, hb, hbs]

end Delivers

/-! ### What constructions change -/

/-- The worlds differ at most in the things, the number of wrapped values and the journal. -/
def World.SameScopes (w v : World) : Prop :=
  v = { w with things := v.things, wrapped := v.wrapped, journal := v.journal }

theorem World.SameScopes.trans {w v u : World} (h : w.SameScopes v) (h' : v.SameScopes u) :
    w.SameScopes u := by
  unfold SameScopes at *
  rw [h'] at ⊢
  rw [h]

/-- Parts are made without a change of anything but things and the journal. -/
theorem World.sameScopes_partAlong (w : World) (id : Nat) (path : List ClassPath) :
    w.SameScopes (w.partAlong id path).2 := by
  induction path generalizing w id with
  | nil => rfl
  | cons cls path ih =>
    have hpart : w.SameScopes (w.partOf id cls).2 := by
      unfold World.partOf
      split <;> rfl
    exact hpart.trans (ih _ _)

/-- The states differ at most in what constructions change. -/
structure State.SameStores (s t : State) : Prop where
  /-- The memories differ at most in the catalogs. -/
  memory : t.memory = { s.memory with catalogs := t.memory.catalogs }
  /-- The worlds differ at most in the things, the number of wrapped values and the journal. -/
  world : s.world.SameScopes t.world

/-- A predicate does not depend on what constructions change. -/
def State.Robust (P : State → Prop) : Prop := ∀ s t : State, s.SameStores t → P s → P t

namespace Container

/-- A predicate holds, and only catalogs of the class table are kept. -/
def Settled (c : Container) (P : State → Prop) (s : State) : Prop := P s ∧ s.Faithful c

variable {c : Container} {P : State → Prop} {depths : Depths}

section

variable (hP : State.Robust P)
include hP

/-- A state stays settled if scopes stay the same. -/
theorem Settled.inWorld {s : State} (hs : c.Settled P s) {w : World}
    (hw : s.world.SameScopes w) : c.Settled P (s.inWorld w) :=
  ⟨hP s _ ⟨rfl, hw⟩ hs.1, hs.2⟩

/-- Changes that leave scopes alone deliver. -/
theorem delivers_change {f : World → World} (hf : ∀ w : World, w.SameScopes (f w)) :
    Delivers depths (c.Settled P) (fun _ => .change f) fun _ => True :=
  Delivers.const fun s hs => ⟨(), _, rfl, hs.inWorld hP (hf s.world), trivial⟩

/-- So does what is done to the world besides. -/
theorem delivers_act {α : Type} {f : World → α × World} {V : α → Prop}
    (hf : ∀ w : World, w.SameScopes (f w).2) (hV : ∀ w, V (f w).1) :
    Delivers depths (c.Settled P) (fun _ => .act f) V :=
  Delivers.const fun s hs => ⟨(f s.world).1, _, rfl, hs.inWorld hP (hf s.world), hV s.world⟩

/-- So do notices. -/
theorem delivers_log (n : Notice) :
    Delivers depths (c.Settled P) (fun _ => .log n) fun _ => True :=
  delivers_change hP fun _ => rfl

/-- A class with a catalog has it at hand. -/
theorem delivers_catalog {cls : ClassPath} {cat : Catalog}
    (hcat : c.classes.catalog cls = .ok cat) :
    Delivers depths (c.Settled P) (fun _ => c.catalog cls) (· = cat) := by
  refine Delivers.const fun s hs => ?_
  have hfst := catalogOf_fst c.classes cls s.notebook
  have hfaithful := Notebook.Faithful.catalogOf hs.2 cls
  rw [Notebook.Faithful.look_eq hs.2, hcat] at hfst
  refine ⟨cat, s.withNotebook (catalogOf c.classes cls s.notebook).2, ?_, ⟨?_, hfaithful⟩, rfl⟩
  · simp only [catalog, Run.bind_eq, Run.note, hfst]
    rfl
  · exact hP s _ ⟨rfl, rfl⟩ hs.1

/-- The check of several dependencies finds the first that is not available. -/
theorem delivers_firstUnavailable (ds : List Dependency) :
    Delivers depths (c.Settled P) (fun _ => c.firstUnavailable ds)
      (· = ds.find? (!c.isAvailable ·)) := by
  refine Delivers.const fun s hs => ?_
  obtain ⟨nb, hnb, heq⟩ := c.firstUnavailable_eq ds hs.2
  exact ⟨_, _, heq, ⟨hP s _ ⟨rfl, rfl⟩ hs.1, hnb⟩, rfl⟩

/-! ### Members -/

/-- A member that does not fail is called. -/
theorem delivers_attemptCall {m : Member} {arguments : Arguments}
    (hm : (m.action arguments).error = none) :
    Delivers depths (c.Settled P) (fun _ => attemptCall m arguments) fun _ => True := by
  unfold attemptCall
  dsimp only
  rw [hm]
  refine Delivers.bind (V := fun _ => True) (Delivers.const fun s hs => ⟨_, s, rfl, hs, trivial⟩)
    fun call _ => ?_
  exact Delivers.bind (delivers_change hP fun _ => rfl) fun _ _ => Delivers.succeed trivial

/-- A member that does not fail is run. -/
theorem delivers_runMember {m : Member} {arguments : Arguments}
    (hm : (m.action arguments).error = none) (cls : ClassPath) (path : List ClassPath) (id : Nat) :
    Delivers depths (c.Settled P) (fun _ => runMember cls m path cls id arguments)
      fun _ => True := by
  rw [runMember_self]
  refine Delivers.bind (V := fun _ => True)
    (delivers_act hP (fun w => w.sameScopes_partAlong id path) fun _ => trivial) fun part _ => ?_
  refine Delivers.bind (delivers_attemptCall hP hm) fun call _ => ?_
  refine Delivers.bind (delivers_change hP fun _ => rfl) fun _ _ => ?_
  exact delivers_change hP fun _ => rfl

/-! ### Objects -/

omit hP in
/-- A constructor that is there is found. -/
theorem delivers_constructorOf {cat : Catalog} {m : Member} (hm : cat.constructor = some m) :
    Delivers depths (c.Settled P) (fun _ => constructorOf cat) (· = m) := by
  unfold constructorOf
  rw [hm]
  exact Delivers.succeed rfl

/-- A constructor that does not fail is run. -/
theorem delivers_runConstructor {m : Member} {arguments : Arguments}
    (hm : (m.action arguments).error = none) (cls : ClassPath) :
    Delivers depths (c.Settled P) (fun _ => runConstructor cls m arguments) fun _ => True := by
  unfold runConstructor
  refine Delivers.bind (delivers_attemptCall hP hm) fun call _ => ?_
  refine Delivers.bind (V := fun _ => True) (delivers_act hP (fun _ => rfl) fun _ => trivial)
    fun id _ => ?_
  exact Delivers.bind (delivers_change hP fun _ => rfl) fun _ _ => Delivers.succeed trivial

end

end Container

/-! ### What constructions rely on -/

/-- A member does not fail when its arguments are of the types that it declares. -/
def Member.Accepts (m : Member) : Prop :=
  ∀ (name : String) (values : List Instance),
    values.map Instance.ty = m.dependencies.map (fun d : Dependency => d.key.ty) →
      (m.action (.ofList name values)).error = none

/-- Arguments can be read in their own types. -/
theorem Arguments.readAll_error (a : Arguments) :
    (a.readAll (a.rest.map Instance.ty)).error = none := by
  obtain ⟨member, rest, taken⟩ := a
  induction rest generalizing taken with
  | nil => rfl
  | cons i rest ih =>
    rw [List.map_cons, Arguments.readAll_cons]
    simp only [Arguments.next, Instance.cast_self]
    exact ih (taken + 1)

/-- A member that reads its arguments in the types that it declares accepts them. -/
theorem Member.accepts_of_reading {m : Member}
    (h : m.action = .reading (m.dependencies.map fun d : Dependency => d.key.ty) none) :
    m.Accepts := by
  intro name values hvalues
  have hread := (Arguments.ofList name values).readAll_error
  rw [show (Arguments.ofList name values).rest = values from rfl, hvalues] at hread
  rw [h, Action.reading, Option.or_none]
  exact hread

/-- All that an object of a class may be given: by its constructor, and by its members whether they
are required or optional. -/
def Catalog.needs (cat : Catalog) (m : Member) : List Dependency :=
  m.dependencies ++ cat.instancePoints.flatMap Member.dependencies

namespace Container

variable (c : Container)

/-- An object is to be constructed for `d`, and may be given an instance for `e`. -/
def MayNeed (d e : Dependency) : Prop :=
  ∃ cls cat m, c.Constructs c.classes.catalog d cls cat m ∧ e ∈ cat.needs m

/-- Everything that the construction of an object for `d` may rely on works, from states of which
`P` holds and where bound keys may use up `depths`. -/
structure Dependable (P : State → Prop) (depths : Depths) (d : Dependency) : Prop where
  /-- Nothing depends on itself. -/
  acyclic : ∀ e, ReflTransGen c.MayNeed d e → ¬ TransGen c.MayNeed e e
  /-- Bound keys resolve to values of their types. -/
  bound : ∀ e, ReflTransGen c.MayNeed d e → c.registry.contains e.key = true → ∀ s, P s →
    ∃ n i s', depths.allows n ∧ c.resolveWithin n e s = some (.ok i, s') ∧
      i.ty = e.key.ty ∧ P s'
  /-- Classes to be constructed have catalogs. -/
  builds : ∀ e cls, ReflTransGen c.MayNeed d e → c.registry.contains e.key = false →
    c.justInTime e = some cls → ∃ cat, c.classes.catalog cls = .ok cat
  /-- Constructors and members accept what they declare. -/
  accepts : ∀ e cls cat m, ReflTransGen c.MayNeed d e →
    c.Constructs c.classes.catalog e cls cat m →
      m.Accepts ∧ ∀ p ∈ cat.instancePoints, p.Accepts
  /-- The states are not told apart by what constructions change. -/
  robust : State.Robust P

variable {c} {P : State → Prop} {depths : Depths} {self : Nat → Dependency → Run Instance}

/-- What an available object requires is available. -/
theorem isAvailable_of_requires {d e : Dependency} (hd : c.isAvailable d = true)
    (h : c.Requires c.classes.catalog d e) : c.isAvailable e = true := by
  by_contra he
  rw [Bool.not_eq_true, isAvailable_eq_false_iff] at he
  obtain ⟨n, hn⟩ := he
  have hlacks : ∃ n, c.Lacks c.classes.catalog n d := ⟨n + 1, .there h hn⟩
  rw [← isAvailable_eq_false_iff, hd] at hlacks
  cases hlacks

/-- The classes of what is available have constructors. -/
theorem constructor_of_isAvailable {d : Dependency} (hd : c.isAvailable d = true)
    (hunbound : c.registry.contains d.key = false) {cls : ClassPath}
    (hjit : c.justInTime d = some cls) {cat : Catalog} (hcat : c.classes.catalog cls = .ok cat) :
    ∃ m, cat.constructor = some m := by
  cases hm : cat.constructor with
  | some m => exact ⟨m, rfl⟩
  | none =>
    have hlacks : ∃ n, c.Lacks c.classes.catalog n d :=
      ⟨0, .here ⟨hunbound, .inr ⟨cls, cat, hjit, hcat, hm⟩⟩⟩
    rw [← isAvailable_eq_false_iff, hd] at hlacks
    cases hlacks

/-- Available dependencies resolve to arguments of the expected types. -/
theorem delivers_arguments {ds : List Dependency} (hds : ∀ d ∈ ds, c.isAvailable d = true)
    (hself : ∀ d ∈ ds, Delivers depths (c.Settled P) (fun n => self n d) (·.ty = d.key.ty))
    (member : String) :
    Delivers depths (c.Settled P) (fun n => Run.collect (c.resolveRequired (self n) member) ds)
      fun values => values.map Instance.ty = ds.map (fun d : Dependency => d.key.ty) := by
  refine Delivers.collect fun d hd => ?_
  have hreach := reach_of_isAvailable (hds d hd)
  simp only [resolveRequired, if_pos hreach]
  exact hself d hd

/-- A member gets arguments of the types that it declares, unless it is optional and skipped. -/
theorem delivers_argumentsFor (hP : State.Robust P) {ds : List Dependency} {optional : Bool}
    (hrequired : optional = false → ∀ d ∈ ds, c.isAvailable d = true)
    (hself : ∀ d ∈ ds, c.isAvailable d = true →
      Delivers depths (c.Settled P) (fun n => self n d) (·.ty = d.key.ty)) (member : String) :
    Delivers depths (c.Settled P) (fun n => c.argumentsFor (self n) member ds optional)
      fun values => ∀ vs, values = some vs →
        vs.map Instance.ty = ds.map (fun d : Dependency => d.key.ty) := by
  have hall : (∀ d ∈ ds, c.isAvailable d = true) →
      Delivers depths (c.Settled P) (fun n => c.argumentsFor (self n) member ds false)
        fun values => ∀ vs, values = some vs →
          vs.map Instance.ty = ds.map (fun d : Dependency => d.key.ty) := by
    intro hds
    have hcollect := delivers_arguments hds (fun d hd => hself d hd (hds d hd)) member
    refine hcollect.bind fun values hvalues => Delivers.succeed fun vs hvs => ?_
    cases hvs
    exact hvalues
  cases optional with
  | false => exact hall (hrequired rfl)
  | true =>
    simp only [argumentsFor_optional]
    refine (delivers_firstUnavailable hP ds).bind fun found hfound => ?_
    cases found with
    | some d =>
      refine (delivers_log hP _).bind fun _ _ => ?_
      exact Delivers.succeed fun vs hvs => nomatch hvs
    | none =>
      refine hall fun d hd => ?_
      simpa using List.find?_eq_none.mp hfound.symm d hd

/-- A member is injected, or skipped if it is optional. -/
theorem delivers_injectPoint (hP : State.Robust P) {m : Member} (hm : m.Accepts)
    (hrequired : m.optional = false → ∀ d ∈ m.dependencies, c.isAvailable d = true)
    (hself : ∀ d ∈ m.dependencies, c.isAvailable d = true →
      Delivers depths (c.Settled P) (fun n => self n d) (·.ty = d.key.ty))
    {cat : Catalog} {target : ClassPath} (hcls : cat.cls = target) (id : Nat) :
    Delivers depths (c.Settled P) (fun n => c.injectPoint (self n) cat target id m)
      fun _ => True := by
  unfold injectPoint
  cases m.role with
  | constructor => exact Delivers.succeed trivial
  | static form => exact Delivers.succeed trivial
  | instanceOf form path =>
    refine (delivers_argumentsFor hP hrequired hself _).bind fun values hvalues => ?_
    cases values with
    | none => exact Delivers.succeed trivial
    | some values =>
      subst hcls
      exact delivers_runMember hP (hm _ _ (hvalues values rfl)) _ path id

/-- An object is constructed if what its class requires is available and what it may be given
resolves. -/
theorem delivers_construct (hP : State.Robust P) {cls : ClassPath} {cat : Catalog} {m : Member}
    (hcat : c.classes.catalog cls = .ok cat) (hconstructor : cat.constructor = some m)
    (hm : m.Accepts) (hpoints : ∀ p ∈ cat.instancePoints, p.Accepts)
    (hrequired : ∀ d ∈ cat.requirements m, c.isAvailable d = true)
    (hself : ∀ d ∈ cat.needs m, c.isAvailable d = true →
      Delivers depths (c.Settled P) (fun n => self n d) (·.ty = d.key.ty)) :
    Delivers depths (c.Settled P) (fun n => c.construct (self n) cls)
      (·.ty = .component cls) := by
  have hcls := (ClassTable.catalog_eq_ok hcat).1
  unfold construct
  refine (delivers_catalog hP hcat).bind fun cat' heq => ?_
  subst cat'
  refine (delivers_constructorOf hconstructor).bind fun m' heq => ?_
  subst m'
  have hds : ∀ d ∈ m.dependencies, c.isAvailable d = true := fun d hd =>
    hrequired d (List.mem_append_left _ hd)
  have hneeds : ∀ d ∈ m.dependencies, d ∈ cat.needs m := fun d hd => List.mem_append_left _ hd
  refine (delivers_arguments hds (fun d hd => hself d (hneeds d hd) (hds d hd)) _).bind
    fun values hvalues => ?_
  refine (delivers_log hP _).bind fun _ _ => ?_
  refine (delivers_runConstructor hP (hm _ _ hvalues) _).bind fun id _ => ?_
  refine Delivers.bind (V := fun _ => True) (Delivers.each fun p hp => ?_) fun _ _ => ?_
  · refine delivers_injectPoint hP (hpoints p hp) (fun hopt d hd => ?_) (fun d hd => ?_) hcls id
    · refine hrequired d (List.mem_append_right _ (List.mem_flatMap.mpr ⟨p, ?_, hd⟩))
      exact List.mem_filter.mpr ⟨hp, by simp [hopt]⟩
    · exact hself d (List.mem_append_right _ (List.mem_flatMap.mpr ⟨p, hp, hd⟩))
  · exact delivers_act hP (fun _ => rfl) fun _ => rfl

/-- What is available resolves. The classes on `path` are those that are being constructed when `e`
is asked for, and there is room for all others. -/
theorem delivers_resolveWithin {d : Dependency} (h : c.Dependable P depths d) {room : Nat}
    {path : List ClassPath} (hfits : c.Fits room path) {e : Dependency}
    (hreach : ReflTransGen c.MayNeed d e) (he : c.isAvailable e = true)
    (hpath : ∀ f cls, cls ∈ path → c.justInTime f = some cls → TransGen c.MayNeed f e) :
    Delivers depths (c.Settled P) (fun n => c.resolveWithin (n + room) e) (·.ty = e.key.ty) := by
  induction room using Nat.strong_induction_on generalizing path e with
  | _ room ih =>
    cases hbound : c.registry.contains e.key with
    | true =>
      intro s hs
      obtain ⟨n, i, s', hn, hi, hty, hs'⟩ := h.bound e hreach hbound s hs.1
      refine ⟨n, i, s', hn, fun k hk => ?_, ⟨hs', hs.2.resolveWithin hi⟩, hty⟩
      exact c.resolveWithin_mono (Nat.le_trans hk (Nat.le_add_right k room)) hi
    | false =>
      have hjit := reach_of_isAvailable he
      rw [hbound, Bool.false_or, Option.isSome_iff_exists] at hjit
      obtain ⟨cls, hjit⟩ := hjit
      obtain ⟨cat, hcat⟩ := h.builds e cls hreach hbound hjit
      obtain ⟨m, hm⟩ := constructor_of_isAvailable he hbound hjit hcat
      have hconstructs : c.Constructs c.classes.catalog e cls cat m := ⟨hbound, hjit, hcat, hm⟩
      obtain ⟨haccepts, hpoints⟩ := h.accepts e cls cat m hreach hconstructs
      -- a class that is being constructed already would depend on itself
      have hfresh : cls ∉ path := fun hmem => h.acyclic e hreach (hpath e cls hmem hjit)
      obtain ⟨room, rfl, hfits'⟩ := hfits.cons (mem_keys_of_constructor hcat hm) hfresh
      have hkey : e.key.ty = .component cls := by
        unfold justInTime at hjit
        split at hjit
        · rw [Dependency.key_eq_of_justInTime hjit]
          rfl
        · cases hjit
      change Delivers depths (c.Settled P)
        (fun n => c.resolveStep (c.resolveWithin (n + room)) e) (·.ty = e.key.ty)
      refine (delivers_log h.robust _).bind fun _ _ => Delivers.noting ?_ fun ev s hs => ?_
      · simp only [c.answer_of_unbound _ hbound, hjit, hkey]
        refine delivers_construct h.robust hcat hm haccepts hpoints (fun f hf => ?_)
          fun f hf hav => ?_
        · exact isAvailable_of_requires he ⟨cls, cat, m, hconstructs, hf⟩
        · have hneed : c.MayNeed e f := ⟨cls, cat, m, hconstructs, hf⟩
          refine ih room (Nat.lt_succ_self room) hfits' (hreach.tail hneed) hav
            fun g cls' hmem hg => ?_
          rcases List.mem_cons.mp hmem with rfl | hmem
          · rw [eq_of_justInTime hg hjit]
            exact .single hneed
          · exact (hpath g cls' hmem hg).tail hneed
      · exact hs.inWorld h.robust rfl

end Container

end Wiring
