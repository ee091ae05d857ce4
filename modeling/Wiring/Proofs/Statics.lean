import Wiring.Proofs.Deferred
import Wiring.Proofs.Precedence

/-!
# Static Injection

The static members of a class are injected when a container is built, once for each class that asks
for it, however often it asks. A static member that runs is entered in the journal with the class
that declares it. So the journal tells which static members run: `Container.staticCalls` lists
them for a class, and a build enters the lists of all its targets, one after another.

Classes have static members and members of objects in one table, and share all that is done for
their arguments. What is done on behalf of objects never enters anything that belongs to the stage
of static injection, and what is done on behalf of a class comes down to resolving the arguments
of its static members and calling them.

## Conventions

A static member of a part belongs to the part's class also when an owner of the part takes it over.
It runs once for each target that has it in its table.

## Main statements

* `Outline.filter_isStatic_expand`: the static members of an outlined class.
* `Container.StaticPoint`: what is done for a static member.
* `Container.oneByOne_of_injectStatics`: what is done for a class.
* `Container.Injects`: a run runs given static members and no others.
* `Container.stages_of_start`: when static members run in a build.
* `Builder.statics_injected_once`: static injection in builds and afterwards.
-/

namespace Wiring

/-! ### Static members in outlines -/

/-- A member of a part is taken over as static exactly if it is static, and then as it is. -/
theorem Member.filter_isStatic_lift (inner : ClassPath) (ms : List Member) :
    (ms.filterMap (lift inner)).filter isStatic = ms.filter isStatic := by
  induction ms with
  | nil => rfl
  | cons m ms ih =>
    cases hrole : m.role with
    | constructor => simp [lift, isStatic, hrole, ih]
    | instanceOf form path => simp [lift, isStatic, hrole, ih]
    | static form => simp [lift, isStatic, hrole, ih]

namespace Outline

/-- The static members of a class: its own, and those of its parts up to a depth. -/
def statics (o : Outline) : Nat → ClassPath → List Member
  | 0, _ => []
  | depth + 1, cls => (o.entriesOf cls).flatMap fun
    | .member m => [m].filter Member.isStatic
    | .lifted inner => o.statics depth inner

/-- An outlined class takes over the static members of its parts as they are, and has no others but
its own. -/
theorem filter_isStatic_expand (o : Outline) (depth : Nat) (cls : ClassPath) :
    (o.expand depth cls).2.filter Member.isStatic = o.statics depth cls := by
  induction depth generalizing cls with
  | zero => rfl
  | succ depth ih =>
    rw [expand, written_eq, statics, List.filter_flatMap]
    refine List.flatMap_congr fun e _ => ?_
    cases e with
    | member m => rfl
    | lifted inner => exact (Member.filter_isStatic_lift inner _).trans (ih inner)

/-- The members of a class in the class table of an outline. -/
theorem members_toTable (o : Outline) (cls : ClassPath) :
    o.toTable.members cls = (o.expand (o.size + 1) cls).2 := by
  have hfind : ∀ es : List (ClassPath × List OutlineEntry × Supply),
      Table.find cls (es.map fun e => (e.1, (⟨(o.expand (o.size + 1) e.1).2,
        (o.expand (o.size + 1) e.1).1, e.2.2⟩ : ClassDecl))) =
      (Table.find cls es).map fun e =>
        ⟨(o.expand (o.size + 1) cls).2, (o.expand (o.size + 1) cls).1, e.2⟩ := by
    intro es
    induction es with
    | nil => rfl
    | cons e es ih =>
      rw [List.map_cons, Table.find, Table.find, ih]
      by_cases hcls : e.1 = cls
      · simp [hcls]
      · simp [hcls]
  have hnodup : ((o.entries.map fun e => (e.1, (⟨(o.expand (o.size + 1) e.1).2,
      (o.expand (o.size + 1) e.1).1, e.2.2⟩ : ClassDecl))).map Prod.fst).Nodup := by
    rw [List.map_map]
    exact o.nodup
  have hget : o.toTable.get? cls = (o.get? cls).map fun e =>
      ⟨(o.expand (o.size + 1) cls).2, (o.expand (o.size + 1) cls).1, e.2⟩ := by
    rw [Table.get?, toTable, Table.entries_ofList hnodup]
    exact hfind o.entries
  rw [ClassTable.members, ClassTable.decl, hget]
  cases hentry : o.get? cls with
  | some e => rfl
  | none =>
    rw [expand, entriesOf, hentry]
    rfl

end Outline

/-! ### Static members in catalogs -/

/-- The static members of a class in the order of injection: fields before methods, each in the
order of declaration. -/
def ClassTable.staticPoints (t : ClassTable) (cls : ClassPath) : List Member :=
  ((t.members cls).filter Member.isStatic).filter (·.kind = .field) ++
    ((t.members cls).filter Member.isStatic).filter (·.kind = .method)

/-- The static members of a catalog are those of its class. -/
theorem ClassTable.staticPoints_of_catalog {t : ClassTable} {cls : ClassPath} {cat : Catalog}
    (h : t.catalog cls = .ok cat) : cat.staticPoints = t.staticPoints cls := by
  rw [(catalog_eq_ok h).2.2.2, sortByKind_eq _ fun m hm =>
    kind_of_isStatic (List.mem_filter.mp hm).2]
  rfl

/-! ### Looking at classes -/

/-- The discipline of doing nothing but looking at classes and writing to the log, and of beginning
no later stage of a build. -/
def looking : Discipline where
  Inv _ := True
  Step s s' := s'.memory = { s.memory with catalogs := s'.memory.catalogs } ∧
    s'.world = { s.world with journal := s'.world.journal } ∧
      ∃ es, s.Entered s' es ∧ ∀ e ∈ es, e.isAside = true ∧ e.stage = 0
  Known _ _ := True
  refl s := ⟨rfl, rfl, [], .refl s, fun _ he => nomatch he⟩
  trans := by
    rintro s t u ⟨hm, hw, es, hes, haside⟩ ⟨hm', hw', fs, hfs, haside'⟩
    refine ⟨by rw [hm', hm], by rw [hw', hw], es ++ fs, hes.trans hfs, fun e he => ?_⟩
    exact (List.mem_append.mp he).elim (haside e) (haside' e)
  known_step _ h := h

/-- Looking at classes is admitted. -/
theorem admitsLooks_looking (c : Container) : looking.AdmitsLooks c where
  emit {s} _ e he hmark := by
    refine ⟨trivial, rfl, rfl, [e], s.entered_emit e, fun e' he' => ?_⟩
    rw [List.mem_singleton.mp he']
    exact ⟨he, Event.stage_of_not_isMark hmark⟩
  keep {s} _ _ _ _ _ := ⟨trivial, rfl, rfl, [], .refl s, fun _ he => nomatch he⟩

/-- The discipline of entering only events of which `P` holds admits everything, if `P` holds of
whatever does not tell of a later stage of a build. -/
theorem admitsAll_entering {P : Event → Prop} (hP : ∀ e : Event, e.stage = 0 → P e)
    (c : Container) : (entering P).AdmitsAll c where
  toAdmits := admits_entering (fun e he => hP e (Event.stage_of_not_isMark he)) c
  readiness _ _ := Discipline.Ensures.remember fun s _ _ => ⟨trivial, (entering P).refl s⟩
  slots _ _ := Discipline.Ensures.remember fun s _ _ => ⟨trivial, (entering P).refl s⟩
  mark e s he _ := entering_emit (hP e he) s

/-! ### One after another -/

/-- Something that may fail is done for the elements of a list, up to the first failure. -/
inductive OneByOne {α : Type} (P : α → State → Except ConfigurationError Unit → State → Prop) :
    List α → State → Except ConfigurationError Unit → State → Prop where
  /-- There are no elements. -/
  | done (s : State) : OneByOne P [] s (.ok ()) s
  /-- It is done for an element, and then for the others. -/
  | next {a : α} {as : List α} {s t u : State} {r : Except ConfigurationError Unit} :
    P a s (.ok ()) t → OneByOne P as t r u → OneByOne P (a :: as) s r u
  /-- It fails for an element. -/
  | failed {a : α} {as : List α} {s t : State} {e : ConfigurationError} :
    P a s (.error e) t → OneByOne P (a :: as) s (.error e) t

/-- What is done for each element is done in turn, where an invariant is kept. -/
theorem OneByOne.of_each {α : Type} {I : State → Prop}
    {P : α → State → Except ConfigurationError Unit → State → Prop} {f : α → Run Unit}
    {as : List α}
    (hf : ∀ a ∈ as, ∀ s r t, I s → f a s = some (r, t) → P a s r t ∧ I t) {s t : State}
    {r : Except ConfigurationError Unit} (hs : I s) (h : Run.each f as s = some (r, t)) :
    OneByOne P as s r t := by
  induction as generalizing s with
  | nil =>
    cases h
    exact .done _
  | cons a as ih =>
    rw [Run.each, Run.andThen] at h
    rcases ha : f a s with _ | ⟨e | ⟨⟩, u⟩
    · rw [ha] at h
      cases h
    · rw [ha] at h
      cases h
      exact .failed (hf a List.mem_cons_self s _ _ hs ha).1
    · rw [ha] at h
      obtain ⟨hP, hu⟩ := hf a List.mem_cons_self s _ _ hs ha
      exact .next hP (ih (fun b hb => hf b (List.mem_cons_of_mem a hb)) hu h)

/-! ### What is done for a static member -/

/-- The state after entries in the journal. -/
def State.enter (s : State) (es : List Event) : State :=
  s.inWorld { s.world with journal := s.world.journal ++ es.toArray }

/-- Events are entered in a state. -/
theorem State.entered_enter (s : State) (es : List Event) : s.Entered (s.enter es) es := by
  simp [Entered, enter, inWorld]

namespace Container

variable (c : Container)

/-- Whether a member runs: it is not skipped for want of a dependency. -/
def runs (m : Member) : Bool := !m.optional || m.dependencies.all c.isAvailable

/-- The static members of a class that run, with the classes that declare them. -/
def staticCalls (cls : ClassPath) : List (ClassPath × String) :=
  ((c.classes.staticPoints cls).filter c.runs).map fun m => (m.owner, m.name)

/-- The dependencies of a member are resolved for it. -/
def resolveArguments (cat : Catalog) (m : Member) : Run (List Instance) :=
  .collect (c.resolveRequired c.resolve (cat.memberName m)) m.dependencies

/-- What is done for a static member of a class, what it comes to, and the state after it: it is
asked which members are to be skipped, the arguments are resolved and the member is called. That is
all; no object is touched but by what is done for the arguments. -/
inductive StaticPoint (cat : Catalog) (m : Member) (s : State) :
    Except ConfigurationError Unit → State → Prop where
  /-- The member is skipped. -/
  | skipped {t : State} : c.runs m = false → looking.Step s t → StaticPoint cat m s (.ok ()) t
  /-- An argument cannot be had. -/
  | refused {t u : State} {e : ConfigurationError} : c.runs m = true → looking.Step s t →
    c.resolveArguments cat m t = some (.error e, u) → StaticPoint cat m s (.error e) u
  /-- The member is called and fails. -/
  | failed {t u : State} {values : List Instance} {reading : Reading} {e : ConfigurationError} :
    c.runs m = true → looking.Step s t →
    c.resolveArguments cat m t = some (.ok values, u) →
    reading = m.action (.ofList (cat.memberName m) values) → reading.error = some e →
    StaticPoint cat m s (.error e) (u.enter [.logged (.injectingStatic (cat.memberName m)),
      .attempted m.owner (u.world.call m.name reading.values)])
  /-- The member is called and succeeds. -/
  | injected {t u : State} {values : List Instance} {reading : Reading} :
    c.runs m = true → looking.Step s t →
    c.resolveArguments cat m t = some (.ok values, u) →
    reading = m.action (.ofList (cat.memberName m) values) → reading.error = none →
    StaticPoint cat m s (.ok ()) (u.enter [.logged (.injectingStatic (cat.memberName m)),
      .attempted m.owner (u.world.call m.name reading.values),
      .injectedStatic m.owner (u.world.call m.name reading.values)])

variable {c} {cat : Catalog} {m : Member} {s t u : State} {r : Except ConfigurationError Unit}

/-- For a member that is not optional, all dependencies are resolved. -/
theorem collect_of_argumentsFor {name : String} {ds : List Dependency}
    {r : Except ConfigurationError (Option (List Instance))}
    (h : c.argumentsFor c.resolve name ds false s = some (r, u)) :
    ∃ r', Run.collect (c.resolveRequired c.resolve name) ds s = some (r', u) ∧ r = r'.map some := by
  rw [argumentsFor_required, Run.bind_eq] at h
  rcases hcollect : Run.collect (c.resolveRequired c.resolve name) ds s with _ | ⟨_ | values, v⟩
  all_goals
    rw [hcollect] at h
    cases h
  · exact ⟨_, rfl, rfl⟩
  · exact ⟨_, rfl, rfl⟩

/-- An optional member runs if no dependency is found that is not available. -/
theorem runs_of_optional (h : m.optional = true) :
    c.runs m = (m.dependencies.find? (!c.isAvailable ·)).isNone := by
  rw [runs, h, Bool.not_true, Bool.false_or, Bool.eq_iff_iff, List.all_eq_true,
    Option.isNone_iff_eq_none, List.find?_eq_none]
  simp only [Bool.not_eq_true', Bool.not_eq_false]

/-- Before the arguments of a member are resolved, it is found out whether it is to be skipped. -/
theorem argumentsFor_cases {name : String}
    {r : Except ConfigurationError (Option (List Instance))} (hs : s.Faithful c)
    (h : c.argumentsFor c.resolve name m.dependencies m.optional s = some (r, u)) :
    (c.runs m = false ∧ looking.Step s u ∧ r = .ok none) ∨
      ∃ t r', c.runs m = true ∧ looking.Step s t ∧
        Run.collect (c.resolveRequired c.resolve name) m.dependencies t = some (r', u) ∧
        r = r'.map some := by
  cases hoptional : m.optional with
  | false =>
    rw [hoptional] at h
    obtain ⟨r', hcollect, hr⟩ := collect_of_argumentsFor h
    exact .inr ⟨s, r', by simp [runs, hoptional], looking.refl s, hcollect, hr⟩
  | true =>
    obtain ⟨nb, -, hfirst⟩ := c.firstUnavailable_eq m.dependencies hs
    have hlooking := ((admitsLooks_looking c).firstUnavailable m.dependencies s trivial trivial _ _
      hfirst).2.1
    rw [hoptional, argumentsFor_optional, Run.bind_eq, hfirst] at h
    have hruns := runs_of_optional (c := c) hoptional
    cases hfind : m.dependencies.find? (!c.isAvailable ·) with
    | some d =>
      rw [hfind] at h hruns
      cases h
      refine .inl ⟨hruns, looking.trans hlooking ?_, rfl⟩
      exact ((admitsLooks_looking c).emit trivial (.logged (.skipped name d.key)) rfl rfl).2
    | none =>
      rw [hfind] at h hruns
      obtain ⟨r', hcollect, hr⟩ := collect_of_argumentsFor h
      exact .inr ⟨_, r', hruns, hlooking, hcollect, hr⟩

/-- A static member is called with its arguments. -/
theorem log_runStatic_eq (m : Member) (name : String) (arguments : Arguments) (s : State) :
    (do .log (.injectingStatic name); runStatic m arguments : Run Unit) s =
      match (m.action arguments).error with
      | some e => some (.error e, s.enter [.logged (.injectingStatic name),
          .attempted m.owner (s.world.call m.name (m.action arguments).values)])
      | none => some (.ok (), s.enter [.logged (.injectingStatic name),
          .attempted m.owner (s.world.call m.name (m.action arguments).values),
          .injectedStatic m.owner (s.world.call m.name (m.action arguments).values)]) := by
  simp only [runStatic, attemptCall, Run.bind_eq, Run.log, Run.emit, Run.change, Run.read]
  have hcall : (s.world.log (.injectingStatic name)).call m.name (m.action arguments).values =
      s.world.call m.name (m.action arguments).values := rfl
  rw [hcall]
  cases herror : (m.action arguments).error with
  | some e =>
    simp [Run.fail, State.enter, State.inWorld, World.log, World.emit, ← Array.append_singleton]
  | none =>
    simp [Run.pure_eq, State.enter, State.inWorld, World.log, World.emit, ← Array.append_singleton]

/-- A static member of a class is injected as said. -/
theorem staticPoint_of_injectStaticPoint (hs : s.Faithful c)
    (h : c.injectStaticPoint c.resolve cat m s = some (r, u)) : c.StaticPoint cat m s r u := by
  rw [injectStaticPoint, Run.bind_eq] at h
  rcases harguments : c.argumentsFor c.resolve (cat.memberName m) m.dependencies m.optional s with
    _ | ⟨r', v⟩
  · rw [harguments] at h
    cases h
  rw [harguments] at h
  rcases argumentsFor_cases hs harguments with ⟨hruns, hlooking, rfl⟩ |
    ⟨t, r'', hruns, hlooking, hcollect, rfl⟩
  · cases h
    exact .skipped hruns hlooking
  · rcases r'' with e | values
    · cases h
      exact .refused hruns hlooking hcollect
    · have hcall := log_runStatic_eq m (cat.memberName m) (.ofList (cat.memberName m) values) v
      replace hcall := h.symm.trans hcall
      cases herror : (m.action (.ofList (cat.memberName m) values)).error with
      | some e =>
        rw [herror] at hcall
        cases hcall
        exact .failed hruns hlooking hcollect rfl herror
      | none =>
        rw [herror] at hcall
        cases hcall
        exact .injected hruns hlooking hcollect rfl herror

/-- The static members of a class are injected one by one, once it is known which they are. -/
theorem oneByOne_of_injectStatics {cls : ClassPath} (hs : s.Faithful c)
    (h : c.injectStatics c.resolve cls s = some (r, u)) :
    (∃ e, c.classes.catalog cls = .error e ∧ r = .error e ∧ looking.Step s u) ∨
      ∃ cat t, c.classes.catalog cls = .ok cat ∧ looking.Step s t ∧ t.Faithful c ∧
        OneByOne (c.StaticPoint cat) (c.classes.staticPoints cls) t r u := by
  obtain ⟨t, hcatalog, -⟩ := catalog_run cls hs
  have hlooking := ((admitsLooks_looking c).catalog cls s trivial trivial _ _ hcatalog).2.1
  have ht := (c.admitsAll_faithful.looks.catalog cls s hs trivial _ _ hcatalog).1
  rw [injectStatics, Run.bind_eq, hcatalog] at h
  cases hcat : c.classes.catalog cls with
  | error e =>
    rw [hcat] at h
    cases h
    exact .inl ⟨e, rfl, rfl, hlooking⟩
  | ok cat =>
    rw [hcat] at h
    have heach : Run.each (c.injectStaticPoint c.resolve cat) cat.staticPoints t = some (r, u) := h
    rw [ClassTable.staticPoints_of_catalog hcat] at heach
    have hall := c.admitsAll_faithful
    have hpoint : ∀ m, c.faithful.Allows (c.injectStaticPoint c.resolve cat m) :=
      Discipline.Conduct.injectStaticPoint hall.toAdmits (c.stages_faithful.mono (by decide))
        hall.resolve cat
    refine .inr ⟨cat, t, rfl, hlooking, ht, OneByOne.of_each (I := (·.Faithful c))
      (f := c.injectStaticPoint c.resolve cat) (fun m _ s r t hs hrun => ?_) ht heach⟩
    exact ⟨staticPoint_of_injectStaticPoint hs hrun, (hpoint m s hs trivial r t hrun).1⟩

/-! ### Which static members run -/

end Container

/-- The static member that an event tells of having run, with the class that declares it. -/
def Event.staticCall? : Event → Option (ClassPath × String)
  | injectedStatic owner call => some (owner, call.member)
  | _ => none

/-- Static members are called in the second stage only. -/
theorem Event.staticCall?_of_stage {e : Event} (h : e.stage ≠ 1) : e.staticCall? = none := by
  cases e with
  | injectedStatic owner call => exact absurd rfl h
  | _ => rfl

namespace Container

/-- The discipline of entering in the journal no static member that runs. -/
def withoutStatics : Discipline := entering fun e => e.staticCall? = none

/-- What is done without calls of static members is admitted. -/
theorem admitsAll_withoutStatics (c : Container) : withoutStatics.AdmitsAll c :=
  admitsAll_entering (fun e he => Event.staticCall?_of_stage (by simp [he])) c

/-- Between two states, static members run: the first ones of a list, and all of them if what is
done is finished. -/
def Calls (L : List (ClassPath × String)) (finished : Prop) (s t : State) : Prop :=
  ∃ es, s.Entered t es ∧ es.filterMap Event.staticCall? <+: L ∧
    (finished → es.filterMap Event.staticCall? = L)

/-- A run runs given static members and no others: the first ones of a list, and all of them if it
succeeds. -/
def Injects (c : Container) (L : List (ClassPath × String)) {α : Type} (x : Run α) : Prop :=
  ∀ s, s.Faithful c → ∀ r t, x s = some (r, t) → t.Faithful c ∧ Calls L (∃ a, r = .ok a) s t

variable {c : Container} {cat : Catalog} {m : Member} {s t u : State}
  {r : Except ConfigurationError Unit} {L L' : List (ClassPath × String)} {p : Prop}
  {α β : Type}

/-- What does not enter that a static member runs, calls none. -/
theorem Calls.none (h : withoutStatics.Step s t) : Calls [] p s t := by
  obtain ⟨es, hes, hnone⟩ := h
  have hnil : es.filterMap Event.staticCall? = [] := List.filterMap_eq_nil_iff.mpr hnone
  exact ⟨es, hes, hnil ▸ List.nil_prefix, fun _ => hnil⟩

/-- What is finished is followed by something else. -/
theorem Calls.then (h : Calls L True s t) (h' : Calls L' p t u) : Calls (L ++ L') p s u := by
  obtain ⟨es, hes, -, hall⟩ := h
  obtain ⟨fs, hfs, hfirst, hall'⟩ := h'
  refine ⟨es ++ fs, hes.trans hfs, ?_, fun hp => ?_⟩
  · rw [List.filterMap_append, hall trivial]
    exact (List.prefix_append_right_inj L).mpr hfirst
  · rw [List.filterMap_append, hall trivial, hall' hp]

/-- What is not finished has called the first static members of every list that goes on. -/
theorem Calls.unfinished (h : Calls L False s t) (hp : ¬p) (L' : List (ClassPath × String)) :
    Calls (L ++ L') p s t := by
  obtain ⟨es, hes, hfirst, -⟩ := h
  exact ⟨es, hes, hfirst.trans (List.prefix_append L L'), fun h => absurd h hp⟩

/-- It may be told less about success. -/
theorem Calls.mono {q : Prop} (h : Calls L p s t) (hpq : q → p) : Calls L q s t := by
  obtain ⟨es, hes, hfirst, hall⟩ := h
  exact ⟨es, hes, hfirst, fun hq => hall (hpq hq)⟩

/-- Looking at classes calls no static members. -/
theorem looking_withoutStatics (h : looking.Step s t) : withoutStatics.Step s t := by
  obtain ⟨-, -, es, hes, haside⟩ := h
  exact ⟨es, hes, fun e he => Event.staticCall?_of_stage (by simp [(haside e he).2])⟩

/-- What is done one by one calls what it calls for each element. -/
theorem OneByOne.calls {P : α → State → Except ConfigurationError Unit → State → Prop}
    {f : α → List (ClassPath × String)} {as : List α}
    (hP : ∀ a ∈ as, ∀ s r t, P a s r t → Calls (f a) (r = .ok ()) s t) (h : OneByOne P as s r t) :
    Calls (as.flatMap f) (r = .ok ()) s t := by
  induction h with
  | done s => exact .none (withoutStatics.refl s)
  | next ha _ ih =>
    have hfirst := hP _ List.mem_cons_self _ _ _ ha
    exact (hfirst.mono fun _ => rfl).then (ih fun b hb => hP b (List.mem_cons_of_mem _ hb))
  | failed ha =>
    have hfirst := hP _ List.mem_cons_self _ _ _ ha
    exact (hfirst.mono False.elim).unfinished nofun _

/-- The entry of a static member, if it runs. -/
theorem StaticPoint.calls (h : c.StaticPoint cat m s r t) :
    Calls (([m].filter c.runs).map fun m => (m.owner, m.name)) (r = .ok ()) s t := by
  have harguments : ∀ {s t u : State} {r}, looking.Step s t →
      c.resolveArguments cat m t = some (r, u) → withoutStatics.Step s u := by
    intro s t u r hstep hrun
    have hall := c.admitsAll_withoutStatics
    have hcollect : withoutStatics.Allows (c.resolveArguments cat m) :=
      Discipline.Ensures.collect fun d _ =>
        (Discipline.Conduct.resolveRequired hall.resolve _ d).allows
    exact withoutStatics.trans (looking_withoutStatics hstep)
      (hcollect t trivial trivial r u hrun).2.1
  cases h with
  | skipped hruns hstep =>
    rw [List.filter_cons_of_neg (by simp [hruns])]
    exact .none (looking_withoutStatics hstep)
  | refused hruns hstep hrun =>
    exact (Calls.none (harguments hstep hrun)).unfinished nofun _
  | failed hruns hstep hrun hreading herror =>
    refine (Calls.none (withoutStatics.trans (harguments hstep hrun) ⟨_, State.entered_enter _ _,
      ?_⟩)).unfinished nofun _
    simp [Event.staticCall?]
  | injected hruns hstep hrun hreading herror =>
    rw [List.filter_cons_of_pos hruns]
    refine Calls.then (L := []) (.none (harguments hstep hrun)) ?_
    exact ⟨_, State.entered_enter _ _, List.prefix_rfl, fun _ => rfl⟩

/-- The static members of a class are called. -/
theorem injects_injectStatics (cls : ClassPath) :
    c.Injects (c.staticCalls cls) (c.injectStatics c.resolve cls) := by
  intro s hs r t h
  have hall := c.admitsAll_faithful
  have hkeeps : c.faithful.Allows (c.injectStatics c.resolve cls) :=
    Discipline.Conduct.injectStatics hall.toAdmits (c.stages_faithful.mono (by decide)) hall.resolve
      cls
  refine ⟨(hkeeps s hs trivial r t h).1, ?_⟩
  rcases oneByOne_of_injectStatics hs h with ⟨e, -, rfl, hstep⟩ | ⟨cat, u, -, hstep, -, hpoints⟩
  · exact (Calls.none (looking_withoutStatics hstep)).unfinished nofun _
  · have hcalls := OneByOne.calls (fun m _ _ _ _ h => StaticPoint.calls h) hpoints
    have hlist : (c.classes.staticPoints cls).flatMap
        (fun m => ([m].filter c.runs).map fun m => (m.owner, m.name)) = c.staticCalls cls := by
      rw [staticCalls, ← List.map_flatMap, ← List.filter_flatMap, List.flatMap_singleton']
    rw [hlist] at hcalls
    exact (Calls.then (.none (looking_withoutStatics hstep)) hcalls).mono fun ⟨_, h⟩ => h

/-! ### Builds -/

/-- A run that calls no static member. -/
theorem Injects.none {x : Run α} (hkeeps : c.faithful.Allows x) (hnone : withoutStatics.Allows x) :
    c.Injects [] x := fun s hs r t h =>
  ⟨(hkeeps s hs trivial r t h).1, .none (hnone s trivial trivial r t h).2.1⟩

/-- One run after another calls the members of both. -/
theorem Injects.bind {x : Run α} {f : α → Run β} (hx : c.Injects L x)
    (hf : ∀ a, c.Injects L' (f a)) : c.Injects (L ++ L') (x >>= f) := by
  intro s hs r u h
  rw [Run.bind_eq] at h
  rcases hrun : x s with _ | ⟨e | a, t⟩
  · rw [hrun] at h
    cases h
  · rw [hrun] at h
    cases h
    obtain ⟨hu, hcalls⟩ := hx s hs _ _ hrun
    exact ⟨hu, (hcalls.mono False.elim).unfinished (fun ⟨_, ha⟩ => nomatch ha) L'⟩
  · rw [hrun] at h
    obtain ⟨ht, hcalls⟩ := hx s hs _ _ hrun
    obtain ⟨hu, hcalls'⟩ := hf a t ht r u h
    exact ⟨hu, (hcalls.mono fun _ => ⟨a, rfl⟩).then hcalls'⟩

/-- Changing errors does not matter. -/
theorem Injects.mapError {x : Run α} (f : ConfigurationError → ConfigurationError)
    (hx : c.Injects L x) : c.Injects L (x.mapError f) := by
  intro s hs r t h
  obtain ⟨⟨r', t'⟩, hrun, heq⟩ := Option.map_eq_some_iff.mp h
  cases heq
  obtain ⟨ht, hcalls⟩ := hx s hs _ _ hrun
  refine ⟨ht, hcalls.mono ?_⟩
  rintro ⟨a, ha⟩
  cases r' with
  | error e => cases ha
  | ok b => exact ⟨b, rfl⟩

/-- Doing something for each element calls the members in turn. -/
theorem Injects.each {f : α → Run Unit} {g : α → List (ClassPath × String)} {as : List α}
    (h : ∀ a ∈ as, c.Injects (g a) (f a)) : c.Injects (as.flatMap g) (Run.each f as) := by
  induction as with
  | nil =>
    intro s hs r t h
    cases h
    exact ⟨hs, .none (withoutStatics.refl s)⟩
  | cons a as ih =>
    exact (h a List.mem_cons_self).bind fun _ => ih fun b hb => h b (List.mem_cons_of_mem a hb)

/-- The static members of all targets, target by target. -/
def allStaticCalls (c : Container) : List (ClassPath × String) :=
  c.staticTargets.flatMap c.staticCalls

/-- The second stage of a build calls the static members of the targets. -/
theorem injects_injectStaticTargets (c : Container) :
    c.Injects c.allStaticCalls c.injectStaticTargets := by
  have hlog : c.Injects [] (if !c.staticTargets.isEmpty then
      .log (.staticsInjected c.staticTargets.length) else pure ()) := by
    split
    · exact .none (Discipline.Ensures.change fun _ hs _ => ⟨hs, trivial⟩)
        (Discipline.Ensures.change fun s _ _ => entering_emit (P := (·.staticCall? = none)) rfl s)
    · exact .none (Discipline.Ensures.succeed fun _ _ _ => trivial)
        (Discipline.Ensures.succeed fun _ _ _ => trivial)
  have htargets : c.Injects c.allStaticCalls (.each c.injectStaticTarget c.staticTargets) :=
    Injects.each fun cls _ =>
      (injects_injectStatics cls).mapError (.staticInjection (TypeName.short cls))
  have hboth := htargets.bind fun _ => hlog
  rw [List.append_nil] at hboth
  exact hboth

/-- The first stage of a build calls no static members. -/
theorem injects_injectDeferred (c : Container) : c.Injects [] c.injectDeferred := by
  have hprepare : ∀ {D : Discipline}, D.AdmitsAll c → D.Allows c.injectDeferred := fun h =>
    Discipline.Ensures.each fun b hb => Discipline.Conduct.prepare fun d hd =>
      h.force h.resolve (Registry.lookup_of_mem hb) hd
  exact .none (hprepare c.admitsAll_faithful) (hprepare c.admitsAll_withoutStatics)

/-- The last stage of a build makes no entries of the second one. -/
theorem createSingletons_entering {P : Event → Prop} (hP : ∀ e : Event, e.stage ≠ 1 → P e)
    (c : Container) : (entering P).Allows c.createSingletons := by
  have hall := admitsAll_entering (P := P) (fun e he => hP e (by simp [he])) c
  refine Discipline.Ensures.each fun b hb => ?_
  have hbinding := hall.resolveBinding hall.resolve
    (Registry.lookup_of_mem (List.mem_filter.mp hb).1)
  have hlog : (entering P).Allows (.log (.creatingAhead b.key)) :=
    Discipline.Ensures.change fun s _ _ =>
      entering_emit (hP (.logged (.creatingAhead b.key)) (Nat.succ_ne_self 1)) s
  refine hlog.bind fun _ => Discipline.Ensures.mapError _ ?_
  exact hbinding.allows.bind fun _ => Discipline.Ensures.succeed fun _ _ _ => trivial

/-- A build calls the static members of its targets, and no others. -/
theorem injects_start (c : Container) : c.Injects c.allStaticCalls c.start := by
  have hall := c.admitsAll_faithful
  have hcreate : c.Injects [] c.createSingletons := by
    refine .none (Discipline.Ensures.each fun b hb => ?_)
      (createSingletons_entering (fun e => Event.staticCall?_of_stage) c)
    exact Discipline.Conduct.createAhead (c.stages_faithful.mono (by decide))
      (hall.resolveBinding hall.resolve (Registry.lookup_of_mem (List.mem_filter.mp hb).1))
  have hread : c.Injects [] (.read fun s => c.stats s.memory) :=
    .none (Discipline.Ensures.read fun _ _ _ => trivial)
      (Discipline.Ensures.read fun _ _ _ => trivial)
  have hbuilt : ∀ stats, c.Injects [] (.log (.built stats)) := fun stats =>
    .none (Discipline.Ensures.change fun _ hs _ => ⟨hs, trivial⟩)
      (Discipline.Ensures.change fun s _ _ => entering_emit (P := (·.staticCall? = none)) rfl s)
  have hstart := c.injects_injectDeferred.bind fun _ => c.injects_injectStaticTargets.bind fun _ =>
    hcreate.bind fun _ => hread.bind hbuilt
  rw [List.nil_append, List.nil_append, List.nil_append, List.append_nil] at hstart
  exact hstart

/-- The three stages of a build that succeeds: deferred bindings become ready, static members run,
and then whatever is left. -/
theorem stages_of_start (hs : s.Faithful c) (h : c.start s = some (.ok (), u)) :
    ∃ t v es fs gs, s.Entered t es ∧ t.Entered v fs ∧ v.Entered u gs ∧
      (∀ e ∈ es, e.stage = 0) ∧ c.AllReady t.memory.readiness ∧
      (∀ e ∈ fs, e.stage ≤ 1) ∧ fs.filterMap Event.staticCall? = c.allStaticCalls ∧
      ∀ e ∈ gs, e.stage ≠ 1 := by
  obtain ⟨⟨⟩, t, hfirst, h⟩ := Run.andThen_eq_ok h
  obtain ⟨⟨⟩, v, hsecond, h⟩ := Run.andThen_eq_ok h
  obtain ⟨⟨⟩, x, hthird, h⟩ := Run.andThen_eq_ok h
  cases h
  have hperforms := injectDeferred_eq_ok_iff.mp hfirst
  obtain ⟨es, hes, hstage⟩ := inStage_performs (n := 0) hperforms fun step hstep => by
    obtain ⟨b, -, hprepare⟩ := List.mem_filterMap.mp hstep
    obtain ⟨d, -, rfl⟩ := Option.map_eq_some_iff.mp hprepare
    exact ⟨does_of_mem_prepareSteps hstep, Nat.le_refl 0⟩
  have ht := (c.injects_injectDeferred s hs _ _ hfirst).1
  obtain ⟨-, fs, hfs, -, hcalls⟩ := c.injects_injectStaticTargets t ht _ _ hsecond
  have hall := c.admitsAll_inStage 1
  obtain ⟨-, ⟨fs', hfs', hstage'⟩, -⟩ := Discipline.Conduct.injectStaticTargets hall.toAdmits
    (stages_inStage 1) hall.resolve t trivial trivial _ _ hsecond
  obtain rfl := hfs.unique hfs'
  obtain ⟨-, ⟨gs, hgs, hstage''⟩, -⟩ := createSingletons_entering (P := (·.stage ≠ 1))
    (fun _ he => he) c v trivial trivial _ _ hthird
  have hbuilt := x.entered_emit (.logged (.built (c.stats x.memory)))
  refine ⟨t, v, es, fs, _, hes, hfs, hgs.trans hbuilt, fun e he => Nat.le_zero.mp (hstage e he),
    allReady_of_performs hperforms hs, hstage', hcalls ⟨(), rfl⟩, fun e he => ?_⟩
  rcases List.mem_append.mp he with he | he
  · exact hstage'' e he
  · rw [List.mem_singleton.mp he]
    exact Nat.succ_succ_ne_one 1

/-! ### On behalf of objects -/

/-- What is done on behalf of objects, when a container is built and later. -/
inductive Serves (c : Container) (s s' : State) : Prop where
  /-- A container is used: something is resolved, members are injected into an object, or it is
  asked what can be resolved. -/
  | operate : c.Operates s s' → Serves c s s'
  /-- An object is constructed. -/
  | construct {cls : ClassPath} {r} : c.construct c.resolve cls s = some (r, s') → Serves c s s'
  /-- A deferred binding is used, be its object needed itself or as a provider. -/
  | force {b : Binding} {d : Deferral} {r} : c.registry.lookup b.key = some b →
    b.source.deferral = some d → c.force c.resolve b.key d s = some (r, s') → Serves c s s'
  /-- A binding supplies an instance in its scope. -/
  | supply {b : Binding} {r} : c.registry.lookup b.key = some b →
    c.resolveBinding c.resolve b s = some (r, s') → Serves c s s'

/-- On behalf of objects, nothing is done that belongs to a later stage than the first: no static
member is called. -/
theorem Serves.inFirstStage (h : c.Serves s t) :
    ∃ es, s.Entered t es ∧ ∀ e ∈ es, e.stage = 0 := by
  have hall := admitsAll_entering (P := (·.stage = 0)) (fun _ he => he) c
  have hstep : (entering (·.stage = 0)).Step s t := by
    cases h with
    | operate h => exact (h.moves hall.toAdmits hall.resolve trivial).2
    | construct h =>
      exact (Discipline.Conduct.construct hall.toAdmits hall.resolve _ s trivial trivial _ _ h).2.1
    | force hb hd h => exact (hall.force hall.resolve hb hd s trivial trivial _ _ h).2.1
    | supply hb h => exact (hall.resolveBinding hall.resolve hb s trivial trivial _ _ h).2.1
  exact hstep

end Container

namespace Builder

/-- How a build of a builder calls static members. -/
structure CallsStatics (b : Builder) (classes : ClassTable) (w : World) : Prop where
  /-- However a build ends, it calls static members in the order of the targets, and none twice for
  a target. -/
  inOrder : ∀ r w', b.build classes w = some (r, w') → ∃ es,
    w'.journal.toList = (b.opening classes w).world.journal.toList ++ es ∧
      es.filterMap Event.staticCall? <+: (b.container classes).allStaticCalls
  /-- A build that succeeds calls each static member of each target that is not to be skipped. When
  it begins to do so, all deferred bindings are ready. Until it is done, no singleton is created
  ahead of time, and then nothing belongs to static injection any more. -/
  once : ∀ r w', b.build classes w = some (.ok r, w') → ∃ s t es fs gs,
    (b.opening classes w).Entered s es ∧ s.Entered t fs ∧ t.Entered ⟨r.memory, w'⟩ gs ∧
      (∀ e ∈ es, e.stage = 0) ∧ (b.container classes).AllReady s.memory.readiness ∧
      (∀ e ∈ fs, e.stage ≤ 1) ∧
      fs.filterMap Event.staticCall? = (b.container classes).allStaticCalls ∧
      ∀ e ∈ gs, e.stage ≠ 1

/-- Static members are called as they were requested. -/
theorem callsStatics (b : Builder) (classes : ClassTable) (w : World) :
    b.CallsStatics classes w where
  inOrder r w' h := by
    obtain ⟨r', s, hstart, -, rfl⟩ := build_eq_some_iff.mp h
    obtain ⟨-, es, hes, hfirst, -⟩ :=
      (b.container classes).injects_start _ ((b.container classes).faithful_initial _) _ _ hstart
    exact ⟨es, hes, hfirst⟩
  once r w' h :=
    Container.stages_of_start ((b.container classes).faithful_initial _) (build_eq_ok_iff.mp h).2

/-- **Static members are injected once.** The static targets are the classes that ask for static
injection, in the order in which they first do. A build calls their static members target by target,
fields before methods, and passes over just those that are optional and lack a dependency. This
happens between the use of deferred bindings and the creation of singletons. Nothing that is done on
behalf of objects ever calls a static member. And what is done on behalf of a target is no more than
to resolve the arguments of its static members and to call them; so it is with those that it takes
over from its parts, which stay as they are. -/
theorem statics_injected_once (config : ContainerConfig) (ss : List Statement)
    (classes : ClassTable) (w : World) :
    let b := ((ofConfig config).install ss w).1
    let c := b.container classes
    (c.staticTargets = (requestedClasses ss).eraseDups ∧ c.staticTargets.Nodup) ∧
      b.CallsStatics classes ((ofConfig config).install ss w).2 ∧
      (∀ s s', c.Serves s s' → ∃ es, s.Entered s' es ∧ ∀ e ∈ es, e.stage = 0) ∧
      (∀ cls s r s', s.Faithful c → c.injectStatics c.resolve cls s = some (r, s') →
        (∃ e, classes.catalog cls = .error e ∧ r = .error e ∧ looking.Step s s') ∨
          ∃ cat t, classes.catalog cls = .ok cat ∧ looking.Step s t ∧ t.Faithful c ∧
            OneByOne (c.StaticPoint cat) (classes.staticPoints cls) t r s') ∧
      ∀ (o : Outline) (cls : ClassPath),
        (o.toTable.members cls).filter Member.isStatic = o.statics (o.size + 1) cls := by
  refine ⟨⟨staticTargets_container .., ?_⟩, callsStatics _ _ _,
    fun _ _ => Container.Serves.inFirstStage,
    fun _ _ _ _ => Container.oneByOne_of_injectStatics, ?_⟩
  · rw [staticTargets_container]
    exact nodup_eraseDups _
  · intro o cls
    rw [o.members_toTable]
    exact o.filter_isStatic_expand (o.size + 1) cls

/-- A belfry has a hall, and takes over what the hall needs. Static injection is requested for both
of them, and for the hall once more. The hall is also bound, and its members are injected. -/
def belfry : List Statement :=
  [.injectStatic "Belfry",
    .install [.bind .text none [] [] (.value "bronze"), .injectStatic "Hall"],
    .bind (.component "Hall") none [] [.asEagerSingleton] .injectableInstance,
    .install [.injectStatic "Hall", .injectStatic "Belfry"]]

/-- The classes of the belfry. There is a clock only if a number is bound. -/
def belfryClasses : ClassTable := Outline.toTable <| .ofList
  [("Hall",
      [.member ((Member.staticMethod "Hall" "ring" (.reading [.text] none)).requiring
          [.ofTy .text]),
        .member ((Member.staticField "Hall" "clock" (.ofTy .number)).withOptional true),
        .member (.field "Hall" "floor" (.ofTy .text)),
        .member (.staticField "Hall" "bell" (.ofTy .text))], .fresh fun _ => none),
    ("Belfry",
      [.member (.staticField "Belfry" "rope" (.ofTy .text)), .lifted "Hall"], .fresh fun _ => none)]

/-- The bell of the hall is hung before it is rung, first for the belfry and then for the hall
itself, and there is no clock. -/
theorem belfry_rings_twice : ∃ r w' s t es fs gs,
    ((ofConfig .standard).install belfry .new).1.build belfryClasses
        ((ofConfig .standard).install belfry .new).2 = some (.ok r, w') ∧
      s.Entered t fs ∧ t.Entered ⟨r.memory, w'⟩ gs ∧
      (((ofConfig .standard).install belfry .new).1.opening belfryClasses
        ((ofConfig .standard).install belfry .new).2).Entered s es ∧
      r.container.staticTargets = ["Belfry", "Hall"] ∧
      fs.filterMap Event.staticCall? = [("Belfry", "rope"), ("Hall", "bell"), ("Hall", "ring"),
        ("Hall", "bell"), ("Hall", "ring")] := by
  have hsucceeds : (((ofConfig .standard).install belfry .new).1.build belfryClasses
      ((ofConfig .standard).install belfry .new).2).map (·.1.isOk) = some true := by
    decide +kernel
  obtain ⟨⟨r | r, w'⟩, hbuild, hr⟩ := Option.map_eq_some_iff.mp hsucceeds
  · cases hr
  obtain ⟨⟨htargets, -⟩, hcalls, -⟩ :=
    statics_injected_once .standard belfry belfryClasses .new
  obtain ⟨s, t, es, fs, gs, hes, hfs, hgs, -, -, -, hstatics, -⟩ := hcalls.once r w' hbuild
  refine ⟨r, w', s, t, es, fs, gs, hbuild, hfs, hgs, hes, ?_, ?_⟩
  · rw [(build_eq_ok_iff.mp hbuild).1, htargets]
    decide
  · rw [hstatics]
    decide +kernel

end Builder

end Wiring
