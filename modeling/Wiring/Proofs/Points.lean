import Wiring.Proofs.Exactness
import Wiring.Proofs.Lifting

/-!
# Which Members Are Injected

To inject the members of an object means to go through the members of its class, fields before
methods. An optional member is skipped if one of its dependencies is not available; every other
member runs. For a member that runs, the dependencies are resolved from the left, and then it is
called with what they came to. The first error ends it all.

Whether a member runs depends on the container and on the member alone. So which members are called
is known beforehand, although arguments are resolved in between: all that run, or those that come
before the one that fails.

## Conventions

The *calls* of an injection are the members that were called and the arguments that they were
given, in order. A member that refuses its arguments was called. What else is done while a
dependency is resolved, the calls of other members included, belongs to that dependency.

An injection is told by a relation and not by a function: what it comes to is told by the same
derivation as its calls, and there is no derivation for anything else to be done.

## Main statements

* `ClassTable.instancePoints`: the members to inject into an object, in order.
* `Container.Resolves`, `Container.Withholds`: all arguments of a member are had, or one is not.
* `Catalog.Performs`: a member is called with its arguments.
* `Container.InstancePoint`, `Container.PointByPoint`: what is done for a member, and for all.
* `Container.pointByPoint_of_injectMembers`: members are injected in turn.
* `Container.members_injected_in_turn`: which members are called, and with what.
-/

namespace Wiring

/-! ### Members in catalogs -/

/-- The members of a class that are injected into its objects, in the order of injection: fields
before methods, each in the order of declaration. -/
def ClassTable.instancePoints (t : ClassTable) (cls : ClassPath) : List Member :=
  ((t.members cls).filter Catalog.isInstancePoint).filter (·.kind = .field) ++
    ((t.members cls).filter Catalog.isInstancePoint).filter (·.kind = .method)

theorem ClassTable.instancePoints_of_catalog {t : ClassTable} {cls : ClassPath} {cat : Catalog}
    (h : t.catalog cls = .ok cat) : cat.instancePoints = t.instancePoints cls := by
  rw [(catalog_eq_ok h).2.2.1, sortByKind_eq _ fun m hm =>
    kind_of_isInstancePoint (List.mem_filter.mp hm).2]
  rfl

/-- The classes of the parts through which a member is reached from its object. -/
def Member.path (m : Member) : List ClassPath :=
  match m.role with
  | .instanceOf _ path => path
  | _ => []

/-! ### Calls of members -/

/-- A member is called with values for an object, what it comes to, and the state after it. The
call is entered in the journal in any case, and added to the history of the object if the member
accepts the values. -/
inductive Catalog.Performs (cat : Catalog) (id : Nat) (m : Member) (values : List Instance)
    (s : State) : Except ConfigurationError Unit → State → Prop where
  /-- The member accepts the values. -/
  | accepted {part : Nat} {w : World} {reading : Reading} :
    s.world.partAlong id m.path = (part, w) →
    reading = m.action (.ofList (cat.memberName m) values) → reading.error = none →
    Performs cat id m values s (.ok ())
      ((s.inWorld (w.record part (w.call m.name reading.values))).enter
        [.attempted m.owner (w.call m.name reading.values),
          .injected (m.path.getLast?.getD cat.cls) part (w.call m.name reading.values)])
  /-- The member refuses the values. -/
  | refused {part : Nat} {w : World} {reading : Reading} {e : ConfigurationError} :
    s.world.partAlong id m.path = (part, w) →
    reading = m.action (.ofList (cat.memberName m) values) → reading.error = some e →
    Performs cat id m values s (.error e)
      ((s.inWorld w).enter [.attempted m.owner (w.call m.name reading.values)])

/-- A member that runs on an object of its class is called. -/
theorem Catalog.performs_of_runMember {cat : Catalog} {id : Nat} {m : Member}
    {values : List Instance} {s t : State} {r : Except ConfigurationError Unit}
    (h : Container.runMember cat.cls m m.path cat.cls id (.ofList (cat.memberName m) values) s =
      some (r, t)) : cat.Performs id m values s r t := by
  rw [Container.runMember_self] at h
  simp only [Run.bind_eq, Run.act] at h
  rcases hpart : s.world.partAlong id m.path with ⟨part, w⟩
  rw [hpart] at h
  simp only [Container.attemptCall, Run.bind_eq, Run.read, Run.emit, Run.change] at h
  cases herror : (m.action (.ofList (cat.memberName m) values)).error with
  | some e =>
    rw [herror] at h
    cases h
    exact .refused hpart rfl herror
  | none =>
    rw [herror] at h
    cases h
    have hperforms : cat.Performs id m values s (.ok ()) _ := .accepted hpart rfl herror
    convert hperforms using 1
    simp [State.enter, State.inWorld, World.emit, World.record, World.modifyObject,
      ← Array.append_singleton]

namespace Container

variable (c : Container)

/-! ### Arguments -/

/-- Dependencies are resolved in turn, each of them to an instance. -/
inductive Resolves : List Dependency → State → List Instance → State → Prop where
  /-- There are none. -/
  | nil (s : State) : Resolves [] s [] s
  /-- The first one is resolved, and then the others. -/
  | cons {d : Dependency} {ds : List Dependency} {s t u : State} {i : Instance}
      {values : List Instance} : c.resolve d s = some (.ok i, t) → Resolves ds t values u →
      Resolves (d :: ds) s (i :: values) u

/-- A dependency that the member named `member` cannot do without is not had. -/
inductive Withholds (member : String) (d : Dependency) (s : State) :
    ConfigurationError → State → Prop where
  /-- It is neither bound nor may a class be constructed for it, so it is not even resolved. -/
  | missing : (c.registry.contains d.key || (c.justInTime d).isSome) = false →
    Withholds member d s (.missingBinding d.key.text member) s
  /-- It is resolved to an error. -/
  | failed {t : State} {e : ConfigurationError} :
    (c.registry.contains d.key || (c.justInTime d).isSome) = true →
    c.resolve d s = some (.error e, t) → Withholds member d s e t

/-- Dependencies are resolved in turn up to the first one that is not had. -/
def WithholdsOne (member : String) (ds : List Dependency) (s : State) (e : ConfigurationError)
    (u : State) : Prop :=
  ∃ pre d post values t, ds = pre ++ d :: post ∧ c.Resolves pre s values t ∧
    c.Withholds member d t e u

variable {c} {cat : Catalog} {cls : ClassPath} {id : Nat} {m : Member} {ms : List Member}
  {ds : List Dependency} {values : List Instance} {s t u : State} {e : ConfigurationError}
  {r : Except ConfigurationError Unit}

/-- There are as many arguments as dependencies. -/
theorem Resolves.length (h : c.Resolves ds s values t) : values.length = ds.length := by
  induction h with
  | nil s => rfl
  | cons _ _ ih => rw [List.length_cons, List.length_cons, ih]

/-- A dependency that a member cannot do without is resolved, or not had. -/
theorem resolveRequired_cases {member : String} {d : Dependency}
    {r : Except ConfigurationError Instance}
    (h : c.resolveRequired c.resolve member d s = some (r, t)) :
    (∃ i, r = .ok i ∧ c.resolve d s = some (.ok i, t)) ∨
      ∃ e, r = .error e ∧ c.Withholds member d s e t := by
  rw [resolveRequired] at h
  split at h
  · next hreach =>
    cases r with
    | ok i => exact .inl ⟨i, rfl, h⟩
    | error e => exact .inr ⟨e, rfl, .failed hreach h⟩
  · next hreach =>
    cases h
    exact .inr ⟨_, rfl, .missing (Bool.eq_false_iff.mpr hreach)⟩

/-- All dependencies that a member cannot do without are resolved, or one of them is not had. -/
theorem collect_cases {member : String} {r : Except ConfigurationError (List Instance)}
    (h : Run.collect (c.resolveRequired c.resolve member) ds s = some (r, u)) :
    (∃ values, r = .ok values ∧ c.Resolves ds s values u) ∨
      ∃ e, r = .error e ∧ c.WithholdsOne member ds s e u := by
  induction ds generalizing s u r with
  | nil =>
    cases h
    exact .inl ⟨[], rfl, .nil _⟩
  | cons d ds ih =>
    rw [Run.collect, Run.andThen] at h
    rcases hfirst : c.resolveRequired c.resolve member d s with _ | ⟨r', t⟩
    · rw [hfirst] at h
      cases h
    rw [hfirst] at h
    rcases resolveRequired_cases hfirst with ⟨i, rfl, hresolve⟩ | ⟨e, rfl, hnot⟩
    · rcases hrest : Run.collect (c.resolveRequired c.resolve member) ds t with _ | ⟨r'', v⟩
      · simp only [Run.andThen, hrest] at h
        cases h
      simp only [Run.andThen, hrest] at h
      rcases ih hrest with ⟨values, rfl, hvalues⟩ |
        ⟨e, rfl, pre, d', post, values, v', rfl, hpre, hd⟩
      · cases h
        exact .inl ⟨i :: values, rfl, .cons hresolve hvalues⟩
      · cases h
        exact .inr ⟨e, rfl, d :: pre, d', post, i :: values, v', rfl, .cons hresolve hpre, hd⟩
    · cases h
      exact .inr ⟨e, rfl, [], d, ds, [], _, rfl, .nil _, hnot⟩

/-! ### One member after another -/

variable (c)

/-- What is done for a member of an object: it is asked whether the member is to be skipped, its
dependencies are resolved, and it is called. The list holds the call, if it comes to one. -/
inductive InstancePoint (cat : Catalog) (id : Nat) (m : Member) (s : State) :
    List (Member × List Instance) → Except ConfigurationError Unit → State → Prop where
  /-- The member is skipped. -/
  | skipped {t : State} : c.runs m = false → looking.Step s t →
    InstancePoint cat id m s [] (.ok ()) t
  /-- An argument is not had, and the member is not called. -/
  | withheld {t u : State} {e : ConfigurationError} : c.runs m = true → looking.Step s t →
    c.WithholdsOne (cat.memberName m) m.dependencies t e u →
    InstancePoint cat id m s [] (.error e) u
  /-- All arguments are had, and the member is called with them. -/
  | called {t u v : State} {values : List Instance} {r : Except ConfigurationError Unit} :
    c.runs m = true → looking.Step s t → c.Resolves m.dependencies t values u →
    cat.Performs id m values u r v → InstancePoint cat id m s [(m, values)] r v

/-- What is done for the members of an object, one after another up to the first error, with the
calls that it comes to. -/
inductive PointByPoint (cat : Catalog) (id : Nat) : List Member → State →
    List (Member × List Instance) → Except ConfigurationError Unit → State → Prop where
  /-- There are no members left. -/
  | done (s : State) : PointByPoint cat id [] s [] (.ok ()) s
  /-- It is done for a member, and then for the others. -/
  | next {m : Member} {ms : List Member} {s t u : State} {r : Except ConfigurationError Unit}
      {calls calls' : List (Member × List Instance)} :
      c.InstancePoint cat id m s calls (.ok ()) t → PointByPoint cat id ms t calls' r u →
      PointByPoint cat id (m :: ms) s (calls ++ calls') r u
  /-- It comes to an error for a member. -/
  | failed {m : Member} {ms : List Member} {s t : State} {e : ConfigurationError}
      {calls : List (Member × List Instance)} :
      c.InstancePoint cat id m s calls (.error e) t →
      PointByPoint cat id (m :: ms) s calls (.error e) t

variable {c} {calls : List (Member × List Instance)}

/-- The injection of a member into an object of its class is one of the three things. -/
theorem instancePoint_of_injectPoint (hs : s.Faithful c)
    (hrole : ∃ form path, m.role = .instanceOf form path)
    (h : c.injectPoint c.resolve cat cat.cls id m s = some (r, u)) :
    ∃ calls, c.InstancePoint cat id m s calls r u := by
  obtain ⟨form, path, hrole⟩ := hrole
  have hpath : m.path = path := by rw [Member.path, hrole]
  rw [injectPoint, hrole] at h
  dsimp only at h
  rw [Run.bind_eq] at h
  rcases harguments : c.argumentsFor c.resolve (cat.memberName m) m.dependencies m.optional s with
    _ | ⟨r', v⟩
  · rw [harguments] at h
    cases h
  rw [harguments] at h
  rcases argumentsFor_cases hs harguments with ⟨hruns, hlooking, rfl⟩ |
    ⟨t, r'', hruns, hlooking, hcollect, rfl⟩
  · cases h
    exact ⟨[], .skipped hruns hlooking⟩
  rcases collect_cases hcollect with ⟨values, rfl, hvalues⟩ | ⟨e, rfl, hnot⟩
  · rw [← hpath] at h
    exact ⟨[(m, values)], .called hruns hlooking hvalues (Catalog.performs_of_runMember h)⟩
  · cases h
    exact ⟨[], .withheld hruns hlooking hnot⟩

/-- The members listed in a catalog are injected in turn. -/
theorem pointByPoint_of_each (hms : ∀ m ∈ ms, ∃ form path, m.role = .instanceOf form path)
    (hs : s.Faithful c)
    (h : Run.each (c.injectPoint c.resolve cat cat.cls id) ms s = some (r, u)) :
    ∃ calls, c.PointByPoint cat id ms s calls r u := by
  have hall := c.admitsAll_faithful
  induction ms generalizing s with
  | nil =>
    cases h
    exact ⟨[], .done _⟩
  | cons m ms ih =>
    rw [Run.each, Run.andThen] at h
    rcases hfirst : c.injectPoint c.resolve cat cat.cls id m s with _ | ⟨r', t⟩
    · rw [hfirst] at h
      cases h
    rw [hfirst] at h
    obtain ⟨calls, hpoint⟩ := instancePoint_of_injectPoint hs (hms m List.mem_cons_self) hfirst
    cases r' with
    | error e =>
      cases h
      exact ⟨calls, .failed hpoint⟩
    | ok =>
      have ht := (Discipline.Conduct.injectPoint hall.toAdmits hall.resolve cat cat.cls id m s hs
        trivial _ _ hfirst).1
      obtain ⟨calls', hrest⟩ := ih (fun n hn => hms n (List.mem_cons_of_mem m hn)) ht h
      exact ⟨calls ++ calls', .next hpoint hrest⟩

/-- Once the members of the class are known, they are injected in turn. -/
theorem pointByPoint_of_injectMembers (hcat : c.classes.catalog cls = .ok cat) (hs : s.Faithful c)
    (h : c.injectMembers cls cls id s = some (r, u)) :
    ∃ t calls, looking.Step s t ∧
      c.PointByPoint cat id (c.classes.instancePoints cls) t calls r u := by
  obtain ⟨t, hrun, -⟩ := c.catalog_run cls hs
  have hlooking := ((admitsLooks_looking c).catalog cls s trivial trivial _ _ hrun).2.1
  have ht := (c.admitsAll_faithful.looks.catalog cls s hs trivial _ _ hrun).1
  rw [hcat] at hrun
  rw [injectMembers, injectObject, Run.bind_eq, hrun] at h
  obtain rfl : cat.cls = cls := (ClassTable.catalog_eq_ok hcat).1
  obtain ⟨calls, hturn⟩ := pointByPoint_of_each
    (fun m hm => ClassTable.role_of_mem_instancePoints hcat hm) ht h
  rw [ClassTable.instancePoints_of_catalog hcat] at hturn
  exact ⟨t, calls, hlooking, hturn⟩

/-! ### Which members are called -/

/-- A member for which there is no error is called if it runs. -/
theorem InstancePoint.calls_eq (h : c.InstancePoint cat id m s calls (.ok ()) t) :
    calls.map Prod.fst = [m].filter c.runs := by
  cases h with
  | skipped hruns _ => rw [List.filter_cons_of_neg (by simp [hruns]), List.filter_nil, List.map_nil]
  | called hruns _ _ _ =>
    rw [List.filter_cons_of_pos hruns, List.filter_nil, List.map_cons, List.map_nil]

/-- A member is called with as many arguments as it has dependencies. -/
theorem InstancePoint.length (h : c.InstancePoint cat id m s calls r t) :
    ∀ p ∈ calls, p.2.length = p.1.dependencies.length := by
  cases h with
  | skipped => simp
  | withheld => simp
  | called _ _ hvalues _ =>
    intro p hp
    rw [List.mem_singleton.mp hp]
    exact hvalues.length

/-- If there is no error, the members that run are called. -/
theorem PointByPoint.calls_eq (h : c.PointByPoint cat id ms s calls r t) (hr : r = .ok ()) :
    calls.map Prod.fst = ms.filter c.runs := by
  induction h with
  | done s => rfl
  | next hpoint _ ih =>
    rw [List.map_append, hpoint.calls_eq, ih hr, ← List.filter_append, List.singleton_append]
  | failed => cases hr

/-- Every member is called with as many arguments as it has dependencies. -/
theorem PointByPoint.length (h : c.PointByPoint cat id ms s calls r t) :
    ∀ p ∈ calls, p.2.length = p.1.dependencies.length := by
  induction h with
  | done s => simp
  | next hpoint _ ih =>
    intro p hp
    exact (List.mem_append.mp hp).elim (hpoint.length p) (ih p)
  | failed hpoint => exact hpoint.length

/-- If there is an error, then for some member, after all is well with the members before. -/
theorem PointByPoint.exists_failed (h : c.PointByPoint cat id ms s calls r t) (hr : r = .error e) :
    ∃ pre m post before last u, ms = pre ++ m :: post ∧ calls = before ++ last ∧
      c.PointByPoint cat id pre s before (.ok ()) u ∧
        c.InstancePoint cat id m u last (.error e) t := by
  induction h with
  | done s => cases hr
  | @next m ms s _ _ _ calls calls' hpoint _ ih =>
    obtain ⟨pre, m', post, before, last, v, rfl, rfl, hpre, hlast⟩ := ih hr
    exact ⟨m :: pre, m', post, calls ++ before, last, v, rfl, (List.append_assoc ..).symm,
      .next hpoint hpre, hlast⟩
  | @failed m ms s t e' calls hpoint =>
    cases hr
    exact ⟨[], m, ms, [], calls, s, rfl, rfl, .done s, hpoint⟩

/-- For a member that comes to an error, it is known whether it was called. -/
theorem InstancePoint.error_cases (h : c.InstancePoint cat id m s calls (.error e) u) :
    c.runs m = true ∧ ∃ t, looking.Step s t ∧
      ((calls = [] ∧ c.WithholdsOne (cat.memberName m) m.dependencies t e u) ∨
        ∃ values v, calls = [(m, values)] ∧ c.Resolves m.dependencies t values v ∧
          cat.Performs id m values v (.error e) u) := by
  cases h with
  | withheld hruns hlooking hnot => exact ⟨hruns, _, hlooking, .inl ⟨rfl, hnot⟩⟩
  | called hruns hlooking hvalues hcall =>
    exact ⟨hruns, _, hlooking, .inr ⟨_, _, rfl, hvalues, hcall⟩⟩

/-- A member runs if it is required, or if all that it depends on can be resolved. -/
theorem runs_iff (hs : s.Faithful c) (m : Member) :
    c.runs m = true ↔ m.optional = false ∨
      ∀ d ∈ m.dependencies, ∃ t, c.canResolve d s = some (.ok true, t) := by
  simp only [runs, Bool.or_eq_true, Bool.not_eq_true', List.all_eq_true,
    c.canResolve_eq_true_iff _ hs]

/-- A member is skipped if it does not run, whatever dependencies are resolved to and whatever else
the container has come to. -/
theorem exists_skipped_iff (self : Dependency → Run Instance) (name : String) (hs : s.Faithful c)
    (m : Member) :
    (∃ t, c.argumentsFor self name m.dependencies m.optional s = some (.ok none, t)) ↔
      c.runs m = false := by
  cases hoptional : m.optional with
  | true =>
    rw [c.argumentsFor_eq_none_iff self name m.dependencies hs]
    simp [runs, hoptional]
  | false =>
    refine iff_of_false ?_ (by simp [runs, hoptional])
    rintro ⟨t, h⟩
    rw [argumentsFor_required, Run.bind_eq] at h
    rcases hcollect : Run.collect (c.resolveRequired self name) m.dependencies s with
      _ | ⟨_ | values, u⟩ <;> rw [hcollect] at h <;> cases h

/-- **Members are injected in turn.** To inject an object means to go through the members of its
class, fields before methods. A member runs if it is required or if all its dependencies can be
resolved; the container answers that in the same way in all its states. If the injection succeeds,
then just the members that run were called, each of them once and in order. For each of them all
dependencies were resolved before, from the left, and it was given what they came to. If the
injection fails, then for a member that runs, and those that run before it were called. For this
member, either a dependency was not had, which ended the matter, or all were had and it was called
as well. Nothing was done for the members behind it. -/
theorem members_injected_in_turn (c : Container) {cls : ClassPath} {cat : Catalog}
    (hcat : c.classes.catalog cls = .ok cat) (id : Nat) {s s' : State} (hs : s.Faithful c)
    {r : Except ConfigurationError Unit} (h : c.injectMembers cls cls id s = some (r, s')) :
    (∀ m t, t.Faithful c → (c.runs m = true ↔ m.optional = false ∨
      ∀ d ∈ m.dependencies, ∃ t', c.canResolve d t = some (.ok true, t'))) ∧
    ∃ t calls, looking.Step s t ∧
      c.PointByPoint cat id (c.classes.instancePoints cls) t calls r s' ∧
      (∀ p ∈ calls, p.2.length = p.1.dependencies.length) ∧
      (r = .ok () → calls.map Prod.fst = (c.classes.instancePoints cls).filter c.runs) ∧
      ∀ e, r = .error e → ∃ pre m post before last u v,
        c.classes.instancePoints cls = pre ++ m :: post ∧ c.runs m = true ∧
          calls = before ++ last ∧ before.map Prod.fst = pre.filter c.runs ∧
          c.PointByPoint cat id pre t before (.ok ()) u ∧ looking.Step u v ∧
          ((last = [] ∧ c.WithholdsOne (cat.memberName m) m.dependencies v e s') ∨
            ∃ values x, last = [(m, values)] ∧ c.Resolves m.dependencies v values x ∧
              cat.Performs id m values x (.error e) s') := by
  obtain ⟨t, calls, hlooking, hturn⟩ := pointByPoint_of_injectMembers hcat hs h
  refine ⟨fun m t ht => runs_iff ht m, t, calls, hlooking, hturn, hturn.length, hturn.calls_eq,
    fun e hr => ?_⟩
  obtain ⟨pre, m, post, before, last, u, hpoints, hcalls, hpre, hlast⟩ := hturn.exists_failed hr
  obtain ⟨hruns, v, hlooking', hcases⟩ := hlast.error_cases
  exact ⟨pre, m, post, before, last, u, v, hpoints, hruns, hcalls, hpre.calls_eq rfl, hpre,
    hlooking', hcases⟩

/-- The members of an observatory: it is opened under its dome, which was built before, may have a
number, and may be greeted. A planetarium has the same dome, but is opened only at an hour. -/
def observatoryClasses : ClassTable := .ofList
  [("Dome", ⟨[.constructor "Dome" (.reading [] none)], [], .fresh fun _ => none⟩),
    ("Observatory", ⟨[(Member.method "Observatory" "open" (.reading [.component "Dome", .text]
          none)).requiring [.injectable "Dome", .ofTy .text],
        ((Member.method "Observatory" "greet" (.reading [.text] none)).requiring
          [.ofTy .text]).withOptional true,
        (Member.field "Observatory" "number" (.ofTy .number)).withOptional true,
        .field "Observatory" "dome" (.injectable "Dome")], [], .fresh fun _ => none⟩),
    ("Planetarium", ⟨[(Member.method "Planetarium" "open" (.reading [.text, .number]
          none)).requiring [.ofTy .text, .ofTy .number, .injectable "Dome"],
        .field "Planetarium" "dome" (.injectable "Dome")], [], .fresh fun _ => none⟩)]

/-- An observatory with a view, but without numbers. -/
def observatory : Container :=
  ⟨.standard, .ofDefinitions [⟨.ofTy .text, .given ⟨0, .text "clear"⟩, .unscoped, false⟩], [],
    observatoryClasses⟩

/-- An observatory and a planetarium that nothing has been injected into. -/
def emptyDomes : State :=
  ⟨observatory.initialMemory, ((World.new.makeObject "Observatory").2.makeObject "Planetarium").2⟩

/-- The observatory gets its dome, no number, is opened and greeted. The planetarium gets its dome,
too, but is not opened for want of an hour. -/
theorem observatory_opens :
    emptyDomes.Faithful observatory ∧
      (∃ s' calls, observatory.injectMembers "Observatory" "Observatory" 0 emptyDomes =
          some (.ok (), s') ∧
        (calls : List (Member × List Instance)).map (fun p => (p.1.name, p.2.length)) =
          [("dome", 1), ("open", 2), ("greet", 1)]) ∧
      ∃ e s' pre m post, observatory.injectMembers "Planetarium" "Planetarium" 1 emptyDomes =
          some (.error e, s') ∧
        observatory.classes.instancePoints "Planetarium" = pre ++ m :: post ∧
        observatory.runs m = true ∧
        (s'.world.object? 1).map (·.history.map Call.member) = some ["dome"] := by
  have hs : emptyDomes.Faithful observatory := observatory.faithful_initial _
  obtain ⟨cat, hcat⟩ : ∃ cat, observatory.classes.catalog "Observatory" = .ok cat := ⟨_, rfl⟩
  obtain ⟨cat', hcat'⟩ : ∃ cat, observatory.classes.catalog "Planetarium" = .ok cat := ⟨_, rfl⟩
  refine ⟨hs, ?_, ?_⟩
  · have hopens : (observatory.injectMembers "Observatory" "Observatory" 0 emptyDomes).map
        Prod.fst = some (.ok ()) := by
      decide +kernel
    obtain ⟨⟨r, s'⟩, hrun, rfl⟩ := Option.map_eq_some_iff.mp hopens
    obtain ⟨-, t, calls, -, -, hlength, hcalls, -⟩ :=
      members_injected_in_turn observatory hcat 0 hs hrun
    have hruns : ((observatory.classes.instancePoints "Observatory").filter observatory.runs).map
        (fun m => (m.name, m.dependencies.length)) = [("dome", 1), ("open", 2), ("greet", 1)] := by
      decide +kernel
    refine ⟨s', calls, hrun, ?_⟩
    rw [← hruns, ← hcalls rfl, List.map_map]
    exact List.map_congr_left fun p hp => congrArg (p.1.name, ·) (hlength p hp)
  · have hfails : (observatory.injectMembers "Planetarium" "Planetarium" 1 emptyDomes).map
        (fun p => (p.1, (p.2.world.object? 1).map (·.history.map Call.member))) =
          some (.error (.missingBinding "Key[u64]" "Planetarium.open"), some ["dome"]) := by
      decide +kernel
    obtain ⟨⟨r, s'⟩, hrun, heq⟩ := Option.map_eq_some_iff.mp hfails
    obtain ⟨rfl, hhistory⟩ := Prod.mk.inj heq
    obtain ⟨-, t, calls, -, -, -, -, herror⟩ :=
      members_injected_in_turn observatory hcat' 1 hs hrun
    obtain ⟨pre, m, post, -, -, -, -, hpoints, hruns, -⟩ := herror _ rfl
    exact ⟨_, s', pre, m, post, hrun, hpoints, hruns, hhistory⟩

end Container

end Wiring
