import Wiring.Proofs.Agreement
import Wiring.Proofs.Caching
import Wiring.Proofs.Points

/-!
# Availability Never Changes

To find out whether a dependency can be resolved, a container looks at classes and does nothing
else, and what it finds does not depend on when it looks. It may keep catalogs that it built, but
these are the catalogs of the class table, which it would find in any case.

So the answers might as well be written down beforehand. `Container.knowing` is the container with
all catalogs known from the beginning. Its questions touch nothing at all, and its decisions to skip
a member are constants. It does the same as the container itself, by whatever operations: also
between the members of one object, in the middle of a build, and after failures. So at each of these
moments the container decides as the constant says.

## Conventions

Catalogs that are added to the kept ones stand behind them. The entries that are made in the journal
when it is asked for something tell of the member tables that were read and of the catalogs that
were built, and one more if a member is skipped.

## Main statements

* `Container.OnlyLooks`: nothing was done but to look at classes.
* `Container.exists_canResolve`: what the question does whether a dependency can be resolved.
* `Container.exists_injectMembers_skipped`, `Container.exists_injectStatics_skipped`: an injection
  of members that are all skipped.
* `Container.knowing`, `Container.Foreseen`: a container that decides by constants does the same.
* `Container.availability_never_changes`: answers stay the same, and asking leaves no trace.
-/

namespace Wiring

/-- Asides are no calls. -/
theorem Event.isCall_of_isAside {e : Event} (h : e.isAside = true) : e.isCall = false := by
  unfold isAside at h
  split at h
  · rfl
  · rfl
  · cases h

namespace Container

variable (c : Container)

/-! ### Looking at classes -/

/-- From a state to another nothing was done but to look at classes: entries of which `p` holds were
made in the journal, and catalogs of the class table were added to those that are kept. -/
structure OnlyLooks (p : Event → Bool) (s s' : State) : Prop where
  /-- All else is remembered as before. -/
  memory : s'.memory = { s.memory with catalogs := s'.memory.catalogs }
  /-- Nothing in the world changed but the journal. -/
  world : s'.world = { s.world with journal := s'.world.journal }
  /-- The journal tells only of looks. -/
  entries : ∃ es, s.Entered s' es ∧ ∀ e ∈ es, p e = true
  /-- Catalogs were added, and those that were kept are kept. -/
  catalogs : ∃ new, s'.memory.catalogs.entries = s.memory.catalogs.entries ++ new ∧
    ∀ e ∈ new, c.classes.catalog e.1 = .ok e.2

namespace OnlyLooks

variable {c} {p : Event → Bool} {s t u : State}

theorem refl (c : Container) (p : Event → Bool) (s : State) : c.OnlyLooks p s s :=
  ⟨rfl, rfl, ⟨[], .refl s, List.forall_mem_nil _⟩, ⟨[], (List.append_nil _).symm,
    List.forall_mem_nil _⟩⟩

theorem trans (h : c.OnlyLooks p s t) (h' : c.OnlyLooks p t u) : c.OnlyLooks p s u := by
  obtain ⟨es, hes, hp⟩ := h.entries
  obtain ⟨fs, hfs, hp'⟩ := h'.entries
  obtain ⟨new, hnew, hcatalog⟩ := h.catalogs
  obtain ⟨new', hnew', hcatalog'⟩ := h'.catalogs
  refine ⟨?_, ?_, ⟨es ++ fs, hes.trans hfs, ?_⟩, ⟨new ++ new', ?_, ?_⟩⟩
  · rw [h'.memory, h.memory]
  · rw [h'.world, h.world]
  · exact fun e he => (List.mem_append.mp he).elim (hp e) (hp' e)
  · rw [hnew', hnew, List.append_assoc]
  · exact fun e he => (List.mem_append.mp he).elim (hcatalog e) (hcatalog' e)

/-- An entry in the journal. -/
theorem emit {e : Event} (he : p e = true) (s : State) :
    c.OnlyLooks p s (s.inWorld (s.world.emit e)) := by
  refine ⟨rfl, rfl, ⟨[e], s.entered_emit e, fun e' he' => ?_⟩, ⟨[], (List.append_nil _).symm,
    List.forall_mem_nil _⟩⟩
  rwa [List.mem_singleton.mp he']

/-- A catalog that was not kept yet. -/
theorem keep {cls : ClassPath} {cat : Catalog} (hnone : s.memory.catalogs.get? cls = none)
    (hcat : c.classes.catalog cls = .ok cat) : c.OnlyLooks p s { s with
      memory := { s.memory with catalogs := s.memory.catalogs.insert cls cat } } := by
  have hnew : cls ∉ s.memory.catalogs.entries.map Prod.fst :=
    mt (s.memory.catalogs.contains_iff cls).mpr (by simp [Table.contains, hnone])
  refine ⟨rfl, rfl, ⟨[], .refl s, List.forall_mem_nil _⟩, ⟨[(cls, cat)], Table.put_of_not_mem hnew,
    fun e he => ?_⟩⟩
  rwa [List.mem_singleton.mp he]

/-- Who only looks at classes calls nothing. -/
theorem calls (hp : ∀ e, p e = true → e.isCall = false) (h : c.OnlyLooks p s t) :
    t.world.journal.toList.filter Event.isCall = s.world.journal.toList.filter Event.isCall := by
  obtain ⟨es, hes, hentries⟩ := h.entries
  have hnone : es.filter Event.isCall = [] :=
    List.filter_eq_nil_iff.mpr fun e he => by simp [hp e (hentries e he)]
  rw [State.Entered] at hes
  rw [hes, List.filter_append, hnone, List.append_nil]

end OnlyLooks

/-- The discipline of doing nothing but looking at classes. -/
def onlyLooking (p : Event → Bool) : Discipline where
  Inv s := s.Faithful c
  Step := c.OnlyLooks p
  Known _ _ := True
  refl := .refl c p
  trans := OnlyLooks.trans
  known_step _ h := h

variable {c} {p : Event → Bool} {s t : State}

theorem admitsReading_onlyLooking (hp : ∀ e : Event, e.isReading = true → p e = true) :
    (c.onlyLooking p).AdmitsReading c where
  read {s} hs e he := ⟨hs, .emit (hp e he) s⟩
  keep hs cls cat hnone hcat :=
    ⟨(c.admitsAll_faithful.looks.keep hs cls cat hnone hcat).1, .keep hnone hcat⟩

/-- The question whether a dependency can be resolved is always answered, in the same way whatever
the container has come to, and to answer it means only to look at classes. -/
theorem exists_canResolve (hs : s.Faithful c) (d : Dependency) :
    ∃ t, c.canResolve d s = some (.ok (c.isAvailable d), t) ∧ t.Faithful c ∧
      c.OnlyLooks Event.isReading s t := by
  have hrun : c.canResolve d s = some (.ok (c.available d s.notebook).1, _) := rfl
  rw [c.available_fst d hs] at hrun
  obtain ⟨ht, hlooks, -⟩ := (admitsReading_onlyLooking fun _ he => he).canResolve d s hs trivial _ _
    hrun
  exact ⟨_, hrun, ht, hlooks⟩

/-! ### Members that are skipped -/

/-- Readings are asides. -/
theorem isAside_of_isReading (e : Event) (he : e.isReading = true) : e.isAside = true :=
  (Event.aside_of_isReading he).1

/-- For a member that does not run, nothing is resolved. It is only looked at classes. -/
theorem exists_argumentsFor_skipped (self : Dependency → Run Instance) (name : String)
    (hs : s.Faithful c) {m : Member} (hm : c.runs m = false) :
    ∃ t, c.argumentsFor self name m.dependencies m.optional s = some (.ok none, t) ∧
      t.Faithful c ∧ c.OnlyLooks Event.isAside s t := by
  have hoptional : m.optional = true := by
    cases hopt : m.optional with
    | true => rfl
    | false =>
      rw [runs, hopt] at hm
      cases hm
  obtain ⟨nb, -, hfirst⟩ := c.firstUnavailable_eq m.dependencies hs
  obtain ⟨ht, hlooks, -⟩ := (admitsReading_onlyLooking isAside_of_isReading).firstUnavailable
    m.dependencies s hs trivial _ _ hfirst
  rw [runs_of_optional hoptional, Option.isNone_eq_false_iff, Option.isSome_iff_exists] at hm
  obtain ⟨d, hd⟩ := hm
  rw [hoptional, argumentsFor_optional, Run.bind_eq, hfirst, hd]
  exact ⟨_, rfl, ht, hlooks.trans (.emit rfl _)⟩

/-- If each of some members is skipped, then it is only looked at classes for all of them. -/
theorem exists_each_skipped {f : Member → Run Unit} {ms : List Member}
    (hf : ∀ m ∈ ms, ∀ s, s.Faithful c →
      ∃ t, f m s = some (.ok (), t) ∧ t.Faithful c ∧ c.OnlyLooks Event.isAside s t)
    (hs : s.Faithful c) :
    ∃ t, Run.each f ms s = some (.ok (), t) ∧ t.Faithful c ∧ c.OnlyLooks Event.isAside s t := by
  induction ms generalizing s with
  | nil => exact ⟨s, rfl, hs, .refl c _ s⟩
  | cons m ms ih =>
    obtain ⟨t, hfirst, ht, hlooks⟩ := hf m List.mem_cons_self s hs
    obtain ⟨u, hrest, hu, hlooks'⟩ := ih (fun n hn => hf n (List.mem_cons_of_mem m hn)) ht
    refine ⟨u, ?_, hu, hlooks.trans hlooks'⟩
    rw [Run.each, Run.andThen, hfirst]
    exact hrest

/-- Whether a class has a catalog, and which, is found out by looking at classes. -/
theorem exists_catalog_onlyLooks (hs : s.Faithful c) (cls : ClassPath) :
    ∃ t, c.catalog cls s = some (c.classes.catalog cls, t) ∧ t.Faithful c ∧
      c.OnlyLooks Event.isAside s t := by
  obtain ⟨t, hrun, -⟩ := c.catalog_run cls hs
  obtain ⟨ht, hlooks, -⟩ :=
    (admitsReading_onlyLooking isAside_of_isReading).catalog cls s hs trivial _ _ hrun
  exact ⟨t, hrun, ht, hlooks⟩

/-- For a member that does not run, nothing is done to an object but to look at classes. -/
theorem exists_injectPoint_skipped (hs : s.Faithful c) {m : Member} (hm : c.runs m = false)
    (cat : Catalog) (target : ClassPath) (id : Nat) :
    ∃ t, c.injectPoint c.resolve cat target id m s = some (.ok (), t) ∧ t.Faithful c ∧
      c.OnlyLooks Event.isAside s t := by
  unfold injectPoint
  cases m.role with
  | constructor => exact ⟨s, rfl, hs, .refl c _ s⟩
  | static form => exact ⟨s, rfl, hs, .refl c _ s⟩
  | instanceOf form path =>
    obtain ⟨t, harguments, ht, hlooks⟩ :=
      exists_argumentsFor_skipped c.resolve (cat.memberName m) hs hm
    refine ⟨t, ?_, ht, hlooks⟩
    dsimp only
    rw [Run.bind_eq, harguments]
    rfl

/-- To inject an object none of whose members runs is to look at classes. -/
theorem exists_injectMembers_skipped (hs : s.Faithful c) {cls : ClassPath} {cat : Catalog}
    (hcat : c.classes.catalog cls = .ok cat)
    (hskipped : ∀ m ∈ c.classes.instancePoints cls, c.runs m = false) (target : ClassPath)
    (id : Nat) : ∃ t, c.injectMembers cls target id s = some (.ok (), t) ∧
      c.OnlyLooks Event.isAside s t := by
  obtain ⟨t, hrun, ht, hlooks⟩ := exists_catalog_onlyLooks hs cls
  rw [hcat] at hrun
  rw [← ClassTable.instancePoints_of_catalog hcat] at hskipped
  obtain ⟨u, heach, -, hlooks'⟩ := exists_each_skipped
    (fun m hm s hs => exists_injectPoint_skipped hs (hskipped m hm) cat target id) ht
  refine ⟨u, ?_, hlooks.trans hlooks'⟩
  rw [injectMembers, injectObject, Run.bind_eq, hrun]
  exact heach

/-- To inject a class none of whose static members runs is to look at classes. -/
theorem exists_injectStatics_skipped (hs : s.Faithful c) {cls : ClassPath} {cat : Catalog}
    (hcat : c.classes.catalog cls = .ok cat)
    (hskipped : ∀ m ∈ c.classes.staticPoints cls, c.runs m = false) :
    ∃ t, c.injectStatics c.resolve cls s = some (.ok (), t) ∧ c.OnlyLooks Event.isAside s t := by
  obtain ⟨t, hrun, ht, hlooks⟩ := exists_catalog_onlyLooks hs cls
  rw [hcat] at hrun
  rw [← ClassTable.staticPoints_of_catalog hcat] at hskipped
  have hpoint : ∀ m ∈ cat.staticPoints, ∀ s, s.Faithful c →
      ∃ t, c.injectStaticPoint c.resolve cat m s = some (.ok (), t) ∧ t.Faithful c ∧
        c.OnlyLooks Event.isAside s t := by
    intro m hm s hs
    obtain ⟨v, harguments, hv, hstep⟩ :=
      exists_argumentsFor_skipped c.resolve (cat.memberName m) hs (hskipped m hm)
    refine ⟨v, ?_, hv, hstep⟩
    rw [injectStaticPoint, Run.bind_eq, harguments]
    rfl
  obtain ⟨u, heach, -, hlooks'⟩ := exists_each_skipped hpoint ht
  refine ⟨u, ?_, hlooks.trans hlooks'⟩
  rw [injectStatics, Run.bind_eq, hrun]
  exact heach

/-! ### A container that knows beforehand -/

variable (c)

/-- The container with all catalogs known from the beginning: to find one is to do nothing. -/
def knowing : Library := ⟨c, fun cls nb => (c.classes.catalog cls, nb)⟩

end Container

namespace Notebook

variable {α : Type} {f : α → Notebook → Bool × Notebook} {p : α → Bool}

/-- To ask a question of several things that touches nothing, touches nothing. -/
theorem all_const (hf : ∀ a nb, f a nb = (p a, nb)) (as : List α) (nb : Notebook) :
    Notebook.all f as nb = (as.all p, nb) := by
  induction as with
  | nil => rfl
  | cons a as ih =>
    rw [Notebook.all, hf, List.all_cons]
    cases p a with
    | true => exact ih
    | false => rfl

/-- The same for the search of the first thing for which the answer is no. -/
theorem firstFailing_const (hf : ∀ a nb, f a nb = (p a, nb)) (as : List α) (nb : Notebook) :
    Notebook.firstFailing f as nb = (as.find? (!p ·), nb) := by
  induction as with
  | nil => rfl
  | cons a as ih =>
    rw [Notebook.firstFailing, hf, List.find?_cons]
    cases p a with
    | true => exact ih
    | false => rfl

end Notebook

namespace Container

variable (c : Container)

/-- One step of the comparison of the check with the walk. -/
theorem availableWithin_knowing_step {depth : Nat} {path : List ClassPath} {d : Dependency}
    {nb : Notebook} (hnext : ∀ n path e nb, depth = n + 1 →
      c.knowing.availableWithin n path e nb = (c.survey c.classes.catalog n path e, nb)) :
    c.knowing.availableWithin depth path d nb =
      (c.survey c.classes.catalog depth path d, nb) := by
  have hcontainer : c.knowing.container = c := rfl
  have hfind : ∀ cls, c.knowing.find cls nb = (c.classes.catalog cls, nb) := fun _ => rfl
  rw [Library.availableWithin.eq_def, survey.eq_def]
  dsimp only
  rw [hcontainer]
  by_cases hbound : c.registry.contains d.key = true
  · rw [if_pos hbound, if_pos hbound]
  rw [if_neg hbound, if_neg hbound]
  cases c.justInTime d with
  | none => rfl
  | some cls =>
    dsimp only
    rw [hfind]
    cases c.classes.catalog cls with
    | error e => rfl
    | ok cat =>
      dsimp only
      cases cat.constructor with
      | none => rfl
      | some m =>
        dsimp only
        by_cases hpath : cls ∈ path
        · rw [if_pos hpath, if_pos hpath]
        rw [if_neg hpath, if_neg hpath]
        cases depth with
        | zero => rfl
        | succ n => exact Notebook.all_const (fun e nb => hnext n (cls :: path) e nb rfl) _ nb

/-- The container that knows beforehand answers with a constant, and touches nothing. -/
theorem available_knowing (d : Dependency) (nb : Notebook) :
    c.knowing.available d nb = (c.isAvailable d, nb) := by
  have hwithin : ∀ depth path d nb, c.knowing.availableWithin depth path d nb =
      (c.survey c.classes.catalog depth path d, nb) := by
    intro depth
    induction depth with
    | zero => exact fun _ _ _ => c.availableWithin_knowing_step fun _ _ _ _ hn => nomatch hn
    | succ depth ih =>
      refine fun _ _ _ => c.availableWithin_knowing_step fun n path e nb hn => ?_
      cases hn
      exact ih path e nb
  have hempty : Notebook.look ⟨∅, #[]⟩ c.classes = c.classes.catalog := rfl
  have hanswer := (c.availableWithin_fst c.classes.catalog c.classes.size [] d hempty).1
  rw [isAvailable, available, hanswer]
  exact hwithin _ [] d nb

/-- A member that runs gets the arguments of a required member without more ado. -/
theorem argumentsFor_knowing {m : Member} (hm : c.runs m = true)
    (self : Dependency → Run Instance) (name : String) :
    c.knowing.argumentsFor self name m.dependencies m.optional =
      c.argumentsFor self name m.dependencies false := by
  cases hoptional : m.optional with
  | false => rfl
  | true =>
    rw [runs_of_optional hoptional, Option.isNone_iff_eq_none] at hm
    funext s
    simp only [Library.argumentsFor, Library.firstUnavailable, Run.bind_eq, if_true, Run.note,
      Notebook.firstFailing_const c.available_knowing, hm]
    rfl

/-- A member that does not run is skipped without more ado. -/
theorem argumentsFor_knowing_skipped {m : Member} (hm : c.runs m = false) :
    ∃ d ∈ m.dependencies, c.isAvailable d = false ∧
      ∀ (self : Dependency → Run Instance) (name : String) (s : State),
        c.knowing.argumentsFor self name m.dependencies m.optional s =
          some (.ok none, s.inWorld (s.world.log (.skipped name d.key))) := by
  cases hoptional : m.optional with
  | false =>
    rw [runs, hoptional] at hm
    cases hm
  | true =>
    rw [runs_of_optional hoptional, Option.isNone_eq_false_iff, Option.isSome_iff_exists] at hm
    obtain ⟨d, hd⟩ := hm
    refine ⟨d, List.mem_of_find?_eq_some hd, by simpa using List.find?_some hd,
      fun self name s => ?_⟩
    simp only [Library.argumentsFor, Library.firstUnavailable, Run.bind_eq, if_true, Run.note,
      Notebook.firstFailing_const c.available_knowing, hd]
    rfl

variable {c} {s : State}

/-- The container and the one that knows beforehand are the same but for what becomes of their
notebooks. -/
theorem follows_knowing (hs : s.Faithful c) (ops : List Operation) :
    Follows True (State.Apart (catalogOf c.classes) c.knowing.find s s) (c.operate ops)
      (c.knowing.operate ops) := by
  rw [← c.operate_library ops]
  exact (c.agree_of_finds hs s fun _ _ => rfl).follows_operate ops

/-- After all operations, only catalogs of the class table are kept. -/
theorem faithful_operate (hs : s.Faithful c) {ops : List Operation} {t : State}
    {r : Except ConfigurationError (List (Except ConfigurationError Reply))}
    (hrun : c.operate ops s = some (r, t)) : t.Faithful c := by
  obtain ⟨u, -, hapart⟩ := (follows_knowing hs ops).eq_some (State.Apart.refl _ _ s) hrun
  obtain ⟨ls, hkeeps, -⟩ := hapart.looks
  rw [State.Faithful, hkeeps]
  exact ClassTable.faithful_replay hs ls

/-- By all operations, the container that knows beforehand comes to the same end, and never keeps a
catalog. -/
theorem sameOutcome_knowing (hs : s.Faithful c) (ops : List Operation) :
    SameOutcome (fun t u => t.SameBesides u ∧ u.memory.catalogs = s.memory.catalogs)
      (c.operate ops s) (c.knowing.operate ops s) := by
  have hfollows := follows_knowing hs ops
  refine ⟨fun r t hrun => ?_, hfollows.eq_none (State.Apart.refl _ _ s)⟩
  obtain ⟨u, hu, hapart⟩ := hfollows.eq_some (State.Apart.refl _ _ s) hrun
  refine ⟨u, hu, hapart.sameBesides (discreet_catalogOf _) fun _ _ => rfl, ?_⟩
  obtain ⟨ls, -, hreplay⟩ := hapart.looks
  have hkept := congrArg Notebook.catalogs hreplay
  rwa [Notebook.catalogs_replay fun _ _ => rfl] at hkept

/-- The decisions of a container are known beforehand. -/
structure Foreseen (c : Container) : Prop where
  /-- A question is answered with a constant, and nothing is touched. -/
  answers : ∀ d s, c.knowing.canResolve d s = some (.ok (c.isAvailable d), s)
  /-- A member that runs gets its arguments like a required one. -/
  runs : ∀ m, c.runs m = true → ∀ self name,
    c.knowing.argumentsFor self name m.dependencies m.optional =
      c.argumentsFor self name m.dependencies false
  /-- Any other member is skipped with a notice, and that is all. -/
  skips : ∀ m, c.runs m = false → ∃ d ∈ m.dependencies, c.isAvailable d = false ∧
    ∀ self name s, c.knowing.argumentsFor self name m.dependencies m.optional s =
      some (.ok none, s.inWorld (s.world.log (.skipped name d.key)))
  /-- With these decisions, whatever is done comes to the same end as without them. -/
  same : ∀ s, s.Faithful c → ∀ ops,
    SameOutcome (fun t u => t.SameBesides u ∧ u.memory.catalogs = s.memory.catalogs)
      (c.operate ops s) (c.knowing.operate ops s)

theorem foreseen (c : Container) : c.Foreseen where
  answers d s := by
    simp only [Library.canResolve, Run.note, available_knowing]
    rfl
  runs _ hm := c.argumentsFor_knowing hm
  skips _ hm := c.argumentsFor_knowing_skipped hm
  same _ := sameOutcome_knowing

/-- **Availability never changes.** A container keeps only catalogs of its classes, whatever is done
with it. To find out whether a dependency can be resolved, it only looks at classes: nothing is
called, kept or changed, but that catalogs are added to the kept ones. The answer is the same in all
states. It could be known beforehand: a container for which all answers and all decisions to skip a
member are constants, so that no check is ever made, comes to the same by all operations, builds and
failures included. So an optional member is skipped in all states or in none, whatever is resolved
for the others. An injection of which all members are skipped succeeds, and leaves all as it is but
for catalogs. -/
theorem availability_never_changes (c : Container) :
    ((∀ s, c.InUse s → s.Faithful c) ∧
      ∀ s, s.Faithful c → ∀ ops r t, c.operate ops s = some (r, t) → t.Faithful c) ∧
    (∀ d s, s.Faithful c → ∃ t, c.canResolve d s = some (.ok (c.isAvailable d), t) ∧
      c.OnlyLooks Event.isReading s t ∧ t.world.journal.toList.filter Event.isCall =
        s.world.journal.toList.filter Event.isCall) ∧
    c.Foreseen ∧
    (∀ (m : Member) self self' name name' s t, s.Faithful c → t.Faithful c →
      ((∃ s', c.argumentsFor self name m.dependencies m.optional s = some (.ok none, s')) ↔
        ∃ t', c.argumentsFor self' name' m.dependencies m.optional t = some (.ok none, t'))) ∧
    ∀ cls cat s, s.Faithful c → c.classes.catalog cls = .ok cat →
      ((∀ m ∈ c.classes.instancePoints cls, c.runs m = false) → ∀ target id,
        ∃ t, c.injectMembers cls target id s = some (.ok (), t) ∧
          c.OnlyLooks Event.isAside s t) ∧
      ((∀ m ∈ c.classes.staticPoints cls, c.runs m = false) →
        ∃ t, c.injectStatics c.resolve cls s = some (.ok (), t) ∧
          c.OnlyLooks Event.isAside s t) := by
  refine ⟨⟨fun s => InUse.faithful, fun s hs ops r t => faithful_operate hs⟩, fun d s hs => ?_,
    c.foreseen, fun m self self' name name' s t hs ht => ?_, fun cls cat s hs hcat => ⟨?_, ?_⟩⟩
  · obtain ⟨t, hrun, -, hlooks⟩ := exists_canResolve hs d
    exact ⟨t, hrun, hlooks, hlooks.calls fun e he => Event.isCall_of_isAside
      (isAside_of_isReading e he)⟩
  · rw [exists_skipped_iff self name hs m, exists_skipped_iff self' name' ht m]
  · exact fun hskipped target id => exists_injectMembers_skipped hs hcat hskipped target id
  · exact exists_injectStatics_skipped hs hcat

/-- A cellar may have a lamp on a shelf, and has a number painted on its door once for all, if there
are numbers. A shelf needs a wall. -/
def cellarClasses : ClassTable := .ofList
  [("Shelf", ⟨[(Member.constructor "Shelf" (.reading [.text] none)).requiring [.ofTy .text]], [],
      .fresh fun _ => none⟩),
    ("Cellar", ⟨[((Member.method "Cellar" "light" (.reading [] none)).requiring
          [.injectable "Shelf", .ofTy .number]).withOptional true,
        (Member.staticField "Cellar" "door" (.ofTy .number)).withOptional true], [],
      .fresh fun _ => none⟩)]

/-- A cellar without walls and numbers. -/
def cellar : Container := ⟨.standard, .empty, [], cellarClasses⟩

/-- A cellar that nothing has been injected into. -/
def darkCellar : State := ⟨cellar.initialMemory, (World.new.makeObject "Cellar").2⟩

/-- The cellar stays dark: it is found out that there is no shelf, and that is all. So it is after
its door and the cellar itself were looked after. -/
theorem cellar_stays_dark : ∃ r s,
    cellar.operate [.injectStatics "Cellar", .inject "Cellar" "Cellar" 0] darkCellar = some (r, s) ∧
      s.Faithful cellar ∧
      (∃ t, cellar.canResolve (.injectable "Shelf") s = some (.ok false, t) ∧
        cellar.OnlyLooks Event.isReading s t) ∧
      ∃ t, cellar.injectMembers "Cellar" "Cellar" 0 s = some (.ok (), t) ∧
        cellar.OnlyLooks Event.isAside s t ∧
        (t.world.object? 0).map Object.history = some [] := by
  have hdark : (cellar.operate [.injectStatics "Cellar", .inject "Cellar" "Cellar" 0]
      darkCellar).map (fun p => (p.2.world.object? 0).map Object.history) = some (some []) := by
    decide +kernel
  obtain ⟨⟨r, s⟩, hrun, hobject⟩ := Option.map_eq_some_iff.mp hdark
  obtain ⟨⟨-, hfaithful⟩, hanswers, -, -, hskipped⟩ := availability_never_changes cellar
  have hs := hfaithful _ (cellar.faithful_initial _) _ r s hrun
  obtain ⟨t, hshelf, hlooks, -⟩ := hanswers (.injectable "Shelf") s hs
  obtain ⟨cat, hcat⟩ : ∃ cat, cellar.classes.catalog "Cellar" = .ok cat := ⟨_, rfl⟩
  obtain ⟨u, hinject, hlooks'⟩ := (hskipped "Cellar" cat s hs hcat).1 (by decide +kernel) "Cellar" 0
  have hnone : cellar.isAvailable (.injectable "Shelf") = false := by decide +kernel
  rw [hnone] at hshelf
  refine ⟨r, s, hrun, hs, ⟨t, hshelf, hlooks⟩, u, hinject, hlooks', ?_⟩
  rw [hlooks'.world]
  exact hobject

end Container

end Wiring
