import Wiring.Proofs.Apart
import Wiring.Proofs.Stability

/-!
# Members of Another Class

The members that a class declares can be injected into objects of that class only. That an object is
of another class is noticed late: not before all arguments of a member have been resolved, for it is
noticed by the member itself. Until then the container goes through the members as for any other
object. Those that do not run are skipped. The first one that runs ends the injection, be it that an
argument is not had or that all are. So the object is never touched, and if no member runs, then it
is not even noticed that it is of another class.

## Conventions

An object that is being injected is in the hands of whoever asks for the injection. So it stands
apart, together with its parts: the container does not come across it by itself.

Members that were taken over from a part belong to the class that took them over. They are not
injected into objects of the class that they come from, either.

## Main statements

* `Container.exists_injectMembers_firing`: the first member that runs ends the injection.
* `Container.Rebuffs`: what it comes to to inject the members of another class.
* `Container.StandsApart.rebuffs`: the object and its parts stay as they are.
* `Container.injectMembers_eq_of_ne`: the object does not matter.
* `Container.members_of_another_class`: all of this.
-/

namespace Wiring

namespace Container

variable {c : Container} {X : Nat → Prop} {p : Event → Bool} {s t u : State} {m : Member}
  {cls target : ClassPath} {cat : Catalog} {id : Nat}

/-! ### Looking at classes from apart -/

/-- Who only looks at classes begins to refer to nothing. -/
theorem OnlyLooks.mentions (h : c.OnlyLooks p s t) (hid : c.Mentions t id) : c.Mentions s id := by
  refine hid.congr (by rw [h.memory]) (by rw [h.memory]) (fun k => ?_) (by rw [h.world])
  rw [h.world]
  cases k <;> rfl

/-- What stands apart is left as it is by looks. -/
theorem StandsApart.onlyLooks (hs : c.StandsApart X s) (h : c.OnlyLooks p s t) :
    (c.standingApart X).Moves s t :=
  (c.mindsThings_standingApart X).quiet hs (by rw [h.world]) fun _ hid => .inl (h.mentions hid)

/-! ### The first member that runs -/

/-- A member does not run if it is optional and one of its dependencies is not available. -/
theorem runs_eq_false_iff (hs : s.Faithful c) (m : Member) :
    c.runs m = false ↔ m.optional = true ∧
      ∃ d ∈ m.dependencies, ∃ t, c.canResolve d s = some (.ok false, t) := by
  have hanswer : ∀ d, (∃ t, c.canResolve d s = some (.ok false, t)) ↔ c.isAvailable d = false := by
    intro d
    obtain ⟨t, hrun, -⟩ := exists_canResolve hs d
    rw [hrun]
    constructor
    · rintro ⟨t', heq⟩
      exact Except.ok.inj (Prod.mk.inj (Option.some.inj heq)).1
    · exact fun hfalse => ⟨t, by rw [hfalse]⟩
  simp only [hanswer, runs, Bool.or_eq_false_iff, Bool.not_eq_false', List.all_eq_false,
    Bool.not_eq_true]

/-- For a member that runs, arguments are resolved as for one that is required, once it was looked
at classes. -/
theorem exists_argumentsFor_runs (self : Dependency → Run Instance) (name : String)
    (hs : s.Faithful c) (hm : c.runs m = true) :
    ∃ t, t.Faithful c ∧ c.OnlyLooks Event.isAside s t ∧
      c.argumentsFor self name m.dependencies m.optional s =
        c.argumentsFor self name m.dependencies false t := by
  cases hoptional : m.optional with
  | false => exact ⟨s, hs, .refl c _ s, rfl⟩
  | true =>
    obtain ⟨nb, -, hfirst⟩ := c.firstUnavailable_eq m.dependencies hs
    obtain ⟨ht, hlooks, -⟩ := (admitsReading_onlyLooking isAside_of_isReading).firstUnavailable
      m.dependencies s hs trivial _ _ hfirst
    rw [runs_of_optional hoptional, Option.isNone_iff_eq_none] at hm
    refine ⟨_, ht, hlooks, ?_⟩
    rw [argumentsFor_optional, Run.bind_eq, hfirst, hm]

/-- A member that runs comes to an error for an object of another class, at the latest when its
arguments are there. -/
theorem exists_injectPoint_firing (hs : s.Faithful c) (hne : target ≠ cat.cls)
    (hrole : ∃ form path, m.role = .instanceOf form path) (hm : c.runs m = true) (id : Nat) :
    ∃ t, t.Faithful c ∧ c.OnlyLooks Event.isAside s t ∧
      c.injectPoint c.resolve cat target id m s =
        (do
          let _ ← Run.collect (c.resolveRequired c.resolve (cat.memberName m)) m.dependencies
          .fail (.typeMismatch (TypeName.short cat.cls) "injection target") : Run Unit) t := by
  obtain ⟨form, path, hrole⟩ := hrole
  obtain ⟨t, ht, hlooks, harguments⟩ :=
    exists_argumentsFor_runs c.resolve (cat.memberName m) hs hm
  refine ⟨t, ht, hlooks, ?_⟩
  rw [injectPoint, hrole]
  dsimp only
  rw [Run.bind_eq, harguments, argumentsFor_required, Run.bind_eq, Run.bind_eq]
  rcases Run.collect (c.resolveRequired c.resolve (cat.memberName m)) m.dependencies t with
    _ | ⟨_ | values, u⟩
  · rfl
  · rfl
  · exact congrFun (runMember_of_ne hne m path id _) u

/-- The first member that runs ends the injection of an object of another class. Before that, it is
only looked at classes. -/
theorem exists_injectMembers_firing (hs : s.Faithful c) (hcat : c.classes.catalog cls = .ok cat)
    (hne : target ≠ cls) {pre post : List Member}
    (hpoints : c.classes.instancePoints cls = pre ++ m :: post)
    (hpre : ∀ n ∈ pre, c.runs n = false) (hm : c.runs m = true) (id : Nat) :
    ∃ t, t.Faithful c ∧ c.OnlyLooks Event.isAside s t ∧
      c.injectMembers cls target id s =
        (do
          let _ ← Run.collect (c.resolveRequired c.resolve (cat.memberName m)) m.dependencies
          .fail (.typeMismatch (TypeName.short cls) "injection target") : Run Unit) t := by
  obtain rfl : cat.cls = cls := (ClassTable.catalog_eq_ok hcat).1
  rw [← ClassTable.instancePoints_of_catalog hcat] at hpoints
  obtain ⟨t, hrun, ht, hlooks⟩ := exists_catalog_onlyLooks hs cat.cls
  obtain ⟨u, hskipped, hu, hlooks'⟩ := exists_each_skipped
    (fun n hn s hs => exists_injectPoint_skipped hs (hpre n hn) cat target id) ht
  obtain ⟨v, hv, hlooks'', hfiring⟩ := exists_injectPoint_firing hu hne
    (ClassTable.role_of_mem_instancePoints hcat (by rw [hpoints]; simp)) hm id
  refine ⟨v, hv, (hlooks.trans hlooks').trans hlooks'', ?_⟩
  rw [hcat] at hrun
  rw [injectMembers, injectObject, Run.bind_eq, hrun]
  dsimp only
  rw [injectPoints, hpoints, Run.each_append, Run.andThen, hskipped]
  dsimp only
  rw [Run.each, Run.andThen, hfiring, Run.bind_eq]
  -- nothing is left to do, whether the arguments are had or not
  rcases Run.collect (c.resolveRequired c.resolve (cat.memberName m)) m.dependencies v with
    _ | ⟨_ | values, w⟩ <;> rfl

/-! ### What it comes to -/

variable (c)

/-- What it comes to to inject the members of `cls` into an object of another class, and the state
after it. -/
inductive Rebuffs (cls : ClassPath) (s : State) :
    Except ConfigurationError Unit → State → Prop where
  /-- The class has no catalog, and that is the error. -/
  | noCatalog {e : ConfigurationError} {t : State} : c.classes.catalog cls = .error e →
    c.OnlyLooks Event.isAside s t → Rebuffs cls s (.error e) t
  /-- No member runs, and nothing is noticed. -/
  | skipped {cat : Catalog} {t : State} : c.classes.catalog cls = .ok cat →
    (∀ m ∈ c.classes.instancePoints cls, c.runs m = false) → c.OnlyLooks Event.isAside s t →
    Rebuffs cls s (.ok ()) t
  /-- An argument of the first member that runs is not had, and that is the error. -/
  | withheld {cat : Catalog} {pre post : List Member} {m : Member} {t u : State}
    {e : ConfigurationError} : c.classes.catalog cls = .ok cat →
    c.classes.instancePoints cls = pre ++ m :: post → (∀ n ∈ pre, c.runs n = false) →
    c.runs m = true → c.OnlyLooks Event.isAside s t →
    c.WithholdsOne (cat.memberName m) m.dependencies t e u → Rebuffs cls s (.error e) u
  /-- All arguments of the first member that runs are had, and it refuses the object. -/
  | refused {cat : Catalog} {pre post : List Member} {m : Member} {t u : State}
    {values : List Instance} : c.classes.catalog cls = .ok cat →
    c.classes.instancePoints cls = pre ++ m :: post → (∀ n ∈ pre, c.runs n = false) →
    c.runs m = true → c.OnlyLooks Event.isAside s t → c.Resolves m.dependencies t values u →
    Rebuffs cls s (.error (.typeMismatch (TypeName.short cls) "injection target")) u

variable {c} {r : Except ConfigurationError Unit}

/-- No member of a list runs, or there is a first one that does. -/
theorem skipped_or_firing (c : Container) (ms : List Member) :
    (∀ m ∈ ms, c.runs m = false) ∨ ∃ pre m post, ms = pre ++ m :: post ∧
      (∀ n ∈ pre, c.runs n = false) ∧ c.runs m = true := by
  induction ms with
  | nil => exact .inl (List.forall_mem_nil _)
  | cons m ms ih =>
    cases hm : c.runs m with
    | true => exact .inr ⟨[], m, ms, rfl, List.forall_mem_nil _, hm⟩
    | false =>
      rcases ih with hskipped | ⟨pre, n, post, rfl, hpre, hn⟩
      · exact .inl (List.forall_mem_cons.mpr ⟨hm, hskipped⟩)
      · exact .inr ⟨m :: pre, n, post, rfl, List.forall_mem_cons.mpr ⟨hm, hpre⟩, hn⟩

/-- Without a catalog there is nothing to inject. -/
theorem exists_injectMembers_noCatalog (hs : s.Faithful c) {e : ConfigurationError}
    (hcat : c.classes.catalog cls = .error e) (target : ClassPath) (id : Nat) :
    ∃ t, c.injectMembers cls target id s = some (.error e, t) ∧
      c.OnlyLooks Event.isAside s t := by
  obtain ⟨t, hrun, -, hlooks⟩ := exists_catalog_onlyLooks hs cls
  refine ⟨t, ?_, hlooks⟩
  rw [injectMembers, injectObject, Run.bind_eq, hrun, hcat]

/-- An injection into an object of another class comes to one of these ends. -/
theorem rebuffs_of_injectMembers (hs : s.Faithful c) (hne : target ≠ cls)
    (h : c.injectMembers cls target id s = some (r, u)) : c.Rebuffs cls s r u := by
  cases hcat : c.classes.catalog cls with
  | error e =>
    obtain ⟨t, hrun, hlooks⟩ := exists_injectMembers_noCatalog hs hcat target id
    obtain ⟨rfl, rfl⟩ := Prod.mk.inj (Option.some.inj (hrun.symm.trans h))
    exact .noCatalog hcat hlooks
  | ok cat =>
    rcases c.skipped_or_firing (c.classes.instancePoints cls) with
      hskipped | ⟨pre, m, post, hpoints, hpre, hm⟩
    · obtain ⟨t, hrun, hlooks⟩ := exists_injectMembers_skipped hs hcat hskipped target id
      obtain ⟨rfl, rfl⟩ := Prod.mk.inj (Option.some.inj (hrun.symm.trans h))
      exact .skipped hcat hskipped hlooks
    · obtain ⟨t, -, hlooks, hrun⟩ := exists_injectMembers_firing hs hcat hne hpoints hpre hm id
      rw [hrun, Run.bind_eq] at h
      rcases hcollect : Run.collect (c.resolveRequired c.resolve (cat.memberName m)) m.dependencies
        t with _ | ⟨r', v⟩
      · rw [hcollect] at h
        cases h
      rw [hcollect] at h
      rcases collect_cases hcollect with ⟨values, rfl, hvalues⟩ | ⟨e, rfl, hnot⟩
      · cases h
        exact .refused hcat hpoints hpre hm hlooks hvalues
      · cases h
        exact .withheld hcat hpoints hpre hm hlooks hnot

/-- It succeeds only if no member runs. -/
theorem Rebuffs.of_ok (h : c.Rebuffs cls s (.ok ()) u) :
    (∃ cat, c.classes.catalog cls = .ok cat) ∧
      ∀ m ∈ c.classes.instancePoints cls, c.runs m = false := by
  cases h with
  | skipped hcat hskipped _ => exact ⟨⟨_, hcat⟩, hskipped⟩

/-! ### The object -/

/-- What stands apart is left as it is while dependencies are resolved in turn. -/
theorem StandsApart.resolves {ds : List Dependency} {values : List Instance}
    (hs : c.StandsApart X s) (h : c.Resolves ds s values t) : (c.standingApart X).Moves s t := by
  induction h with
  | nil s => exact ⟨hs, (c.standingApart X).refl s⟩
  | cons hresolve _ ih =>
    have hfirst := hs.resolve hresolve
    exact hfirst.trans (ih hfirst.1)

/-- So it is if one of them is not had. -/
theorem StandsApart.withholdsOne {name : String} {ds : List Dependency} {e : ConfigurationError}
    (hs : c.StandsApart X s) (h : c.WithholdsOne name ds s e u) :
    (c.standingApart X).Moves s u := by
  obtain ⟨pre, d, post, values, t, -, hpre, hd⟩ := h
  have ht := hs.resolves hpre
  cases hd with
  | missing _ => exact ht
  | failed _ hresolve => exact ht.trans (ht.1.resolve hresolve)

/-- What stands apart is left as it is by an injection of members of another class, be it the object
itself. -/
theorem StandsApart.rebuffs (hs : c.StandsApart X s) (h : c.Rebuffs cls s r u) :
    (c.standingApart X).Moves s u := by
  cases h with
  | noCatalog _ hlooks => exact hs.onlyLooks hlooks
  | skipped _ _ hlooks => exact hs.onlyLooks hlooks
  | withheld _ _ _ _ hlooks hnot =>
    have ht := hs.onlyLooks hlooks
    exact ht.trans (ht.1.withholdsOne hnot)
  | refused _ _ _ _ hlooks hvalues =>
    have ht := hs.onlyLooks hlooks
    exact ht.trans (ht.1.resolves hvalues)

/-! ### What does not matter -/

/-- Objects of other classes are all the same to a container. -/
theorem injectMembers_eq_of_ne (hs : s.Faithful c) {target' : ClassPath} (hne : target ≠ cls)
    (hne' : target' ≠ cls) (id id' : Nat) :
    c.injectMembers cls target' id' s = c.injectMembers cls target id s := by
  obtain ⟨t, hrun, -⟩ := c.catalog_run cls hs
  rw [injectMembers, injectMembers, injectObject, injectObject, Run.bind_eq, Run.bind_eq, hrun]
  cases hcat : c.classes.catalog cls with
  | error e => rfl
  | ok cat =>
    obtain rfl : cat.cls = cls := (ClassTable.catalog_eq_ok hcat).1
    have hpoint :
        c.injectPoint c.resolve cat target' id' = c.injectPoint c.resolve cat target id := by
      funext m
      simp only [injectPoint, runMember_of_ne hne, runMember_of_ne hne']
    dsimp only
    rw [injectPoints, injectPoints, hpoint]

/-- A member that was taken over needs what it needed before, and runs if it did. -/
theorem runs_of_lift {inner : ClassPath} {n : Member} (h : m.lift inner = some n) :
    n.dependencies = m.dependencies ∧ c.runs n = c.runs m := by
  unfold Member.lift at h
  split at h
  · cases h
  · cases h
    exact ⟨rfl, rfl⟩
  · cases h
    exact ⟨rfl, rfl⟩

/-- **The members of another class never touch an object.** Let `cls` and `target` be different
classes. A member of `cls` does not run if it is optional and one of its dependencies is not
available. To inject the members of `cls` into an object of class `target` succeeds exactly if `cls`
has a catalog and none of its members runs. If it has no catalog, then that is the error. Otherwise
it is only looked at classes up to the first member that runs. For this member, arguments are
resolved, and if all are had, then it comes to a type mismatch. Nothing else is done: no member of
`cls` is called, and no argument is resolved for a later one. The object does not matter, for it
comes to the same for all objects of other classes than `cls`. What stands apart is left exactly as
it was, also the object itself with its parts. All this holds for whatever members `cls` has. Some
may be taken over from a part, even of class `target`: these run if they did before. -/
theorem members_of_another_class (c : Container) {cls target : ClassPath} (hne : target ≠ cls)
    (id : Nat) {s : State} (hs : s.Faithful c) :
    (∀ m, c.runs m = false ↔ m.optional = true ∧
      ∃ d ∈ m.dependencies, ∃ t, c.canResolve d s = some (.ok false, t)) ∧
    ((∃ t, c.injectMembers cls target id s = some (.ok (), t)) ↔
      (∃ cat, c.classes.catalog cls = .ok cat) ∧
        ∀ m ∈ c.classes.instancePoints cls, c.runs m = false) ∧
    (∀ e, c.classes.catalog cls = .error e →
      ∃ t, c.injectMembers cls target id s = some (.error e, t) ∧
        c.OnlyLooks Event.isAside s t) ∧
    (∀ cat pre m post, c.classes.catalog cls = .ok cat →
      c.classes.instancePoints cls = pre ++ m :: post → (∀ n ∈ pre, c.runs n = false) →
      c.runs m = true → ∃ t, t.Faithful c ∧ c.OnlyLooks Event.isAside s t ∧
        c.injectMembers cls target id s =
          (do
            let _ ← Run.collect (c.resolveRequired c.resolve (cat.memberName m)) m.dependencies
            .fail (.typeMismatch (TypeName.short cls) "injection target") : Run Unit) t) ∧
    (∀ r u, c.injectMembers cls target id s = some (r, u) → c.Rebuffs cls s r u ∧
      ∀ X, c.StandsApart X s → c.StandsApart X u ∧
        ∀ id', X id' → u.world.things[id']? = s.world.things[id']?) ∧
    (∀ target' id', target' ≠ cls →
      c.injectMembers cls target' id' s = c.injectMembers cls target id s) ∧
    ∀ inner m n, Member.lift inner m = some n →
      n.dependencies = m.dependencies ∧ c.runs n = c.runs m := by
  refine ⟨runs_eq_false_iff hs, ⟨?_, ?_⟩, fun e hcat => ?_, ?_, fun r u hrun => ?_,
    fun target' id' hne' => injectMembers_eq_of_ne hs hne hne' id id',
    fun inner m n hlift => runs_of_lift hlift⟩
  · rintro ⟨t, hrun⟩
    exact (rebuffs_of_injectMembers hs hne hrun).of_ok
  · rintro ⟨⟨cat, hcat⟩, hskipped⟩
    obtain ⟨t, hrun, -⟩ := exists_injectMembers_skipped hs hcat hskipped target id
    exact ⟨t, hrun⟩
  · exact exists_injectMembers_noCatalog hs hcat target id
  · exact fun cat pre m post hcat hpoints hpre hm =>
      exists_injectMembers_firing hs hcat hne hpoints hpre hm id
  · have hrebuffs := rebuffs_of_injectMembers hs hne hrun
    exact ⟨hrebuffs, fun X hX => hX.rebuffs hrebuffs⟩

/-- A wagon has a number painted on it, if there are numbers, and carries a load. A trailer pulls a
wagon and takes over all of its members. A sled only has the number of a wagon. -/
def wagonClasses : ClassTable :=
  let number := (Member.field "Wagon" "number" (.ofTy .number)).withOptional true
  let load := (Member.method "Wagon" "load" (.reading [.text] none)).requiring [.ofTy .text]
  .ofList
    [("Wagon", ⟨[load, number], [], .fresh fun _ => none⟩),
      ("Trailer", ⟨[load, number].filterMap (Member.lift "Wagon"), [], .fresh fun _ => none⟩),
      ("Sled", ⟨[number].filterMap (Member.lift "Wagon"), [], .fresh fun _ => none⟩)]

/-- A yard with hay to load, but without numbers. -/
def yard : Container :=
  ⟨.standard, .ofDefinitions [⟨.ofTy .text, .given ⟨0, .text "hay"⟩, .unscoped, false⟩], [],
    wagonClasses⟩

/-- A yard in which nothing has happened. -/
def newYard : State := ⟨yard.initialMemory, .new⟩

/-- Nothing is there, and nothing is referred to. -/
theorem whole_newYard : yard.Whole newYard where
  grounded := grounded_initial World.grounded_new fun b hb => by
    have hmem := Draft.mem_of_lookup hb
    rw [List.mem_singleton.mp hmem]
    refine ⟨fun i id hi hv => ?_, fun d cls id hd => nomatch hd⟩
    cases hi
    cases hv
  parts id cls part howns := by
    obtain ⟨o, ho, -⟩ := Option.bind_eq_some_iff.mp howns
    cases ho

/-- A new wagon in the yard is left as it is, though it may have the parts of a trailer: it is asked
for hay and then refused, for it is no trailer. It is taken for a sled, as there are no numbers. -/
theorem wagon_stays_empty :
    let s := newYard.inWorld (newYard.world.makeObject "Wagon").2
    (∃ u, yard.injectMembers "Trailer" "Wagon" 0 s =
        some (.error (.typeMismatch "Trailer" "injection target"), u) ∧
      (u.world.object? 0).map Object.history = some []) ∧
    ∃ u, yard.injectMembers "Sled" "Wagon" 0 s = some (.ok (), u) ∧
      (u.world.object? 0).map Object.history = some [] := by
  intro s
  have hs : s.Faithful yard := yard.faithful_initial _
  have hapart : yard.StandsApart (· = 0) s := whole_newYard.standsApart_makeObject "Wagon"
  have hnew : (s.world.object? 0).map Object.history = some [] := by decide +kernel
  have hsame : ∀ u : State, u.world.things[0]? = s.world.things[0]? →
      (u.world.object? 0).map Object.history = some [] := by
    intro u hu
    rw [World.object?, hu, ← World.object?, hnew]
  constructor
  · have hne : ("Wagon" : ClassPath) ≠ "Trailer" := by decide
    obtain ⟨-, -, -, -, hends, -⟩ := members_of_another_class yard hne 0 hs
    have hfails : (yard.injectMembers "Trailer" "Wagon" 0 s).map Prod.fst =
        some (.error (.typeMismatch "Trailer" "injection target")) := by
      decide +kernel
    obtain ⟨⟨r, u⟩, hrun, rfl⟩ := Option.map_eq_some_iff.mp hfails
    exact ⟨u, hrun, hsame u (((hends _ u hrun).2 _ hapart).2 0 rfl)⟩
  · have hne : ("Wagon" : ClassPath) ≠ "Sled" := by decide
    obtain ⟨-, hok, -, -, hends, -⟩ := members_of_another_class yard hne 0 hs
    obtain ⟨u, hrun⟩ := hok.mpr ⟨⟨_, rfl⟩, by decide +kernel⟩
    exact ⟨u, hrun, hsame u (((hends _ u hrun).2 _ hapart).2 0 rfl)⟩

end Container

end Wiring
