import Wiring.Bootstrap
import Wiring.Proofs.Precedence

/-!
# Logging Does Not Matter

There are three ways to a container: from a list of modules at once, by a builder in which modules
are installed one after another, and by the start of an application, which may set up logging first.
They come to the same container or to the same error, and do the same along the way. Logging may
fail to be set up, because its filter is at fault or because the log is refused for some reason;
this is noted, and makes no difference otherwise.

The reason is that modules are configured, and containers built, without looking at the journal:
what was noted before a build stands in front of what the build writes, and changes nothing of it.

## Conventions

The start of an application begins its notices in the journal behind all that was there before, and
what the build writes follows.

## Main statements

* `World.insertNotices`: a journal with notices in it that were not there.
* `blind_configureAll`, `Builder.blind_installAll`: modules are configured without looking at the
  journal.
* `Builder.build_before`, `Builder.buildFrom_before`: so is a container built.
* `Launch.build_eq`: what the start of an application comes to, in terms of a build.
* `Launch.Agrees`: the start of an application agrees with a build.
* `Launch.launches_agree`: **the three ways agree**, whatever there is to say about logging.
-/

namespace Wiring

/-! ### Notices in a journal -/

namespace World

/-- The world with notices in its journal, behind the first `n` entries. -/
def insertNotices (w : World) (n : Nat) (ns : List Notice) : World :=
  { w with journal := w.journal.take n ++ (ns.map Event.logged).toArray ++ w.journal.drop n }

/-- Notices are inserted behind the entries that are there. -/
theorem insertNotices_before (w : World) (j : Array Event) (ns : List Notice) :
    (w.before j).insertNotices j.size ns = w.before (j ++ (ns.map Event.logged).toArray) := by
  simp [insertNotices, before]

/-- Notices that are written to the log come first in what is written from then on. -/
theorem foldl_log_eq_before (ns : List Notice) (w : World) :
    ns.foldl log w =
      before { w with journal := #[] } (w.journal ++ (ns.map Event.logged).toArray) :=
  (foldl_log ns w).trans (eq_before _)

/-- Notices are no calls. -/
theorem calls_insertNotices (w : World) (n : Nat) (ns : List Notice) :
    (w.insertNotices n ns).journal.toList.filter Event.isCall =
      w.journal.toList.filter Event.isCall := by
  have hnone : (ns.map Event.logged).filter Event.isCall = [] := by
    simp [List.filter_eq_nil_iff, Event.isCall]
  have hsplit : w.journal.take n ++ w.journal.drop n = w.journal := by simp
  rw [insertNotices, Array.toList_append, Array.toList_append, List.filter_append,
    List.filter_append, hnone, List.append_nil, ← List.filter_append, ← Array.toList_append, hsplit]

/-- A notice is no call. -/
theorem calls_log (w : World) (n : Notice) :
    (w.log n).journal.toList.filter Event.isCall = w.journal.toList.filter Event.isCall := by
  simp [log, emit, Event.isCall]

end World

/-! ### Modules -/

/-- Making the source that a statement chooses is blind. -/
theorem SourceChoice.blind_source (choice : SourceChoice) (ty : Ty) :
    World.Blind (choice.source ty) := by
  intro w j
  cases choice with
  | value label =>
    have h : (w.before j).makeInstance ty label = _ := World.blind_makeInstance ty label w j
    simp only [source, h]
  | injectableProvider cls =>
    have h : (w.before j).makeObject cls = _ := World.blind_makeObject cls w j
    simp only [source, h]
  | injectableInstance =>
    have h : (w.before j).makeObject ty.fullName = _ := World.blind_makeObject ty.fullName w j
    simp only [source, h]
  | _ => rfl

/-- So is making the source that a definition chooses. -/
theorem DirectSource.blind_source (choice : DirectSource) : World.Blind choice.source := by
  intro w j
  cases choice with
  | value m =>
    have h : (w.before j).makeBy m = _ := World.blind_makeInstance m.ty m.label w j
    simp only [source, h]
    rfl
  | ready s => rfl

/-- So is a request for static injection. -/
theorem Draft.blind_requestStatic (d : Draft) (cls : ClassPath) :
    World.Blind (d.requestStatic · cls) := by
  intro w j
  have hlog : (w.before j).log (.repeatedStaticRequest cls) = _ :=
    World.blindChange_emit (.logged (.repeatedStaticRequest cls)) w j
  simp only [requestStatic, hlog]
  split <;> rfl

/-- Modules are configured without looking at the journal. -/
theorem blind_configureAll (ss : List Statement) (d : Draft) :
    World.Blind fun w => configureAll ss (d, w) := by
  intro w j
  dsimp only
  rw [configureAll_eq_flatten ss (d, w.before j)]
  -- After each statement, the drafts are the same and the worlds differ by `j`.
  refine configureAll_induct (P := fun flat dw =>
    configureAll flat (d, w.before j) = (dw.1, dw.2.before j)) rfl ss
    fun pre s dw hinstall _ h => ?_
  rw [configureAll_append, h]
  obtain ⟨d', w'⟩ := dw
  simp only [configureAll]
  cases s with
  | bind ty viaKey qualifiers scopes choice =>
    simp only [Statement.configure, choice.blind_source ty w' j]
  | define key choice scope eager =>
    simp only [Statement.configure, choice.blind_source w' j]
  | injectStatic cls => exact d'.blind_requestStatic cls w' j
  | install ts => exact absurd rfl (hinstall ts)

/-! ### Builds -/

namespace Builder

/-- So is installing a module. -/
theorem blind_install (b : Builder) (ss : List Statement) : World.Blind (b.install ss) := by
  intro w j
  have h := blind_configureAll ss b.draft w j
  simp only at h
  simp only [install, h]

/-- So is installing modules. -/
theorem blind_installAll (b : Builder) (modules : List (List Statement)) :
    World.Blind (b.installAll modules) := by
  intro w j
  rw [installAll_eq, installAll_eq]
  exact b.blind_install _ w j

/-- A container is built without looking at the journal. -/
theorem build_before (b : Builder) (classes : ClassTable) (w : World) (j : Array Event) :
    b.build classes (w.before j) =
      (b.build classes w).map fun (r, v) => (r, v.before j) := by
  have hretells : State.Retells #[] j (b.opening classes w) (b.opening classes (w.before j)) :=
    ⟨rfl, (b.opening classes w).world, by simp [World.before],
      by simp [opening, World.foldl_log, World.before]⟩
  have hsame := sameBuild_of_retells rfl hretells
  cases hbuild : b.build classes w with
  | none => exact hsame.ends hbuild
  | some p =>
    obtain ⟨u, hu, hbuild'⟩ := hsame.result p.1 p.2 hbuild
    obtain rfl : p.2 = u := by simpa [World.before] using hu
    exact hbuild'

/-- Build a container from modules that are installed one after another. -/
def buildFrom (config : ContainerConfig) (modules : List (List Statement)) (classes : ClassTable)
    (w : World) : BuildResult ConfigurationError :=
  let (b, w) := (ofConfig config).installAll modules w
  b.build classes w

variable (config : ContainerConfig) (modules : List (List Statement)) (classes : ClassTable)
  (w : World)

/-- Entries from before do not matter to a build. -/
theorem buildFrom_before (j : Array Event) :
    buildFrom config modules classes (w.before j) =
      (buildFrom config modules classes w).map fun (r, v) => (r, v.before j) := by
  simp only [buildFrom, (ofConfig config).blind_installAll modules w j, build_before]

/-- What is noted before a build comes to stand in front of what the build writes. -/
theorem buildFrom_foldl_log (ns : List Notice) :
    buildFrom config modules classes (ns.foldl World.log w) =
      (buildFrom config modules classes w).map fun (r, v) =>
        (r, v.insertNotices w.journal.size ns) := by
  have hplain : buildFrom config modules classes w =
      (buildFrom config modules classes { w with journal := #[] }).map fun (r, v) =>
        (r, v.before w.journal) :=
    (congrArg _ w.eq_before).trans (buildFrom_before ..)
  rw [World.foldl_log_eq_before, buildFrom_before, hplain, Option.map_map]
  refine congrArg (Option.map · _) (funext fun (r, v) => ?_)
  exact congrArg (Prod.mk r) (v.insertNotices_before w.journal ns).symm

end Builder

/-! ### Launches -/

namespace Launch

/-- The world in which a build came to `r`, with what a launch notes: `ns` behind the first `n`
entries of the journal, and at the end that the application has started, if it has. -/
def annotated (n : Nat) (ns : List Notice) (r : Except ConfigurationError RunningContainer)
    (v : World) : World :=
  match r with
  | .error _ => v.insertNotices n ns
  | .ok _ => (v.insertNotices n ns).log .started

/-- What the start of an application comes to, in terms of a build. -/
theorem build_eq (l : Launch) (refusal : Option String) (classes : ClassTable) (w : World) :
    l.build refusal classes w =
      (Builder.buildFrom l.settings.container l.modules classes w).map fun (r, v) =>
        (r.mapError .configuration, annotated w.journal.size (l.notices refusal) r v) := by
  change (Builder.buildFrom l.settings.container l.modules classes
    ((l.notices refusal).foldl World.log w)).map _ = _
  rw [Builder.buildFrom_foldl_log, Option.map_map]
  refine congrArg (Option.map · _) (funext fun p => ?_)
  obtain ⟨r, v⟩ := p
  cases r <;> rfl

/-- The start `y` of an application comes to what a build `x` of its container comes to, where
notices `ns` are written behind the first `n` entries of the journal. -/
structure Agrees (n : Nat) (ns : List Notice) (x : BuildResult ConfigurationError)
    (y : BuildResult InfrastructureError) : Prop where
  /-- Both come to the same container, which remembers the same, or to the same error, which the
  start of the application wraps; or neither of them comes to an end. -/
  result : y.map Prod.fst = x.map fun p => p.1.mapError .configuration
  /-- The worlds are the same but for the notices. -/
  world : ∀ r v r' v', x = some (r, v) → y = some (r', v') → v' = annotated n ns r v
  /-- Constructors, members, providers and accessors are called in the same way. -/
  calls : ∀ r v r' v', x = some (r, v) → y = some (r', v') →
    v'.journal.toList.filter Event.isCall = v.journal.toList.filter Event.isCall
  /-- From then on, operations come to the same results, and to states that differ only in what the
  journals begin with. -/
  later : ∀ r v r' v', x = some (.ok r, v) → y = some (r', v') → ∀ ops,
    SameOutcome (State.Retells v.journal v'.journal)
      (r.container.operate ops ⟨r.memory, v⟩) (r.container.operate ops ⟨r.memory, v'⟩)

/-- Annotations are no calls. -/
theorem calls_annotated (n : Nat) (ns : List Notice)
    (r : Except ConfigurationError RunningContainer) (v : World) :
    (annotated n ns r v).journal.toList.filter Event.isCall =
      v.journal.toList.filter Event.isCall := by
  cases r with
  | error e => exact v.calls_insertNotices n ns
  | ok c => exact ((v.insertNotices n ns).calls_log .started).trans (v.calls_insertNotices n ns)

/-- A world with the notices of a launch differs only in its journal. -/
theorem retells_annotated (n : Nat) (ns : List Notice)
    (r : Except ConfigurationError RunningContainer) (v : World) (m : Memory) :
    State.Retells v.journal (annotated n ns r v).journal ⟨m, v⟩ ⟨m, annotated n ns r v⟩ := by
  refine ⟨rfl, { v with journal := #[] }, v.eq_before, (World.eq_before _).trans ?_⟩
  cases r <;> rfl

/-- A launch builds what its settings say, and annotates it. -/
theorem agrees_build (l : Launch) (refusal : Option String) (classes : ClassTable) (w : World) :
    Agrees w.journal.size (l.notices refusal)
      (Builder.buildFrom l.settings.container l.modules classes w)
      (l.build refusal classes w) := by
  have hworld : ∀ r v r' v',
      Builder.buildFrom l.settings.container l.modules classes w = some (r, v) →
      l.build refusal classes w = some (r', v') →
      v' = annotated w.journal.size (l.notices refusal) r v := by
    intro r v r' v' hx hy
    rw [l.build_eq, hx] at hy
    cases hy
    rfl
  refine ⟨?_, hworld, fun r v r' v' hx hy => ?_, fun r v r' v' hx hy ops => ?_⟩
  · rw [l.build_eq, Option.map_map]
    rfl
  · rw [hworld r v r' v' hx hy, calls_annotated]
  · rw [hworld _ v r' v' hx hy]
    exact (r.container.retells_operate ops).sameOutcome (retells_annotated _ _ _ v r.memory)

/-- Modules may be installed one after another. -/
theorem foldl_install (l : Launch) (modules : List (List Statement)) :
    modules.foldl (fun l m => install l [m]) l = l.install modules := by
  induction modules generalizing l with
  | nil => simp [install]
  | cons m ms ih =>
    rw [List.foldl_cons, ih]
    simp [install]

/-- **The three ways to a container agree.** To build it from modules at once, by a builder in which
they are installed one after another, and by the start of an application with standard settings
comes to the same. The start of any application comes to what a builder comes to that has its
configuration and its modules, whether logging is to be set up or not, whatever its filter says, and
whether the log is refused or not. -/
theorem launches_agree (modules : List (List Statement)) (classes : ClassTable) (w : World) :
    createContainer modules classes w = Builder.buildFrom .standard modules classes w ∧
    (∀ refusal, Agrees w.journal.size [.starting .development modules.length]
      (createContainer modules classes w)
      ((modules.foldl (fun l m => install l [m]) (ofSettings .standard)).build refusal classes
        w)) ∧
    ∀ (l : Launch) (refusal : Option String),
      Agrees w.journal.size (l.notices refusal)
        (Builder.buildFrom l.settings.container l.modules classes w)
        (l.build refusal classes w) := by
  have hcreate : createContainer modules classes w =
      Builder.buildFrom .standard modules classes w := by
    rw [createContainer, Builder.buildFrom, Builder.installAll_eq]
  refine ⟨hcreate, fun refusal => ?_, fun l refusal => l.agrees_build refusal classes w⟩
  rw [hcreate, foldl_install]
  exact ((ofSettings .standard).install modules).agrees_build refusal classes w

/-- A shop for production with a greeting that is supplied ahead of time, and with a level of which
the log knows nothing. -/
def loudShop : Launch :=
  ((ofSettings ⟨.production, .standard⟩).withLogging { LoggingConfig.standard with
    level := "shop=loud" }).install
      [[.bind .text none [] [.asEagerSingleton] (.provider "hello" fun _ => none)],
        [.install [.injectStatic "Shop", .injectStatic "Shop"]]]

/-- The shop opens all the same, and calls its provider once. -/
theorem loudShop_opens : ∃ r v v',
    Builder.buildFrom .production loudShop.modules ∅ .new = some (.ok r, v) ∧
    loudShop.build none ∅ .new = some (.ok r, v') ∧
    (loudShop.setupNotice none).severity = .warn ∧
    (v'.journal.toList.filter Event.isCall).map (Event.render .empty) = ["call hello/0"] := by
  have hopens : (Builder.buildFrom .production loudShop.modules ∅ .new).map (fun p => (p.1.isOk,
      (p.2.journal.toList.filter Event.isCall).map (Event.render .empty))) =
        some (true, ["call hello/0"]) := by decide +kernel
  obtain ⟨⟨x, v⟩, hbuild, hopens⟩ := Option.map_eq_some_iff.mp hopens
  obtain ⟨hok, hcalls⟩ := Prod.mk.inj hopens
  obtain ⟨r, rfl⟩ : ∃ r, x = .ok r := by
    cases x with
    | error e => cases hok
    | ok r => exact ⟨r, rfl⟩
  have hagrees := (launches_agree loudShop.modules ∅ .new).2.2 loudShop none
  have hresult := hagrees.result.trans (congrArg _ hbuild)
  obtain ⟨⟨y, v'⟩, hlaunch, rfl⟩ := Option.map_eq_some_iff.mp hresult
  refine ⟨r, v, v', hbuild, hlaunch, by decide +kernel, ?_⟩
  rw [hagrees.calls _ v _ v' hbuild hlaunch, hcalls]

end Launch

end Wiring
