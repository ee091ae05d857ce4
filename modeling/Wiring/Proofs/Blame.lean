import Wiring.Proofs.Stages
import Wiring.Proofs.Typing

/-!
# Missing Bindings Are Missing

When a container reports that a binding is missing, it names the member that asks for it. The
report is right: the member is one that its class cannot do without, it does depend on a key of
that name, the key is not bound, and no class may be constructed for it. However deep the member is
in what is resolved, and whatever errors of a build are wrapped around the report, this is so.

Two places decide what is reported. A dependency of a constructor or of a required member is looked
up before it is resolved, and a dependency of an optional member is known to be available before any
argument of the member is asked for. So members that may be left out are never blamed.

## Conventions

An error is read for its cause, the innermost of the errors that it wraps. What members, providers
and objects that are called as providers report is theirs, so they are asked not to report missing
bindings themselves.

## Main statements

* `ConfigurationError.IsTrue`: an error does not report a missing binding without reason.
* `Container.governsAll_truthful`: containers report missing bindings with reason only.
* `Container.missing_is_missing`: whatever is done with a container, and when it is built.
-/

namespace Wiring

namespace ConfigurationError

/-- Whether an error says, by itself or at the end of what it wraps, that a binding is missing. -/
def isMissing (e : ConfigurationError) : Bool :=
  match e.cause with
  | missingBinding .. => true
  | _ => false

/-- If an error says that a binding is missing, then one is. -/
def IsTrue (c : Container) (e : ConfigurationError) : Prop :=
  ∀ key requiredBy, e.cause = .missingBinding key requiredBy → c.Misses key requiredBy

variable {c : Container} {e : ConfigurationError}

/-- What says nothing about missing bindings is true. -/
theorem isTrue_of_not_isMissing (h : e.isMissing = false) : e.IsTrue c := by
  intro key requiredBy hcause
  simp [isMissing, hcause] at h

/-- What could not be found is its own cause. -/
theorem cause_of_isLack (h : e.isLack = true) : e.cause = e := by
  cases e <;> first | rfl | cases h

/-- The cause stays the same when a step is blamed. -/
theorem cause_blame (step : BuildStep) (e : ConfigurationError) :
    (step.blame e).cause = e.cause := by
  cases step <;> rfl

end ConfigurationError

namespace Container

variable {c : Container} {s s' : State} {e : ConfigurationError}

/-- A container reports missing bindings with reason only, if nothing that it is given reports
any. -/
theorem governsAll_truthful (h : c.Reports fun e => e.isMissing = false) :
    (c.reporting (fun _ => True) fun e => e.IsTrue c).GovernsAll c := by
  have hreports : c.Reports fun e => e.IsTrue c :=
    { member := fun cls m hm arguments e he =>
        ConfigurationError.isTrue_of_not_isMissing (h.member cls m hm arguments e he)
      provider := fun b ty label outcome n e hb hsource he =>
        ConfigurationError.isTrue_of_not_isMissing (h.provider b ty label outcome n e hb hsource he)
      supply := fun cls outcome id n e hsupply he =>
        ConfigurationError.isTrue_of_not_isMissing (h.supply cls outcome id n e hsupply he) }
  refine governsAll_reporting_any hreports (fun e hlack hmisses key requiredBy hcause => ?_)
    (fun _ _ _ _ => nofun) fun _ _ _ => nofun
  rw [ConfigurationError.cause_of_isLack hlack] at hcause
  exact hmisses key requiredBy hcause

/-- **Missing bindings are missing.** If a container reports that a binding is missing, by itself or
wrapped into errors of a build, then one is: a class has the member that is named, which is its
constructor or is to be injected and not optional; the member depends on a key that prints as the
one that is named; the key is not bound, and no class may be constructed for it. This is so when a
dependency is resolved or asked about, when members or static members are injected, and when the
container is built, provided that members, providers and objects that are called as providers do not
report missing bindings themselves. -/
theorem missing_is_missing (c : Container) (hreports : c.Reports fun e => e.isMissing = false) :
    (∀ s, s.Faithful c → ∀ e,
      (c.Fails s e → e.IsTrue c) ∧
      (∀ cls s', c.injectStatics c.resolve cls s = some (.error e, s') → e.IsTrue c) ∧
      ∀ s', c.start s = some (.error e, s') → e.IsTrue c) ∧
    ∀ (b : Builder) classes w e w', b.container classes = c →
      b.build classes w = some (.error e, w') → e.IsTrue c := by
  have hgoverns := governsAll_truthful hreports
  have hstart : (c.reporting (fun _ => True) fun e => e.IsTrue c).Allows c.start :=
    hgoverns.start fun step e he key requiredBy hcause =>
      he key requiredBy (by rwa [ConfigurationError.cause_blame] at hcause)
  refine ⟨fun s hs e => ⟨fun hfails => ?_, fun cls s' hrun => ?_, fun s' hrun => ?_⟩, ?_⟩
  · exact hfails.reports hgoverns (fun _ _ _ _ => nofun) ⟨hs, trivial⟩
  · have hstatics : (c.reporting (fun _ => True) fun e => e.IsTrue c).Allows
        (c.injectStatics c.resolve cls) :=
      Contract.Compliance.injectStatics hgoverns.toGoverns
        (fun _ _ _ => Contract.Meets.change fun _ hs _ => ⟨hs, trivial⟩)
        fun e _ => hgoverns.resolve e
    exact hstatics.error ⟨hs, trivial⟩ trivial hrun
  · exact hstart.error ⟨hs, trivial⟩ trivial hrun
  · rintro b classes w e w' rfl hbuild
    obtain ⟨t, hrun, -⟩ := Builder.build_eq_error_iff.mp hbuild
    exact hstart.error ⟨faithful_initial _ _, trivial⟩ trivial hrun

/-- The classes of a town. A house may have a shed for a garage, and it has to have a garage. A
garage cannot do without a car, nor a car without an engine. -/
def townClasses : ClassTable := .ofList
  [("town::House", ⟨[.constructor "town::House" (.reading [] none),
      (Member.field "town::House" "shed" (.injectable "town::Garage")).withOptional true,
      .field "town::House" "garage" (.injectable "town::Garage")], [], .fresh fun _ => none⟩),
    ("town::Garage", ⟨[.constructor "town::Garage" (.reading [] none),
      .field "town::Garage" "car" (.injectable "town::Car")], [], .fresh fun _ => none⟩),
    ("town::Car", ⟨[(Member.constructor "town::Car" (.reading [.interface "Engine"] none)).requiring
      [.ofTy (.interface "Engine")]], [], .fresh fun _ => none⟩)]

/-- A container for a town in which nothing is bound. -/
def town : Container := ⟨.standard, .empty, [], townClasses⟩

theorem isPlain_townClasses (cls : ClassPath) : (townClasses.decl cls).IsPlain := by
  refine ClassTable.decl_ofList (P := fun _ decl => decl.IsPlain)
    (fun _ => ClassDecl.isPlain_none) ?_ cls
  simp only [List.forall_mem_cons, List.not_mem_nil, false_imp_iff, implies_true, and_true]
  refine ⟨ClassDecl.isPlain_of_members ?_, ClassDecl.isPlain_of_members ?_,
    ClassDecl.isPlain_of_members ?_⟩
  all_goals
    simp only [List.forall_mem_cons, List.not_mem_nil, false_imp_iff, implies_true, and_true]
  · exact ⟨⟨_, rfl⟩, ⟨_, rfl⟩, _, rfl⟩
  · exact ⟨⟨_, rfl⟩, _, rfl⟩
  · exact ⟨_, rfl⟩

/-- The classes of a town do not report missing bindings. -/
theorem reports_town : town.Reports fun e => e.isMissing = false :=
  reports_of_plain isPlain_townClasses (fun e he => by cases e <;> first | rfl | cases he)
    fun _ _ _ _ _ _ hb => nomatch hb

/-- The shed of a house is left out. The garage is not, and the report is about the car in it. -/
theorem town_lacks_engines : ∃ e s',
    town.resolve (.injectable "town::House") ⟨town.initialMemory, .new⟩ = some (.error e, s') ∧
      e = .missingBinding "Key[dyn Engine]" "Car.<init>" ∧
      town.Misses "Key[dyn Engine]" "Car.<init>" := by
  have hrun : (town.resolve (.injectable "town::House") ⟨town.initialMemory, .new⟩).map Prod.fst =
      some (.error (.missingBinding "Key[dyn Engine]" "Car.<init>")) := by
    decide +kernel
  obtain ⟨⟨r, s'⟩, hresolve, rfl⟩ := Option.map_eq_some_iff.mp hrun
  have htrue := ((missing_is_missing town reports_town).1 _ (town.faithful_initial .new) _).1
    (.resolve hresolve)
  exact ⟨_, s', hresolve, rfl, htrue _ _ rfl⟩

end Container

end Wiring
