import Wiring.Proofs.Catalogs
import Wiring.Proofs.Deeds
import Wiring.Proofs.Entries
import Wiring.Proofs.Operations
import Wiring.Proofs.Stability

/-!
# Which Classes Are Constructed

A container constructs a class on two occasions only. Either the class is supplied by a binding to
its constructor, or it is asked for by a dependency that is not bound. The latter takes a licence:
classes may be constructed just in time, and the dependency was declared with the class and has no
qualifier. So without just-in-time construction, a class is constructed only if it is bound to its
constructor, and a qualified dependency is satisfied by the binding of its very key or not at all.

That holds at every depth. The journal shows it: a resolution is entered at its beginning and its
end, and so is the supply by a binding. These entries are nested like brackets, and the construction
of a class is entered right inside of the brackets that give the licence for it.

## Conventions

A construction is entered twice, when the constructor is about to be run and when it is done. The
first entry is made in any case, also if the constructor fails. All that is needed for the
constructor and for the members of the new object is resolved outside or between these two entries,
in brackets of its own.

## Main statements

* `Container.BoundToConstructor`, `Container.Licensed`: the two licences to construct a class.
* `Container.Tells`: journals in which each construction has a licence.
* `Container.telling`, `Container.telling_resolveWithin`: a container keeps such a journal.
* `Container.Tells.licence`: the licence for an entry in such a journal.
* `Container.OnlyByBinding`: a dependency that is satisfied by its binding or not at all.
* `Container.constructions_are_licensed`: which classes are constructed.
-/

namespace Wiring

/-! ### Brackets -/

namespace Event

/-- Whether an event tells of the beginning or the end of a resolution or a supply. -/
def isBracket : Event → Bool
  | supplying _ | supplied .. | logged (.resolving _) | resolved .. => true
  | _ => false

/-- That a class is constructed is no bracket. -/
theorem isBracket_of_constructs {e : Event} {cls : ClassPath} (h : e.constructs? = some cls) :
    e.isBracket = false := by
  unfold constructs? at h
  split at h
  · rfl
  · rfl
  · cases h

/-- Whether an event is neither a bracket nor tells of a construction. -/
def isPlain (e : Event) : Bool := !e.isBracket && e.constructs?.isNone

/-- Ordinary events are plain. -/
theorem isPlain_of_isOrdinary {e : Event} (h : e.isOrdinary = true) : e.isPlain = true := by
  have hmark := isMark_of_isOrdinary h
  unfold isOrdinary at h
  split at h
  · cases h
  · cases h
  · cases h
  · cases e with
    | supplying key => cases hmark
    | supplied key r => cases hmark
    | resolved d r => cases hmark
    | constructed cls id call => simp_all
    | logged n => cases n <;> first | rfl | simp_all
    | _ => rfl

/-- Events of later stages are plain. -/
theorem isPlain_of_stage {e : Event} (h : e.stage ≠ 0) : e.isPlain = true := by
  cases e with
  | injectedStatic cls call => rfl
  | logged n => cases n <;> first | rfl | exact absurd rfl h
  | _ => exact absurd rfl h

end Event

namespace Container

variable (c : Container)

/-! ### Licences -/

/-- The binding of `key` is one to the constructor of `cls`. -/
def BoundToConstructor (key : Key) (cls : ClassPath) : Prop :=
  ∃ b, c.registry.lookup key = some b ∧ b.source = .constructor cls

/-- A dependency gives licence to construct `cls` just in time. -/
structure Licensed (d : Dependency) (cls : ClassPath) : Prop where
  /-- Classes may be constructed just in time. -/
  enabled : c.config.jitBindings = true
  /-- The dependency is not bound. -/
  unbound : c.hasBinding d.key = false
  /-- It has no qualifier. -/
  unqualified : d.key.isQualified = false
  /-- It was declared with the class. -/
  declared : d.declaredClass = some cls

variable {c}

/-- A class is licensed if the key has no binding and the class is constructed just in time. -/
theorem licensed_iff {d : Dependency} {cls : ClassPath} :
    c.Licensed d cls ↔ c.hasBinding d.key = false ∧ c.justInTime d = some cls := by
  unfold justInTime Dependency.justInTime
  constructor
  · rintro ⟨henabled, hunbound, hunqualified, hdeclared⟩
    simp [henabled, hunbound, hunqualified, hdeclared]
  · rintro ⟨hunbound, hjit⟩
    split at hjit
    · next henabled =>
      split at hjit
      · cases hjit
      · next hunqualified => exact ⟨henabled, hunbound, Bool.eq_false_iff.mpr hunqualified, hjit⟩
    · cases hjit

variable (c)

/-- What a journal tells if each construction in it has a licence. The licence is given by the
brackets around it, or by `K` if there are none. -/
inductive Tells : (ClassPath → Prop) → List Event → Prop where
  /-- Nothing. -/
  | nil (K : ClassPath → Prop) : Tells K []
  /-- Something that has nothing to do with it. -/
  | plain {K : ClassPath → Prop} {e : Event} {es : List Event} : e.isPlain = true → Tells K es →
    Tells K (e :: es)
  /-- A class is constructed. -/
  | construction {K : ClassPath → Prop} {e : Event} {es : List Event} {cls : ClassPath} :
    e.constructs? = some cls → K cls → Tells K es → Tells K (e :: es)
  /-- A binding supplies an instance, maybe by a constructor. -/
  | supply {K : ClassPath → Prop} {key : Key} {r : Except ConfigurationError Instance}
    {inner es : List Event} : Tells (c.BoundToConstructor key) inner → Tells K es →
    Tells K (.supplying key :: (inner ++ .supplied key r :: es))
  /-- A dependency is resolved, maybe just in time. It is resolved to an instance only if it is
  bound, or if there is a class for it. -/
  | resolution {K : ClassPath → Prop} {d : Dependency} {r : Except ConfigurationError Instance}
    {inner es : List Event} : Tells (c.Licensed d) inner →
    (∀ i, r = .ok i → c.hasBinding d.key = true ∨ ∃ cls, c.Licensed d cls) → Tells K es →
    Tells K (.logged (.resolving d.key) :: (inner ++ .resolved d r :: es))

variable {c} {K K' : ClassPath → Prop} {es fs : List Event}

/-- What is told one after the other. -/
theorem Tells.append (h : c.Tells K es) (h' : c.Tells K fs) : c.Tells K (es ++ fs) := by
  induction h with
  | nil K => exact h'
  | plain he _ ih => exact .plain he (ih h')
  | construction he hcls _ ih => exact .construction he hcls (ih h')
  | supply hinner _ _ ih =>
    rw [List.cons_append, List.append_assoc]
    exact .supply hinner (ih h')
  | resolution hinner hr _ _ ih =>
    rw [List.cons_append, List.append_assoc]
    exact .resolution hinner hr (ih h')

/-- A plain event tells of nothing that needs a licence. -/
theorem Tells.single {e : Event} (h : e.isPlain = true) : c.Tells K [e] := .plain h (.nil K)

/-! ### What the brackets around an entry say -/

variable (c)

/-- Between what was entered before and after, there is something right inside of two brackets. -/
def Encloses (K : ClassPath → Prop) (opens closes : Event) (before after : List Event) : Prop :=
  ∃ pre inner inner' post, before = pre ++ opens :: inner ∧ after = inner' ++ closes :: post ∧
    c.Tells K inner ∧ c.Tells K inner'

/-- An entry is made right inside of the supply by a binding to the constructor of `cls`. -/
def WithinSupply (cls : ClassPath) (before after : List Event) : Prop :=
  ∃ key r, c.BoundToConstructor key cls ∧
    c.Encloses (c.BoundToConstructor key) (.supplying key) (.supplied key r) before after

/-- An entry is made right inside of the resolution of a dependency that gives licence to construct
`cls`. -/
def WithinResolution (cls : ClassPath) (before after : List Event) : Prop :=
  ∃ d r, c.Licensed d cls ∧
    c.Encloses (c.Licensed d) (.logged (.resolving d.key)) (.resolved d r) before after

variable {c} {before after : List Event} {cls : ClassPath}

/-- What comes before and after brackets does not matter for what is inside of them. -/
theorem Encloses.widen {opens closes : Event} (h : c.Encloses K opens closes before after)
    (xs ys : List Event) : c.Encloses K opens closes (xs ++ before) (after ++ ys) := by
  obtain ⟨pre, inner, inner', post, rfl, rfl, hinner, hinner'⟩ := h
  exact ⟨xs ++ pre, inner, inner', post ++ ys, by simp, by simp, hinner, hinner'⟩

/-- The same for the licence that brackets give. -/
theorem within_widen (h : c.WithinSupply cls before after ∨ c.WithinResolution cls before after)
    (xs ys : List Event) :
    c.WithinSupply cls (xs ++ before) (after ++ ys) ∨
      c.WithinResolution cls (xs ++ before) (after ++ ys) := by
  rcases h with ⟨key, r, hcls, hencloses⟩ | ⟨d, r, hcls, hencloses⟩
  · exact .inl ⟨key, r, hcls, hencloses.widen xs ys⟩
  · exact .inr ⟨d, r, hcls, hencloses.widen xs ys⟩

/-- What happens within something does so after a longer history. -/
theorem within_behind (h : c.WithinSupply cls before after ∨ c.WithinResolution cls before after)
    (xs : List Event) :
    c.WithinSupply cls (xs ++ before) after ∨ c.WithinResolution cls (xs ++ before) after := by
  have hwider := within_widen h xs []
  rwa [List.append_nil] at hwider

/-- An entry next to brackets is behind them or inside of them. -/
theorem behind_or_inside {opens closes e : Event} {inner : List Event}
    (h : opens :: (inner ++ closes :: es) = before ++ e :: after) (hopens : e ≠ opens)
    (hcloses : e ≠ closes) :
    (∃ before', before = opens :: (inner ++ closes :: before') ∧ es = before' ++ e :: after) ∨
      ∃ before' after', before = opens :: before' ∧ after = after' ++ closes :: es ∧
        inner = before' ++ e :: after' := by
  cases before with
  | nil => exact absurd (List.cons.inj h).1.symm hopens
  | cons b before =>
    obtain ⟨rfl, htail⟩ := List.cons.inj h
    rcases List.append_eq_append_iff.mp htail with ⟨rest, rfl, hrest⟩ | ⟨rest, rfl, hrest⟩
    · cases rest with
      | nil => exact absurd (List.cons.inj hrest).1.symm hcloses
      | cons x rest =>
        obtain ⟨rfl, rfl⟩ := List.cons.inj hrest
        exact .inl ⟨rest, rfl, rfl⟩
    · cases rest with
      | nil => exact absurd (List.cons.inj hrest).1 hcloses
      | cons x rest =>
        obtain ⟨rfl, rfl⟩ := List.cons.inj hrest
        exact .inr ⟨before, rest, rfl, rfl, rfl⟩

/-- A construction has its licence from the brackets that it is right inside of. -/
theorem Tells.licence (h : c.Tells K es) {e : Event} (hes : es = before ++ e :: after)
    (he : e.constructs? = some cls) :
    (K cls ∧ c.Tells K before ∧ c.Tells K after) ∨
      c.WithinSupply cls before after ∨ c.WithinResolution cls before after := by
  have hbracket : ∀ e', e'.isBracket = true → e ≠ e' := by
    rintro e' he' rfl
    rw [Event.isBracket_of_constructs he] at he'
    cases he'
  induction h generalizing before after with
  | nil K => simp at hes
  | @plain K e' es hplain hrest ih =>
    cases before with
    | nil =>
      obtain ⟨rfl, rfl⟩ := List.cons.inj hes
      simp [Event.isPlain, he] at hplain
    | cons b before =>
      obtain ⟨rfl, htail⟩ := List.cons.inj hes
      rcases ih htail with ⟨hK, hbefore, hafter⟩ | hwithin
      · exact .inl ⟨hK, .plain hplain hbefore, hafter⟩
      · exact .inr (within_behind hwithin [e'])
  | @construction K e' es cls' hcls hK hrest ih =>
    cases before with
    | nil =>
      obtain ⟨rfl, rfl⟩ := List.cons.inj hes
      rw [hcls] at he
      cases he
      exact .inl ⟨hK, .nil K, hrest⟩
    | cons b before =>
      obtain ⟨rfl, htail⟩ := List.cons.inj hes
      rcases ih htail with ⟨hK', hbefore, hafter⟩ | hwithin
      · exact .inl ⟨hK', .construction hcls hK hbefore, hafter⟩
      · exact .inr (within_behind hwithin [e'])
  | @supply K key r inner es hinner hrest ih ih' =>
    rcases behind_or_inside hes (hbracket _ rfl) (hbracket _ rfl) with
      ⟨before', rfl, hbehind⟩ | ⟨before', after', rfl, rfl, hinside⟩
    · rcases ih' hbehind with ⟨hK, hbefore, hafter⟩ | hwithin
      · exact .inl ⟨hK, .supply hinner hbefore, hafter⟩
      · have hbehind := within_behind hwithin (.supplying key :: (inner ++ [.supplied key r]))
        rw [List.cons_append, List.append_assoc] at hbehind
        exact .inr hbehind
    · rcases ih hinside with ⟨hcls, hbefore, hafter⟩ | hwithin
      · exact .inr (.inl ⟨key, r, hcls, [], before', after', es, rfl, rfl, hbefore, hafter⟩)
      · exact .inr (within_widen hwithin [.supplying key] (.supplied key r :: es))
  | @resolution K d r inner es hinner hr hrest ih ih' =>
    rcases behind_or_inside hes (hbracket _ rfl) (hbracket _ rfl) with
      ⟨before', rfl, hbehind⟩ | ⟨before', after', rfl, rfl, hinside⟩
    · rcases ih' hbehind with ⟨hK, hbefore, hafter⟩ | hwithin
      · exact .inl ⟨hK, .resolution hinner hr hbefore, hafter⟩
      · have hbehind := within_behind hwithin
          (.logged (.resolving d.key) :: (inner ++ [.resolved d r]))
        rw [List.cons_append, List.append_assoc] at hbehind
        exact .inr hbehind
    · rcases ih hinside with ⟨hcls, hbefore, hafter⟩ | hwithin
      · exact .inr (.inr ⟨d, r, hcls, [], before', after', es, rfl, rfl, hbefore, hafter⟩)
      · exact .inr (within_widen hwithin [.logged (.resolving d.key)] (.resolved d r :: es))

/-- A dependency is resolved to an instance only if it is bound, or if there is a class for it. -/
theorem Tells.bound_or_licensed (h : c.Tells K es) {d : Dependency} {i : Instance}
    (hmem : .resolved d (.ok i) ∈ es) :
    c.hasBinding d.key = true ∨ ∃ cls, c.Licensed d cls := by
  induction h with
  | nil K => cases hmem
  | plain hplain _ ih =>
    rcases List.mem_cons.mp hmem with rfl | hmem
    · cases hplain
    · exact ih hmem
  | construction hcls _ _ ih =>
    rcases List.mem_cons.mp hmem with rfl | hmem
    · cases hcls
    · exact ih hmem
  | supply _ _ ih ih' =>
    rcases List.mem_cons.mp hmem with heq | hmem
    · cases heq
    rcases List.mem_append.mp hmem with hmem | hmem
    · exact ih hmem
    rcases List.mem_cons.mp hmem with heq | hmem
    · cases heq
    · exact ih' hmem
  | resolution _ hr _ ih ih' =>
    rcases List.mem_cons.mp hmem with heq | hmem
    · cases heq
    rcases List.mem_append.mp hmem with hmem | hmem
    · exact ih hmem
    rcases List.mem_cons.mp hmem with heq | hmem
    · cases heq
      exact hr i rfl
    · exact ih' hmem

/-! ### The discipline of keeping such a journal -/

variable (c)

/-- The discipline of constructing classes only with a licence, be it given by `K`. -/
def telling (K : ClassPath → Prop) : Discipline where
  Inv s := s.Faithful c
  Step s s' := ∃ es, s.Entered s' es ∧ c.Tells K es
  Known _ _ := True
  refl s := ⟨[], State.Entered.refl s, .nil K⟩
  trans := by
    rintro s t u ⟨es, hes, htells⟩ ⟨fs, hfs, htells'⟩
    exact ⟨es ++ fs, hes.trans hfs, htells.append htells'⟩
  known_step _ h := h

variable {c} {s s' : State} {self : Dependency → Run Instance}

/-- Nothing is told where nothing is entered. -/
theorem telling_silent (hs : s'.Faithful c) (hjournal : s'.world.journal = s.world.journal) :
    (c.telling K).Moves s s' := by
  refine ⟨hs, [], ?_, .nil K⟩
  rw [State.Entered, hjournal, List.append_nil]

/-- An entry may be made if it tells of what is licensed. -/
theorem telling_emit (hs : s.Faithful c) {e : Event} (he : c.Tells K [e]) :
    (c.telling K).Moves s (s.inWorld (s.world.emit e)) := ⟨hs, [e], s.entered_emit e, he⟩

/-- Deeds construct no classes. -/
theorem admitsDeeds_telling (c : Container) (K : ClassPath → Prop) :
    (c.telling K).AdmitsDeeds c fun _ _ => True where
  deed {s s'} hs h := by
    have hs' : s'.Faithful c :=
      (c.admitsAll_faithful.effect hs (h.effect.mono fun _ _ _ _ => trivial)).1
    cases h with
    | emit e he => exact telling_emit hs (.single (Event.isPlain_of_isOrdinary he))
    | thing t _ => exact telling_silent hs' rfl
    | object id f _ _ _ => exact telling_silent hs' rfl
    | aside _ _ hjournal => exact telling_silent hs' hjournal
  fresh _ _ := trivial
  mentioned _ _ := trivial
  known _ := trivial
  part _ _ _ _ := trivial
  lasting _ _ _ _ _ := trivial

/-- Deferred bindings may advance. -/
theorem setsReadiness_telling : Discipline.Conduct.SetsReadiness (c.telling K) := fun _ _ =>
  Discipline.Ensures.remember fun _ hs _ => telling_silent hs rfl

/-- Slots may be filled. -/
theorem setsSlots_telling : Discipline.Conduct.SetsSlots (c.telling K) := fun _ _ =>
  Discipline.Ensures.remember fun _ hs _ => telling_silent hs rfl

/-- Plain events may be entered. -/
theorem emits_telling {e : Event} (he : e.isPlain = true) : (c.telling K).Allows (.emit e) :=
  Discipline.Ensures.change fun _ hs _ => telling_emit hs (.single he)

/-- So may the events of all stages. -/
theorem stages_telling : Discipline.Conduct.Stages (c.telling K) 3 := fun _ he _ =>
  emits_telling (Event.isPlain_of_stage he)

/-- A class may be constructed if `K` gives the licence. -/
theorem constructs_telling (hcls : K cls) : (c.telling K).Constructs c cls := by
  have henters : (c.telling K).EntersConstruction cls := fun e he =>
    Discipline.Ensures.change fun _ hs _ => telling_emit hs (.construction he hcls (.nil K))
  refine ⟨henters, fun s hs _ r s' hrun => ?_⟩
  obtain ⟨hs', hstep, -⟩ :=
    (c.admitsDeeds_telling K).reading.catalog cls s hs trivial r s' hrun
  obtain ⟨-, -, hcat⟩ := c.ensures_catalog cls s hs trivial r s' hrun
  refine ⟨hs', hstep, fun cat hr => ?_⟩
  obtain rfl : cat.cls = cls := (ClassTable.catalog_eq_ok (hcat cat hr)).1
  exact henters

/-- What is done between brackets may have a licence of its own. -/
theorem telling_bracketed {x : Run Instance} {opens : Event}
    {closes : Except ConfigurationError Instance → Event} (hx : (c.telling K').Gives x)
    (hbrackets : ∀ r es, (∃ s t, x s = some (r, t)) → c.Tells K' es →
      c.Tells K (opens :: (es ++ [closes r]))) :
    (c.telling K).Gives (do .emit opens; .noting closes x) := by
  intro s hs _ r s' h
  obtain ⟨⟨r, t⟩, hrun, heq⟩ := Option.map_eq_some_iff.mp h
  cases heq
  obtain ⟨ht, ⟨es, hes, htells⟩, -⟩ := hx (s.inWorld (s.world.emit opens)) hs trivial r t hrun
  refine ⟨ht, ⟨opens :: (es ++ [closes r]), ?_, hbrackets r es ⟨_, _, hrun⟩ htells⟩,
    fun _ _ _ _ => trivial⟩
  exact ((s.entered_emit opens).trans hes).trans (t.entered_emit (closes r))

/-! ### What a container does -/

/-- The use of a deferred binding tells of what is licensed. -/
theorem telling_force (hself : ∀ d, (c.telling K).Gives (self d)) {b : Binding}
    (hb : c.registry.lookup b.key = some b) {d : Deferral} (hd : b.source.deferral = some d) :
    (c.telling K).Gives (c.force self b.key d) :=
  Discipline.Deeds.force (c.admitsDeeds_telling K) setsReadiness_telling hself hb hd
    (emits_telling rfl) fun _ _ hs _ => telling_emit hs (.single rfl)

/-- A binding to the constructor of a class has licence to construct it. -/
theorem telling_supply (hself : ∀ K d, (c.telling K).Gives (self d)) {b : Binding}
    (hb : c.registry.lookup b.key = some b) : (c.telling K).Gives (c.supply self b) := by
  have hprovision : (c.telling (c.BoundToConstructor b.key)).Gives (c.provision self b) :=
    Discipline.Deeds.provision (c.admitsDeeds_telling _) (hself _) hb
      (fun cls hsource => constructs_telling ⟨b, hb, hsource⟩)
      fun d hd => telling_force (hself _) hb hd
  exact telling_bracketed hprovision fun r es _ htells => .supply htells (.nil K)

/-- So does the resolution of a binding. -/
theorem telling_resolveBinding (hself : ∀ K d, (c.telling K).Gives (self d)) {b : Binding}
    (hb : c.registry.lookup b.key = some b) : (c.telling K).Gives (c.resolveBinding self b) :=
  Discipline.Deeds.withinScope (c.admitsDeeds_telling K)
    (fun _ => Discipline.Deeds.inSlot (c.admitsDeeds_telling K) setsSlots_telling b.key
      (emits_telling rfl) (telling_supply hself hb))
    fun _ => telling_supply hself hb

/-- What is not bound and has no class is not resolved. -/
theorem bound_or_licensed_of_answer {d : Dependency} {i : Instance}
    (h : c.answer self d s = some (.ok i, s')) :
    c.hasBinding d.key = true ∨ ∃ cls, c.Licensed d cls := by
  unfold answer at h
  cases hb : c.registry.lookup d.key with
  | some b => exact .inl (by rw [hasBinding, Registry.contains_eq_isSome_lookup, hb]; rfl)
  | none =>
    have hunbound : c.hasBinding d.key = false := by
      rw [hasBinding, Registry.contains_eq_isSome_lookup, hb]
      rfl
    cases hjit : c.justInTime d with
    | some cls => exact .inr ⟨cls, licensed_iff.mpr ⟨hunbound, hjit⟩⟩
    | none =>
      simp only [hb, hjit] at h
      cases h

/-- A dependency that gives licence to construct a class may be resolved just in time. -/
theorem telling_resolveStep (hself : ∀ K d, (c.telling K).Gives (self d)) (d : Dependency) :
    (c.telling K).Gives (c.resolveStep self d) := by
  have hanswer : (c.telling (c.Licensed d)).Gives (c.answer self d) := by
    refine Discipline.Deeds.answer (c.admitsDeeds_telling _) (hself _) (fun b hb => ?_)
      fun cls hb hjit => constructs_telling (licensed_iff.mpr ⟨?_, hjit⟩)
    · exact telling_resolveBinding hself (by rw [Registry.key_of_lookup hb, hb])
    · rw [hasBinding, Registry.contains_eq_isSome_lookup, hb]
      rfl
  refine telling_bracketed hanswer fun r es ⟨s, t, hrun⟩ htells => .resolution htells ?_ (.nil K)
  rintro i rfl
  exact bound_or_licensed_of_answer hrun

/-- At every depth, classes are constructed only with a licence. -/
theorem telling_resolveWithin (n : Nat) : ∀ K d, (c.telling K).Gives (c.resolveWithin n d) := by
  induction n with
  | zero => exact fun _ _ => Discipline.Ensures.stuck
  | succ n ih => exact fun K d => telling_resolveStep ih d

/-- So does the building of a container. -/
theorem telling_start : (c.telling K).Allows c.start := by
  have hself := telling_resolveWithin (c := c) c.depthBound
  refine Discipline.Deeds.start (c.admitsDeeds_telling K) stages_telling (hself K)
    (fun b hb d hd => ?_) fun b hb => ?_
  · exact telling_force (hself K) (Registry.lookup_of_mem hb) hd
  · exact telling_resolveBinding hself (Registry.lookup_of_mem hb)

/-- By no operation of a container is a class constructed without a licence. -/
theorem telling_operation {op : Operation} (hop : op.isOwn = true) :
    (c.telling K).Allows (op.run c) := by
  have hadmits := c.admitsDeeds_telling K
  have hself : ∀ d, (c.telling K).Gives (c.resolve d) := telling_resolveWithin c.depthBound K
  have hreply : ∀ {β : Type} {x : Run β} (f : β → Reply), (c.telling K).Allows x →
      (c.telling K).Allows (do return f (← x)) := fun f hx =>
    Discipline.Ensures.bind hx fun _ => Discipline.Ensures.succeed fun _ _ _ => trivial
  cases op with
  | start => exact hreply (fun _ => .done) telling_start
  | resolve d => exact hreply .handed (hself d).allows
  | get ty d => exact hreply .handed (Discipline.Conduct.getAs hself ty d).allows
  | inject cls target id =>
    exact hreply (fun _ => .done) (Discipline.Deeds.injectObject hadmits hself cls target id)
  | injectStatics cls =>
    exact hreply (fun _ => .done)
      (Discipline.Deeds.injectStatics hadmits (stages_telling.mono (by decide)) hself cls)
  | ask d => exact hreply .told (hadmits.reading.canResolve d)
  | meanwhile f blind => cases hop

/-- So do operations of the container, one after another. -/
theorem telling_operate {ops : List Operation} (hops : ∀ op ∈ ops, op.isOwn = true) :
    (c.telling K).Allows (c.operate ops) :=
  Discipline.Ensures.collect fun op hop => (telling_operation (hops op hop)).attempt.allows

/-! ### Dependencies that only bindings satisfy -/

variable (c)

/-- A dependency is satisfied by the binding of its very key, or not at all. -/
structure OnlyByBinding (d : Dependency) : Prop where
  /-- It can be resolved exactly if its key is bound. To find that out, nothing is touched. -/
  asked : ∀ s, c.canResolve d s = some (.ok (c.hasBinding d.key), s)
  /-- If its key is bound, it is resolved by this binding, which is the one of just that key. -/
  bound : ∀ b, c.registry.lookup d.key = some b → b.key = d.key ∧
    ∀ n, c.resolveWithin (n + 1) d =
      (do .log (.resolving d.key); .noting (.resolved d) (c.resolveBinding (c.resolveWithin n) b))
  /-- If it is not, then there is nothing to construct. -/
  unbound : c.hasBinding d.key = false → ∀ n, c.resolveWithin (n + 1) d =
    (do
      .log (.resolving d.key)
      .noting (.resolved d) (.fail (.noConstructor d.key.text d.key.ty.name)))
  /-- For a member it is missing, and not even resolved. -/
  missing : c.hasBinding d.key = false → ∀ self member,
    c.resolveRequired self member d = .fail (.missingBinding d.key.text member)
  /-- It gives licence to construct nothing. -/
  unlicensed : ∀ cls, ¬ c.Licensed d cls

variable {c}

/-- It is so if there is no class to construct just in time. -/
theorem onlyByBinding_of_justInTime {d : Dependency} (h : c.justInTime d = none) :
    c.OnlyByBinding d where
  asked s := by
    unfold canResolve Run.note available
    rw [availableWithin.eq_def]
    cases hbound : c.registry.contains d.key with
    | true => simp [hasBinding, hbound, State.withNotebook, State.notebook]
    | false => simp [hasBinding, hbound, h, State.withNotebook, State.notebook]
  bound b hb := by
    refine ⟨Registry.key_of_lookup hb, fun n => ?_⟩
    rw [resolveWithin, resolveStep, answer, hb]
  unbound hunbound n := by
    rw [resolveWithin, resolveStep, answer_of_unbound _ _ hunbound, h]
  missing hunbound self member := by
    have hcontains : c.registry.contains d.key = false := hunbound
    simp [resolveRequired, hcontains, h]
  unlicensed cls hlicensed := by
    have hjit := (licensed_iff.mp hlicensed).2
    rw [h] at hjit
    cases hjit

/-- It is so for a dependency with a qualifier. -/
theorem onlyByBinding_of_isQualified {d : Dependency} (h : d.key.isQualified = true) :
    c.OnlyByBinding d := by
  refine onlyByBinding_of_justInTime ?_
  simp [justInTime, Dependency.justInTime, h]

/-- It is so for all dependencies if classes are not constructed just in time. -/
theorem onlyByBinding_of_disabled (h : c.config.jitBindings = false) (d : Dependency) :
    c.OnlyByBinding d := by
  refine onlyByBinding_of_justInTime ?_
  simp [justInTime, h]

/-- What a type of provider supplies takes a binding of its own, if there is no other way to get a
provider. -/
theorem OnlyByBinding.provision {b : Binding} {provider : Dependency} {cls : ClassPath} {ty : Ty}
    (h : c.OnlyByBinding provider) (hsource : b.source = .providerType provider cls ty)
    (hunbound : c.hasBinding provider.key = false) {n : Nat} {s s' : State}
    {r : Except ConfigurationError Instance}
    (hrun : c.provision (c.resolveWithin n) b s = some (r, s')) :
    r = .error (.noConstructor provider.key.text provider.key.ty.name) := by
  unfold Container.provision at hrun
  rw [hsource] at hrun
  cases n with
  | zero => cases hrun
  | succ n =>
    dsimp only at hrun
    rw [Run.bind_eq, h.unbound hunbound] at hrun
    cases hrun
    rfl

end Container

/-- A qualifier goes to the last dependency of a list. -/
theorem getLast?_qualifyLast (q : Qualifier) (ds : List Dependency) :
    (qualifyLast q ds).getLast? = ds.getLast?.map (·.qualifiedBy q) := by
  induction ds with
  | nil => rfl
  | cons d ds ih =>
    cases ds with
    | nil => rfl
    | cons e ds =>
      have hcons : qualifyLast q (d :: e :: ds) = d :: qualifyLast q (e :: ds) := rfl
      rw [hcons, List.getLast?_cons, ih, List.getLast?_cons_cons, List.getLast?_cons]
      rfl

namespace Container

/-- **Classes are constructed only with a licence.** A container may be built and used in any way.
Each class that is constructed meanwhile is either supplied by a binding to its constructor, or
classes may be constructed just in time and it is the class of a dependency that is being resolved,
which is not bound and has no qualifier. A dependency is resolved to an instance only if it is bound
or has such a class. So if classes are not constructed just in time, then each dependency is
satisfied by the binding of its key or not at all: it can be resolved exactly if its key is bound,
and a type of provider supplies nothing unless it is bound itself. In any case, this holds for all
dependencies with a qualifier. The qualifier may have been put on a dependency of any kind, by
itself or as the last one of a member. -/
theorem constructions_are_licensed (c : Container) :
    ((∀ s, c.InUse s → s.Faithful c) ∧
      ∀ s, s.Faithful c → ∀ ops r t, c.operate ops s = some (r, t) → t.Faithful c) ∧
    (∀ s, s.Faithful c → ∀ ops, (∀ op ∈ ops, op.isOwn = true) →
      ∀ r t, c.operate ops s = some (r, t) →
        ∃ es, s.Entered t es ∧ c.Tells (fun _ => False) es ∧
          (∀ before e after cls, es = before ++ e :: after → e.constructs? = some cls →
            c.WithinSupply cls before after ∨
              (c.config.jitBindings = true ∧ c.WithinResolution cls before after)) ∧
          ∀ d i, .resolved d (.ok i) ∈ es →
            c.hasBinding d.key = true ∨ ∃ cls, c.Licensed d cls) ∧
    (c.config.jitBindings = false → (∀ d, c.OnlyByBinding d) ∧
      ∀ b provider cls ty, b.source = .providerType provider cls ty →
        c.hasBinding provider.key = false →
        ∀ n s r t, c.provision (c.resolveWithin n) b s = some (r, t) →
          r = .error (.noConstructor provider.key.text provider.key.ty.name)) ∧
    (∀ d, d.key.isQualified = true → c.OnlyByBinding d) ∧
    (∀ (d : Dependency) q, (d.qualifiedBy q).key.isQualified = true) ∧
    ∀ (m : Member) q, (m.qualifiedBy q).dependencies.getLast? =
      m.dependencies.getLast?.map (·.qualifiedBy q) := by
  refine ⟨⟨fun s => InUse.faithful, fun s hs ops r t => faithful_operate hs⟩,
    fun s hs ops hops r t hrun => ?_,
    fun hdisabled => ⟨onlyByBinding_of_disabled hdisabled,
      fun b provider cls ty hsource hunbound n s r t hrun =>
        (onlyByBinding_of_disabled hdisabled provider).provision hsource hunbound hrun⟩,
    fun d => onlyByBinding_of_isQualified, fun d q => d.key.isQualified_qualifiedBy q,
    fun m q => getLast?_qualifyLast q m.dependencies⟩
  obtain ⟨-, ⟨es, hes, htells⟩, -⟩ :=
    telling_operate (K := fun _ => False) hops s hs trivial r t hrun
  refine ⟨es, hes, htells, fun before e after cls hsplit he => ?_,
    fun d i => htells.bound_or_licensed⟩
  rcases htells.licence hsplit he with ⟨hnone, -, -⟩ | hsupply | hresolution
  · exact hnone.elim
  · exact .inl hsupply
  · have hresolution' := hresolution
    obtain ⟨d, -, hlicensed, -⟩ := hresolution'
    exact .inr ⟨hlicensed.enabled, hresolution⟩

/-- A potter needs an oven, and makes it if there is none. -/
def potteryClasses : ClassTable := .ofList
  [("Potter", ⟨[(Member.constructor "Potter" (.reading [.component "Oven"] none)).requiring
      [.injectable "Oven"]], [], .fresh fun _ => none⟩),
    ("Oven", ⟨[.constructor "Oven" (.reading [] none)], [], .fresh fun _ => none⟩)]

/-- A pottery with a potter who may make things just in time, or may not. -/
def pottery (jit : Bool) : Container :=
  ⟨{ ContainerConfig.standard with jitBindings := jit },
    .ofDefinitions [⟨.ofTy (.component "Potter"), .constructor "Potter", .unscoped, false⟩], [],
    potteryClasses⟩

/-- A pottery in which nothing has happened. -/
def newPottery (jit : Bool) : State := ⟨(pottery jit).initialMemory, .new⟩

/-- The potter makes an oven just in time and is there, too, for there is a binding. A spare oven is
not made just in time, and no oven at all if nothing is. -/
theorem pottery_makes_oven :
    (∃ r t es, (pottery true).operate [.start, .resolve (.injectable "Potter")] (newPottery true) =
        some (r, t) ∧
      (newPottery true).Entered t es ∧ (pottery true).Tells (fun _ => False) es ∧
      es.filterMap Event.constructs? = ["Oven", "Oven", "Potter", "Potter"]) ∧
    (∀ s, (pottery true).canResolve ((Dependency.injectable "Oven").qualifiedBy (.named "spare"))
      s = some (.ok false, s)) ∧
    ∀ s, (pottery false).canResolve (.injectable "Oven") s = some (.ok false, s) := by
  obtain ⟨-, htells, -, hqualified, hqualifies, -⟩ := constructions_are_licensed (pottery true)
  obtain ⟨-, -, hdisabled, -⟩ := constructions_are_licensed (pottery false)
  refine ⟨?_, (hqualified _ (hqualifies _ _)).asked, ((hdisabled rfl).1 _).asked⟩
  have hmakes : ((pottery true).operate [.start, .resolve (.injectable "Potter")]
      (newPottery true)).map (·.2.world.journal.toList.filterMap Event.constructs?) =
        some ["Oven", "Oven", "Potter", "Potter"] := by
    decide +kernel
  obtain ⟨⟨r, t⟩, hrun, hjournal⟩ := Option.map_eq_some_iff.mp hmakes
  obtain ⟨es, hes, htold, -⟩ := htells (newPottery true) ((pottery true).faithful_initial .new)
    [.start, .resolve (.injectable "Potter")] (by simp [Operation.isOwn]) r t hrun
  refine ⟨r, t, es, hrun, hes, htold, ?_⟩
  rw [← hjournal, hes]
  rfl

end Container

end Wiring
