import Wiring.Proofs.Delivery

/-!
# Availability and Resolution

The check of availability and the resolution of a dependency go through the same classes in
different ways: the check looks at constructors and required members, the resolution at optional
members as well, and at whatever bindings, scopes and members do. They agree nevertheless. What
resolves is available. And what is available resolves, if everything that is relied on works
(`Container.Dependable`).

For the first half, a chain of requirements that leads to a dead end is followed backwards: no
dependency on it ever resolves, whatever else happens on the way. The second half is
`Container.delivers_resolveWithin`.

## Main statements

* `never_resolveWithin`: from what never resolves, if requirements lead to a dead end.
* `isAvailable_of_resolveWithin`: what resolves is available.
* `canResolve_exact`: both halves, and what they mean for optional members.
-/

namespace Wiring

namespace Container

open Discipline Relation

variable {c : Container} {self : Dependency → Run Instance}

/-! ### What is not available cannot be resolved -/

/-- A required dependency that never resolves is never there. -/
theorem never_resolveRequired {e : Dependency} (he : c.faithful.Never (self e)) (member : String) :
    c.faithful.Never (c.resolveRequired self member e) := by
  unfold resolveRequired
  split
  · exact he
  · exact Ensures.fail _

/-- The arguments of a required member are never there if one of its dependencies never
resolves. -/
theorem never_collect {e : Dependency} (hself : ∀ d, c.faithful.Gives (self d))
    (he : c.faithful.Never (self e)) {ds : List Dependency} (hmem : e ∈ ds) (member : String) :
    c.faithful.Never (Run.collect (c.resolveRequired self member) ds) :=
  Ensures.never_collect (fun d _ => (Conduct.resolveRequired hself member d).allows) hmem
    (never_resolveRequired he member)

/-- A required member is never injected if one of its dependencies never resolves. -/
theorem never_injectPoint {e : Dependency} (he : c.faithful.Never (self e))
    (hself : ∀ d, c.faithful.Gives (self d)) {m : Member} (hmem : e ∈ m.dependencies)
    (hrequired : m.optional = false) {form : Form} {path : List ClassPath}
    (hrole : m.role = .instanceOf form path) (cat : Catalog) (target : ClassPath) (id : Nat) :
    c.faithful.Never (c.injectPoint self cat target id m) := by
  unfold injectPoint
  simp only [hrole, hrequired, argumentsFor_required]
  exact Ensures.never_then _ (Ensures.never_then _ (never_collect hself he hmem _))

/-- An object is never constructed if one of the requirements of its class never resolves. -/
theorem never_construct {cls : ClassPath} {cat : Catalog} {m : Member}
    (hcat : c.classes.catalog cls = .ok cat) (hm : cat.constructor = some m) {e : Dependency}
    (hmem : e ∈ cat.requirements m) (he : c.faithful.Never (self e))
    (hself : ∀ d, c.faithful.Gives (self d)) : c.faithful.Never (c.construct self cls) := by
  have hadmits := c.admitsAll_faithful.toAdmits
  unfold construct
  refine (c.ensures_catalog cls).bind fun cat' => ?_
  intro s hs hcat'
  rw [hcat] at hcat'
  cases hcat'
  refine Ensures.bind (V := fun _ m' => m' = m) (P := fun _ => True) ?_ (fun m' => ?_) s hs trivial
  · rw [constructorOf, hm]
    exact Ensures.succeed fun _ _ _ => rfl
  intro s hs hm'
  subst m'
  rw [Catalog.requirements, List.mem_append, List.mem_flatMap] at hmem
  refine (?_ : c.faithful.Never _) s hs trivial
  rcases hmem with hmem | ⟨p, hp, hmem⟩
  · exact Ensures.never_then _ (never_collect hself he hmem _)
  · -- the constructor may well do its part; then the required member `p` fails
    rw [List.mem_filter, Bool.not_eq_true'] at hp
    obtain ⟨form, path, hrole⟩ := ClassTable.role_of_mem_instancePoints hcat hp.1
    refine Ensures.then_never (Ensures.collect fun d _ => ?_) fun values => ?_
    · exact (Conduct.resolveRequired hself _ d).allows
    refine Ensures.then_never (hadmits.log _ (by rfl)) fun _ => ?_
    refine Ensures.then_never (Conduct.runConstructor hadmits _ m _).allows fun id => ?_
    refine Ensures.never_then _ (Ensures.never_each (fun p _ => ?_) hp.1 ?_)
    · exact Conduct.injectPoint hadmits hself cat cls id p
    · exact never_injectPoint he hself hmem hp.2 hrole cat cls id

/-- An object is never constructed if its class has no constructor. -/
theorem never_construct_of_none {cls : ClassPath} {cat : Catalog}
    (hcat : c.classes.catalog cls = .ok cat) (hm : cat.constructor = none) :
    c.faithful.Never (c.construct self cls) := by
  unfold construct
  refine (c.ensures_catalog cls).bind fun cat' => ?_
  intro s hs hcat'
  rw [hcat] at hcat'
  cases hcat'
  refine (Ensures.never_then _ ?_ : c.faithful.Never _) s hs trivial
  rw [constructorOf, hm]
  exact Ensures.fail _

/-- A dependency never resolves if there is never an answer. -/
theorem never_resolveStep {d : Dependency} (h : c.faithful.Never (c.answer self d)) :
    c.faithful.Never (c.resolveStep self d) := by
  refine Ensures.then_never (c.admitsAll_faithful.log _ (by rfl)) fun _ => ?_
  exact Ensures.noting h (fun _ _ _ _ h => h.elim) fun r s hs _ =>
    c.admitsAll_faithful.mark _ s rfl hs

/-- A dependency from which requirements lead to a dead end never resolves. -/
theorem never_resolveWithin {n : Nat} {d : Dependency} (h : c.Lacks c.classes.catalog n d)
    (depth : Nat) : c.faithful.Never (c.resolveWithin depth d) := by
  induction h generalizing depth with
  | @here d hd =>
    cases depth with
    | zero => exact Ensures.stuck
    | succ depth =>
      refine never_resolveStep ?_
      obtain ⟨hunbound, hjit | ⟨cls, cat, hjit, hcat, hm⟩⟩ := hd
      · rw [c.answer_of_unbound _ hunbound, hjit]
        exact Ensures.fail _
      · rw [c.answer_of_unbound _ hunbound, hjit]
        exact never_construct_of_none hcat hm
  | @there n d e hr _ ih =>
    cases depth with
    | zero => exact Ensures.stuck
    | succ depth =>
      obtain ⟨cls, cat, m, hc, hmem⟩ := hr
      refine never_resolveStep ?_
      rw [c.answer_of_unbound _ hc.unbound, hc.allowed]
      exact never_construct hc.catalog hc.constructor hmem (ih depth)
        (c.admitsAll_faithful.resolveWithin depth)

/-- What resolves, at whatever depth, is available. -/
theorem isAvailable_of_resolveWithin {s s' : State} (hs : s.Faithful c) {depth : Nat}
    {d : Dependency} {i : Instance} (h : c.resolveWithin depth d s = some (.ok i, s')) :
    c.isAvailable d = true := by
  by_contra hd
  rw [Bool.not_eq_true, isAvailable_eq_false_iff] at hd
  obtain ⟨n, hn⟩ := hd
  exact (never_resolveWithin hn depth s hs trivial _ _ h).2.2 i rfl

/-! ### Both halves -/

/-- The answer of the check, in a state with catalogs of the class table only. -/
theorem canResolve_eq_true_iff (c : Container) (d : Dependency) {s : State} (hs : s.Faithful c) :
    (∃ t, c.canResolve d s = some (.ok true, t)) ↔ c.isAvailable d = true := by
  rw [← c.available_fst d hs]
  constructor
  · rintro ⟨t, h⟩
    exact Except.ok.inj (congrArg Prod.fst (Option.some.inj h))
  · intro h
    exact ⟨s.withNotebook (c.available d s.notebook).2, by rw [← h]; rfl⟩

/-- An optional member is skipped exactly if one of its dependencies is not available. -/
theorem argumentsFor_eq_none_iff (c : Container) (self : Dependency → Run Instance)
    (member : String) (ds : List Dependency) {s : State} (hs : s.Faithful c) :
    (∃ t, c.argumentsFor self member ds true s = some (.ok none, t)) ↔
      ∃ d ∈ ds, c.isAvailable d = false := by
  obtain ⟨nb, -, hfound⟩ := c.firstUnavailable_eq ds hs
  rw [argumentsFor_optional]
  simp only [Run.bind_eq, hfound]
  cases hfind : ds.find? (!c.isAvailable ·) with
  | some d =>
    have hd := List.find?_some hfind
    refine iff_of_true ⟨_, rfl⟩ ⟨d, List.mem_of_find?_eq_some hfind, by simpa using hd⟩
  | none =>
    refine iff_of_false ?_ ?_
    · rintro ⟨t, h⟩
      simp only [argumentsFor_required, Run.bind_eq] at h
      revert h
      rcases Run.collect (c.resolveRequired self member) ds _ with _ | ⟨_ | _, _⟩
      · intro h; cases h
      · intro h; cases h
      · intro h; cases h
    · rintro ⟨d, hd, hna⟩
      simpa [hna] using List.find?_eq_none.mp hfind d hd

/-- **Availability is exact.** What resolves from a state, at whatever depth, is available in that
state. Conversely, when everything that `d` relies on works, then `d` resolves if it is available:
within some depth, and within the bound on depths if bound keys leave room for the declared classes.
So under these assumptions an optional member is skipped exactly when one of its dependencies could
not be resolved. -/
theorem canResolve_exact (c : Container) :
    (∀ d s, s.Faithful c →
      ∀ depth i s', c.resolveWithin depth d s = some (.ok i, s') →
        ∃ t, c.canResolve d s = some (.ok true, t)) ∧
    (∀ P d, c.Dependable P .any d → ∀ s, P s → s.Faithful c →
      (∃ t, c.canResolve d s = some (.ok true, t)) →
        ∃ depth i s', c.resolveWithin depth d s = some (.ok i, s') ∧ i.ty = d.key.ty) ∧
    (∀ P d, c.Dependable P (.upTo (c.registry.size + 2 + circularDepth)) d →
      ∀ s, P s → s.Faithful c → (∃ t, c.canResolve d s = some (.ok true, t)) →
        ∃ i s', c.resolve d s = some (.ok i, s') ∧ i.ty = d.key.ty) ∧
    (∀ P ds, (∀ d ∈ ds, c.Dependable P .any d) → ∀ s, P s → s.Faithful c → ∀ self member,
      ((∃ t, c.argumentsFor self member ds true s = some (.ok none, t)) ↔
        ∃ d ∈ ds, ¬ ∃ depth i s', c.resolveWithin depth d s = some (.ok i, s'))) := by
  have hresolves : ∀ P depths d, c.Dependable P depths d → ∀ s, P s → s.Faithful c →
      c.isAvailable d = true → ∃ n i s', depths.allows n ∧
        c.resolveWithin (n + c.classes.size) d s = some (.ok i, s') ∧ i.ty = d.key.ty := by
    intro P depths d h s hs hfaithful hd
    obtain ⟨n, i, s', hn, hi, -, hty⟩ :=
      delivers_resolveWithin h (fits_nil c) .refl hd (by simp) s ⟨hs, hfaithful⟩
    exact ⟨n, i, s', hn, hi n (Nat.le_refl n), hty⟩
  refine ⟨fun d s hs depth i s' h => ?_, fun P d h s hs hfaithful hd => ?_,
    fun P d h s hs hfaithful hd => ?_, fun P ds h s hs hfaithful self member => ?_⟩
  · exact (c.canResolve_eq_true_iff d hs).mpr (isAvailable_of_resolveWithin hs h)
  · rw [c.canResolve_eq_true_iff d hfaithful] at hd
    obtain ⟨n, i, s', -, hi, hty⟩ := hresolves P _ d h s hs hfaithful hd
    exact ⟨_, i, s', hi, hty⟩
  · rw [c.canResolve_eq_true_iff d hfaithful] at hd
    obtain ⟨n, i, s', hn, hi, hty⟩ := hresolves P _ d h s hs hfaithful hd
    refine ⟨i, s', c.resolveWithin_mono ?_ hi, hty⟩
    have hbound : n ≤ c.registry.size + 2 + circularDepth := hn
    unfold depthBound
    omega
  · rw [c.argumentsFor_eq_none_iff self member ds hfaithful]
    refine exists_congr fun d => and_congr_right fun hmem => ⟨fun hna => ?_, fun hnone => ?_⟩
    · rintro ⟨depth, i, s', hi⟩
      rw [isAvailable_of_resolveWithin hfaithful hi] at hna
      cases hna
    · by_contra hd
      rw [Bool.not_eq_false] at hd
      obtain ⟨n, i, s', -, hi, -⟩ := hresolves P _ d (h d hmem) s hs hfaithful hd
      exact hnone ⟨_, i, s', hi⟩

/-- A container in which a text is bound, for a class whose constructor takes a text and which has
an optional member that takes a number. -/
def lampShop : Container :=
  { config := .standard
    registry := .ofDefinitions [⟨.ofTy .text, .given ⟨0, .text "lamp"⟩, .unscoped, false⟩]
    staticTargets := []
    classes := .ofList
      [("Lamp", ⟨[(Member.constructor "Lamp" (.reading [.text] none)).requiring [.ofTy .text],
        ((Member.method "Lamp" "dim" (.reading [.number] none)).requiring
          [.ofTy .number]).withOptional true], [], .fresh fun _ => none⟩)] }

/-- What a lamp may need. -/
theorem lampShop_mayNeed {d e : Dependency} (h : lampShop.MayNeed d e) :
    d = .injectable "Lamp" ∧ (e = .ofTy .text ∨ e = .ofTy .number) := by
  obtain ⟨cls, cat, m, ⟨hunbound, hjit, hcat, hm⟩, he⟩ := h
  have hkeys : lampShop.classes.keys = ["Lamp"] := by decide
  have hcls : cls = "Lamp" := by
    have hmem := mem_keys_of_constructor hcat hm
    rw [hkeys] at hmem
    exact List.mem_singleton.mp hmem
  subst cls
  have hd : d = .injectable "Lamp" := eq_of_justInTime hjit rfl
  refine ⟨hd, ?_⟩
  cases hcat
  cases hm
  revert he
  simp only [Catalog.needs]
  intro he
  have hneeds : e ∈ [Dependency.ofTy .text, .ofTy .number] := he
  simpa using hneeds

/-- What a lamp or a number may need, directly or not. -/
theorem lampShop_reach {d e : Dependency} (hd : d = .injectable "Lamp" ∨ d = .ofTy .number)
    (h : ReflTransGen lampShop.MayNeed d e) :
    e = .injectable "Lamp" ∨ e = .ofTy .text ∨ e = .ofTy .number := by
  rcases ReflTransGen.cases_tail h with rfl | ⟨_, -, hlast⟩
  · exact hd.imp id .inr
  · exact .inr (lampShop_mayNeed hlast).2

/-- Everything that a lamp or a number relies on works. -/
theorem lampShop_dependable (depths : Depths) (hdepths : depths.allows 1) {d : Dependency}
    (hd : d = .injectable "Lamp" ∨ d = .ofTy .number) :
    lampShop.Dependable (fun _ => True) depths d where
  acyclic e _ hcycle := by
    obtain ⟨f, hfirst, -⟩ := TransGen.head'_iff.mp hcycle
    obtain ⟨g, -, hlast⟩ := TransGen.tail'_iff.mp hcycle
    have hfrom := (lampShop_mayNeed hfirst).1
    rcases (lampShop_mayNeed hlast).2 with heq | heq <;> rw [heq] at hfrom <;> cases hfrom
  bound e hreach hbound s _ := by
    have htext : e = .ofTy .text := by
      rcases lampShop_reach hd hreach with rfl | rfl | rfl
      · cases hbound
      · rfl
      · cases hbound
    subst htext
    exact ⟨1, ⟨0, .text "lamp"⟩, _, hdepths, rfl, rfl, trivial⟩
  builds e cls hreach hbound hjit := by
    rcases lampShop_reach hd hreach with rfl | rfl | rfl
    · cases hjit
      exact ⟨_, rfl⟩
    · cases hjit
    · cases hjit
  accepts e cls cat m hreach hconstructs := by
    have hcls : cls = "Lamp" := by
      rcases lampShop_reach hd hreach with rfl | rfl | rfl
      · cases hconstructs.allowed
        rfl
      · cases hconstructs.allowed
      · cases hconstructs.allowed
    subst hcls
    have hcat := hconstructs.catalog
    have hm := hconstructs.constructor
    cases hcat
    cases hm
    refine ⟨Member.accepts_of_reading rfl, fun p hp => ?_⟩
    obtain rfl := List.mem_singleton.mp hp
    exact Member.accepts_of_reading rfl
  robust _ _ _ h := h

/-- A lamp can be made, and is not dimmed as there is no number for it. -/
theorem lampShop_makes_lamps :
    (∃ i s', lampShop.resolve (.injectable "Lamp") ⟨lampShop.initialMemory, .new⟩ =
      some (.ok i, s') ∧ i.ty = .component "Lamp") ∧
    ∃ t, lampShop.argumentsFor lampShop.resolve "Lamp.dim" [.injectable "Lamp", .ofTy .number] true
      ⟨lampShop.initialMemory, .new⟩ = some (.ok none, t) := by
  obtain ⟨hsound, -, hresolves, hskipped⟩ := lampShop.canResolve_exact
  have hs := lampShop.faithful_initial .new
  have hlamp : ∃ t, lampShop.canResolve (.injectable "Lamp") ⟨lampShop.initialMemory, .new⟩ =
      some (.ok true, t) := (lampShop.canResolve_eq_true_iff _ hs).mpr (by decide)
  have hroom : (Depths.upTo (lampShop.registry.size + 2 + circularDepth)).allows 1 := by
    change 1 ≤ lampShop.registry.size + 2 + circularDepth
    omega
  refine ⟨hresolves _ _ (lampShop_dependable _ hroom (.inl rfl)) _ trivial hs hlamp, ?_⟩
  have hds : ∀ d ∈ [Dependency.injectable "Lamp", .ofTy .number],
      lampShop.Dependable (fun _ => True) .any d := by
    intro d hd
    refine lampShop_dependable _ trivial ?_
    simpa using hd
  refine (hskipped _ _ hds _ trivial hs _ _).mpr ⟨.ofTy .number, by simp, ?_⟩
  rintro ⟨depth, i, s', hi⟩
  obtain ⟨t, ht⟩ := hsound _ _ hs depth i s' hi
  have hnumber := (lampShop.canResolve_eq_true_iff _ hs).mp ⟨t, ht⟩
  exact absurd hnumber (by decide)

end Container

end Wiring
