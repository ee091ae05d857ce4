import Wiring.Proofs.Stages

/-!
# What Counts and Identities Change

Two resolutions of one dependency need not come to the same instance. A provider may have been
called more often in between, and an object that is constructed is a new one each time.
`Container.Akin` says which instances for a dependency differ in nothing but that: their values are
equal, or both are what its source comes to for some count and for some identities. What is given
has no such variants.

A container is *steady* if it is of no consequence for errors how often something was called before
and which of such variants a member is given. Errors may well depend on everything else, such as the
text that is given for a key.

## Conventions

Members do not see the state of the objects that they are given, only which objects they are, so for
a member all objects of a class are variants of each other. Accessors of contexts follow one of five
rules. None of these depends on counts or identities, so nothing need be asked of them.

## Main statements

* `Container.Issues`: what a source comes to for some count and for some identities.
* `Container.SourceAkin`, `Container.BindingAkin`, `Container.Akin`: instances that differ in counts
  and identities.
* `Container.Steady`: errors do not depend on counts and identities.
* `Container.Akin.ty_eq`: variants are of the same type.
* `Container.steady_of_plain`: classes whose members only read their arguments are steady.
-/

namespace Wiring

/-- The value is made for a label, in some state of the world. -/
def Value.MadeFor (v : Value) (ty : Ty) (label : String) : Prop :=
  ∃ w : World, (w.make ty label).1 = v

/-- A value that is made for a type is of it. -/
theorem Value.MadeFor.ty_eq {v : Value} {ty : Ty} {label : String} (h : v.MadeFor ty label) :
    v.ty = ty := by
  obtain ⟨w, rfl⟩ := h
  exact w.ty_make ty label

/-- The value of a new instance is made for its label. -/
theorem World.madeFor_makeInstance (w : World) (ty : Ty) (label : String) :
    (w.makeInstance ty label).1.value.MadeFor ty label := ⟨w, rfl⟩

/-- What some object of class `cls` supplies as a provider of values of type `ty`, after some number
of calls. -/
def Supply.Issues (cls : ClassPath) (ty : Ty) (v : Value) : Supply → Prop
  | .calls outcome => ∃ id n label, outcome cls id n = .ok label ∧ v.MadeFor ty label
  | .copyOf part => ∃ id, v = .object part id

/-- What is supplied is always of the same type. -/
theorem Supply.ty_eq_of_issues {cls : ClassPath} {ty : Ty} {v v' : Value} {supply : Supply}
    (h : supply.Issues cls ty v) (h' : supply.Issues cls ty v') : v.ty = v'.ty := by
  cases supply with
  | calls outcome =>
    obtain ⟨_, _, _, -, hv⟩ := h
    obtain ⟨_, _, _, -, hv'⟩ := h'
    rw [hv.ty_eq, hv'.ty_eq]
  | copyOf part =>
    obtain ⟨_, rfl⟩ := h
    obtain ⟨_, rfl⟩ := h'
    rfl

/-- Reading arguments fails with an error that depends on nothing but their types. -/
theorem Arguments.error_readAll_congr {a a' : Arguments} {tys : List Ty}
    (hmember : a.member = a'.member) (htaken : a.taken = a'.taken)
    (hrest : a.rest.map Instance.ty = a'.rest.map Instance.ty) :
    (a.readAll tys).error = (a'.readAll tys).error := by
  obtain ⟨member, is, taken⟩ := a
  obtain ⟨member', js, taken'⟩ := a'
  obtain rfl : member = member' := hmember
  obtain rfl : taken = taken' := htaken
  induction tys generalizing is js taken with
  | nil => rfl
  | cons ty tys ih =>
    rw [readAll_cons, readAll_cons]
    match is, js, hrest with
    | [], [], _ => rfl
    | i :: is, j :: js, hrest =>
      obtain ⟨hty, hrest⟩ := List.cons.inj hrest
      have hty : i.ty = j.ty := hty
      simp only [next, Instance.cast, hty]
      by_cases h : j.ty = ty
      · simp only [if_pos h]
        exact ih is (taken + 1) js hrest
      · simp only [if_neg h]

/-- The value that a context makes in place of the instance of a binding. -/
def Scope.making? : Scope → Option Making
  | contextual (.named _ (.replace m)) | contextual (.named _ (.fallback m)) => some m
  | _ => none

namespace Container

variable (c : Container)

/-! ### Variants -/

/-- What a source comes to for some count of calls and for some identities, where these matter. -/
def Issues (v : Value) : Source → Prop
  | .provider (.calls ty _ outcome) => ∃ n label, outcome n = .ok label ∧ v.MadeFor ty label
  | .provider (.current .session) => ∃ id, v = .session id
  | .constructor cls => ∃ id, v = .object cls id
  | .providerType _ cls ty => (c.classes.decl cls).supply.Issues cls ty v
  | .injectedProvider d ty => (c.classes.decl d.subject.cls).supply.Issues d.subject.cls ty v
  | .given _ | .injected _ | .provider (.current _) => False

/-- Two instances of a source differ at most in counts and identities. -/
def SourceAkin (source : Source) (i j : Instance) : Prop :=
  i.value = j.value ∨ c.Issues i.value source ∧ c.Issues j.value source

/-- Two instances of a binding differ at most in counts and identities, where a context may have
made both of them in place of an instance of the source. -/
def BindingAkin (b : Binding) (i j : Instance) : Prop :=
  c.SourceAkin b.source i j ∨
    ∃ m, b.scope.making? = some m ∧ i.value.MadeFor m.ty m.label ∧ j.value.MadeFor m.ty m.label

/-- Two instances for a dependency differ at most in counts and identities. -/
def Akin (d : Dependency) (i j : Instance) : Prop :=
  match c.registry.lookup d.key with
  | some b => c.BindingAkin b i j
  | none => ∃ cls, c.justInTime d = some cls ∧ c.SourceAkin (.constructor cls) i j

/-- Two lists of arguments for some dependencies differ at most in counts and identities. -/
inductive AkinAll : List Dependency → List Instance → List Instance → Prop where
  /-- There are no dependencies. -/
  | nil : AkinAll [] [] []
  /-- The first arguments differ at most in that, and so do the others. -/
  | cons {d : Dependency} {ds : List Dependency} {i j : Instance} {is js : List Instance} :
    c.Akin d i j → AkinAll ds is js → AkinAll (d :: ds) (i :: is) (j :: js)

/-- Whether members, providers and objects that are called as providers fail, and with which error,
does not depend on how often they were called, on the identity of objects or on what was done
before. -/
structure Steady : Prop where
  /-- Constructors and other members. -/
  member : ∀ cls, ∀ m ∈ c.classes.members cls, ∀ name is js, c.AkinAll m.dependencies is js →
    (m.action (.ofList name is)).error = (m.action (.ofList name js)).error
  /-- Providers. -/
  provider : ∀ (b : Binding) ty label outcome n n' e, c.registry.lookup b.key = some b →
    b.source = .provider (.calls ty label outcome) → outcome n = .error e → outcome n' = .error e
  /-- Objects that are called as providers. -/
  supply : ∀ cls outcome id id' n n' e, (c.classes.decl cls).supply = .calls outcome →
    outcome cls id n = .error e → outcome cls id' n' = .error e

variable {c} {source : Source} {b : Binding} {d : Dependency} {i j k : Instance}

theorem SourceAkin.refl (source : Source) (i : Instance) : c.SourceAkin source i i := .inl rfl

theorem SourceAkin.symm (h : c.SourceAkin source i j) : c.SourceAkin source j i :=
  h.imp Eq.symm And.symm

theorem SourceAkin.trans (h : c.SourceAkin source i j) (h' : c.SourceAkin source j k) :
    c.SourceAkin source i k := by
  rcases h with h | h
  · unfold SourceAkin
    rwa [h]
  · rcases h' with h' | h'
    · unfold SourceAkin
      rw [← h']
      exact .inr h
    · exact .inr ⟨h.1, h'.2⟩

/-- What a source comes to is always of the same type. -/
theorem ty_eq_of_issues {v v' : Value} (h : c.Issues v source) (h' : c.Issues v' source) :
    v.ty = v'.ty := by
  unfold Issues at h h'
  split at h
  · obtain ⟨_, _, -, hv⟩ := h
    obtain ⟨_, _, -, hv'⟩ := h'
    rw [hv.ty_eq, hv'.ty_eq]
  · obtain ⟨_, rfl⟩ := h
    obtain ⟨_, rfl⟩ := h'
    rfl
  · obtain ⟨_, rfl⟩ := h
    obtain ⟨_, rfl⟩ := h'
    rfl
  · exact Supply.ty_eq_of_issues h h'
  · exact Supply.ty_eq_of_issues h h'
  · exact h.elim
  · exact h.elim
  · exact h.elim

/-- Instances of a source that differ at most in counts and identities are of the same type. -/
theorem SourceAkin.ty_eq (h : c.SourceAkin source i j) : i.ty = j.ty :=
  h.elim (congrArg Value.ty) fun h => ty_eq_of_issues h.1 h.2

/-- So are those of a binding. -/
theorem BindingAkin.ty_eq (h : c.BindingAkin b i j) : i.ty = j.ty := by
  rcases h with h | ⟨m, -, hi, hj⟩
  · exact h.ty_eq
  · rw [Instance.ty, Instance.ty, hi.ty_eq, hj.ty_eq]

/-- Instances for a dependency that differ at most in counts and identities are of the same type. -/
theorem Akin.ty_eq (h : c.Akin d i j) : i.ty = j.ty := by
  unfold Akin at h
  split at h
  · exact h.ty_eq
  · obtain ⟨_, -, h⟩ := h
    exact h.ty_eq

/-- Instances of its binding are instances for a dependency. -/
theorem akin_of_bound (hb : c.registry.lookup d.key = some b) (h : c.BindingAkin b i j) :
    c.Akin d i j := by
  unfold Akin
  rwa [hb]

/-- Instances of its class are instances for a dependency without a binding. -/
theorem akin_of_unbound (hb : c.registry.lookup d.key = none) {cls : ClassPath}
    (hcls : c.justInTime d = some cls) (h : c.SourceAkin (.constructor cls) i j) :
    c.Akin d i j := by
  unfold Akin
  rw [hb]
  exact ⟨cls, hcls, h⟩

/-! ### Plain classes -/

/-- Arguments that differ at most in counts and identities are of the same types. -/
theorem AkinAll.map_ty_eq {ds : List Dependency} {is js : List Instance}
    (h : c.AkinAll ds is js) : is.map Instance.ty = js.map Instance.ty := by
  induction h with
  | nil => rfl
  | cons hij _ ih => rw [List.map_cons, List.map_cons, hij.ty_eq, ih]

/-- Plain classes are steady. -/
theorem steady_of_plain (h : ∀ cls, (c.classes.decl cls).IsPlain)
    (hprovider : ∀ (b : Binding) ty label outcome n n' e, c.registry.lookup b.key = some b →
      b.source = .provider (.calls ty label outcome) → outcome n = .error e →
      outcome n' = .error e) : c.Steady where
  member cls m hm name is js hakin := by
    obtain ⟨tys, haction⟩ := (h cls).member m hm
    rw [haction]
    simp only [Action.reading, Option.or_none]
    exact Arguments.error_readAll_congr rfl rfl hakin.map_ty_eq
  provider := hprovider
  supply cls outcome id id' n n' e hsupply he :=
    absurd he ((h cls).supply outcome hsupply cls id n e)

end Container

end Wiring
