import Wiring.Proofs.Growth
import Wiring.Proofs.Points
import Wiring.Proofs.Prolonging

/-!
# Where Instances Stem From

An object is not only a class and a number. It was given other instances, these were given others in
turn, and so on. Where all of this comes from is said by the container: an instance for a dependency
is what a scope has kept from before, or it comes from the source of its binding, and then the
members of its class were called with instances that stem from their dependencies.

Two instances are *peers* if they are the same but for identities and if the calls that the
container owes them were made on both of them, in the same order, with arguments that are peers
themselves. How deep this is looked into is bounded by a depth, and what is meant is that it holds
for every depth. If nothing depends on counts, then instances that stem from the same dependency are
peers.

## Conventions

Everything is said with regard to a state `s₀` in which the work of the container began, and to what
was recorded since. More may have been recorded than what the container owes to the one dependency,
since other bindings and clients may inject the same object. So calls are found in a history if they
are a sublist of it, after what had been recorded before.

A copy that an object makes of its part when it is called as a provider has the history of the part.

## Main statements

* `Value.SameButIdentity`, `Container.Constant`: what identities hide, and when this is all.
* `Container.Origin`: where the instances for a dependency come from.
* `Container.Owes`: which members are called, by way of where an instance comes from.
* `Container.Received`: the calls of members were made, with arguments of which something holds.
* `Container.StemsFrom`, `Container.Stems`: an instance stems from a dependency.
* `Container.Peers`: two instances are the same, down to a depth.
* `Container.StemsFrom.peers`: what stems from the same dependency are peers.
-/

namespace Wiring

/-! ### The same but for identities -/

/-- A value without the identity of what it refers to. -/
def Value.anonymous : Value → Value
  | object cls _ => object cls 0
  | service iface label _ => service iface label 0
  | request _ => request 0
  | response _ => response 0
  | session _ => session 0
  | v => v

/-- Two values are the same but for the identities of what they refer to. -/
def Value.SameButIdentity (v w : Value) : Prop := v.anonymous = w.anonymous

namespace Value.SameButIdentity

variable {u v w : Value}

theorem refl (v : Value) : v.SameButIdentity v := Eq.refl v.anonymous

theorem symm (h : v.SameButIdentity w) : w.SameButIdentity v := Eq.symm h

theorem trans (h : u.SameButIdentity v) (h' : v.SameButIdentity w) : u.SameButIdentity w :=
  Eq.trans h h'

theorem ty_eq (h : v.SameButIdentity w) : v.ty = w.ty := by
  have hty : ∀ v : Value, v.anonymous.ty = v.ty := fun v => by cases v <;> rfl
  rw [← hty v, h, hty w]

/-- Values that are made for the same label differ in nothing but identities. -/
theorem of_madeFor {ty : Ty} {label : String} (h : v.MadeFor ty label) (h' : w.MadeFor ty label) :
    v.SameButIdentity w := by
  obtain ⟨u, rfl⟩ := h
  obtain ⟨u', rfl⟩ := h'
  cases ty <;> rfl

end Value.SameButIdentity

/-- Two lists of instances are the same but for identities. -/
abbrev SameButIdentities (is js : List Instance) : Prop :=
  List.Forall₂ (fun i j => i.value.SameButIdentity j.value) is js

/-- What is read of arguments that differ in identities differs in identities. -/
theorem Arguments.sameButIdentities_readAll {is js : List Instance} (h : SameButIdentities is js)
    (member : String) (taken : Nat) (tys : List Ty) :
    SameButIdentities ((Arguments.mk member is taken).readAll tys).values
      ((Arguments.mk member js taken).readAll tys).values := by
  induction tys generalizing is js taken with
  | nil => exact .nil
  | cons ty tys ih =>
    rw [readAll_cons, readAll_cons]
    cases h with
    | nil => exact .nil
    | @cons i j is js hij hrest =>
      have hty : i.ty = j.ty := hij.ty_eq
      simp only [next, Instance.cast, hty]
      by_cases h : j.ty = ty
      · simp only [if_pos h]
        exact .cons hij (ih hrest (taken + 1))
      · simp only [if_neg h]
        exact .nil

/-- The instances that a member reads among its arguments, as a member of `cls`. -/
def Member.valuesOf (m : Member) (cls : ClassPath) (is : List Instance) : List Instance :=
  (m.action (.ofList (TypeName.short cls ++ "." ++ m.name) is)).values

/-- The class whose objects supply what a source comes to, if there is one. -/
def Source.supplier? : Source → Option ClassPath
  | providerType _ cls _ => some cls
  | injectedProvider d _ => some d.subject.cls
  | _ => none

/-- What is called for a source comes to the same whatever the count is. -/
structure Source.IsConstant (classes : ClassTable) (source : Source) : Prop where
  /-- Providers. -/
  provider : ∀ ty label outcome, source = .provider (.calls ty label outcome) →
    ∀ n n', outcome n = outcome n'
  /-- Objects that are called as providers. -/
  supply : ∀ cls outcome, source.supplier? = some cls →
    (classes.decl cls).supply = .calls outcome →
    ∀ id id' n n', outcome cls id n = outcome cls id' n'

namespace Container

variable (c : Container)

/-- Success, errors and what is produced depend neither on counts nor on what was done before. What
is produced may differ in identities. -/
structure Constant : Prop extends c.Steady where
  /-- What a source comes to differs in nothing but identities, however often it was called. -/
  issues : ∀ (b : Binding) v v', c.registry.lookup b.key = some b →
    c.Issues v b.source → c.Issues v' b.source → v.SameButIdentity v'
  /-- What a member reads differs in nothing but identities if its arguments do. -/
  values : ∀ cls, ∀ m ∈ c.classes.members cls, ∀ is js, SameButIdentities is js →
    SameButIdentities (m.valuesOf cls is) (m.valuesOf cls js)

variable {c} {d : Dependency} {i j : Instance}

/-- Instances for a dependency that differ in counts and identities differ in nothing but
identities, if nothing depends on counts. -/
theorem Constant.sameButIdentity (h : c.Constant) (hij : c.Akin d i j) :
    i.value.SameButIdentity j.value := by
  unfold Akin at hij
  cases hb : c.registry.lookup d.key with
  | some b =>
    rw [hb] at hij
    have hkey : c.registry.lookup b.key = some b := by rw [Registry.key_of_lookup hb, hb]
    rcases hij with (heq | ⟨hi, hj⟩) | ⟨m, -, hi, hj⟩
    · rw [heq]
      exact .refl _
    · exact h.issues b _ _ hkey hi hj
    · exact .of_madeFor hi hj
  | none =>
    rw [hb] at hij
    obtain ⟨cls, -, heq | ⟨⟨id, hi⟩, ⟨id', hj⟩⟩⟩ := hij
    · rw [heq]
      exact .refl _
    · rw [hi, hj]
      rfl

/-- What a constant source comes to differs in nothing but identities. -/
theorem sameButIdentity_of_issues {source : Source} (hsource : source.IsConstant c.classes)
    {v v' : Value} (h : c.Issues v source) (h' : c.Issues v' source) : v.SameButIdentity v' := by
  have hsupply : ∀ {cls ty}, source.supplier? = some cls →
      (c.classes.decl cls).supply.Issues cls ty v → (c.classes.decl cls).supply.Issues cls ty v' →
      v.SameButIdentity v' := by
    intro cls ty hsupplier h h'
    cases hdeclared : (c.classes.decl cls).supply with
    | calls outcome =>
      rw [hdeclared] at h h'
      obtain ⟨id, n, label, hlabel, hv⟩ := h
      obtain ⟨id', n', label', hlabel', hv'⟩ := h'
      rw [hsource.supply cls outcome hsupplier hdeclared id id' n n'] at hlabel
      cases hlabel.symm.trans hlabel'
      exact .of_madeFor hv hv'
    | copyOf part =>
      rw [hdeclared] at h h'
      obtain ⟨id, rfl⟩ := h
      obtain ⟨id', rfl⟩ := h'
      rfl
  cases source with
  | given i => exact h.elim
  | injected d => exact h.elim
  | constructor cls =>
    obtain ⟨id, rfl⟩ := h
    obtain ⟨id', rfl⟩ := h'
    rfl
  | providerType provider cls ty => exact hsupply rfl h h'
  | injectedProvider d ty => exact hsupply rfl h h'
  | provider p =>
    cases p with
    | calls ty label outcome =>
      obtain ⟨n, made, hmade, hv⟩ := h
      obtain ⟨n', made', hmade', hv'⟩ := h'
      rw [hsource.provider ty label outcome rfl n n'] at hmade
      cases hmade.symm.trans hmade'
      exact .of_madeFor hv hv'
    | current part =>
      cases part with
      | session =>
        obtain ⟨id, rfl⟩ := h
        obtain ⟨id', rfl⟩ := h'
        rfl
      | _ => exact h.elim

/-- Plain classes read what they are given, so it is left to ask for constant sources. -/
theorem constant_of_plain (h : ∀ cls, (c.classes.decl cls).IsPlain)
    (hsource : ∀ b : Binding, c.registry.lookup b.key = some b → b.source.IsConstant c.classes) :
    c.Constant where
  toSteady := by
    refine steady_of_plain h fun b ty label outcome n n' e hb hprovider he => ?_
    rwa [(hsource b hb).provider ty label outcome hprovider n' n]
  issues b _ _ hb := sameButIdentity_of_issues (hsource b hb)
  values cls m hm is js hall := by
    obtain ⟨tys, haction⟩ := (h cls).member m hm
    unfold Member.valuesOf
    rw [haction]
    exact Arguments.sameButIdentities_readAll hall _ 0 tys

/-! ### Where instances come from -/

/-- What is kept for the key of a binding, where its scope looks for it. -/
def keptBefore? (s : State) (b : Binding) : Option Instance :=
  match b.scope with
  | .singleton => s.memory.instance? b.key
  | .contextual .request =>
    s.world.currentExchange?.bind fun e => (s.world.attributes (.request e.request)).get? b.key
  | .contextual .session =>
    s.world.currentExchange?.bind fun e => (s.world.request e.request).session.bind fun id =>
      (s.world.attributes (.session id)).get? b.key
  | .contextual (.named name .keep) => (s.world.context name).kept.get? b.key
  | _ => none

variable (c) (s₀ : State)

/-- The scope of a binding asks for an instance from its source, and takes it. -/
def Draws (b : Binding) : Prop :=
  match b.scope with
  | .contextual (.named _ (.replace _)) => False
  | .contextual (.named _ (.fallback _)) => ∃ i t, c.supply c.resolve b s₀ = some (.ok i, t)
  | _ => True

/-- Where the instances for a dependency come from, after `s₀`. There is nothing to tell of those
that a context makes by itself. -/
inductive Origin (d : Dependency) : Source → Prop
  /-- An instance is kept from before. -/
  | kept {b : Binding} {i : Instance} : c.registry.lookup d.key = some b →
    keptBefore? s₀ b = some i → Origin d (.given i)
  /-- The binding of the dependency has a source. -/
  | bound {b : Binding} : c.registry.lookup d.key = some b → keptBefore? s₀ b = none →
    c.Draws s₀ b → Origin d b.source
  /-- A class is constructed just in time. -/
  | unbound {cls : ClassPath} : c.registry.lookup d.key = none → c.justInTime d = some cls →
    Origin d (.constructor cls)

/-! ### What instances are owed -/

/-- The members that are injected into objects of a class, in order. -/
def points (cls : ClassPath) : List Member := (c.classes.instancePoints cls).filter c.runs

/-- The members that are called when an object of a class is constructed, in order. -/
def membersCalled (cls : ClassPath) : List Member :=
  (c.classes.members cls).filter Member.isConstructor ++ c.points cls

/-- The members that act on the part which is reached through parts of the classes `path`. -/
def onPath (path : List ClassPath) (ms : List Member) : List Member :=
  ms.filter fun m => m.path = path

/-- Members of `cls` that are called, in order, for an instance of a source, on the part which is
reached through parts of the classes `path`. -/
inductive Owes : Source → List ClassPath → ClassPath → List Member → Prop
  /-- An object is constructed and injected. -/
  | constructed (cls : ClassPath) (path : List ClassPath) :
    Owes (.constructor cls) path cls (onPath path (c.membersCalled cls))
  /-- An object that is there is injected. -/
  | injected {d : Deferral} {cls : ClassPath} {id : Nat} {o : Object} (path : List ClassPath) :
    d.subject = .existing cls id → s₀.world.object? id = some o →
    Owes (.injected d) path cls (onPath path (c.points cls))
  /-- An object that the container is asked for copies its part. -/
  | copied {provider : Dependency} {cls cls' part : ClassPath} {ty : Ty} {source : Source}
      {ms : List Member} : (c.classes.decl cls).supply = .copyOf part →
    c.Origin s₀ provider source → Owes source [part] cls' ms →
    Owes (.providerType provider cls ty) [] cls' ms
  /-- An object that is injected copies its part. -/
  | copiedOnce {d : Deferral} {cls' part : ClassPath} {ty : Ty} {ms : List Member} :
    (c.classes.decl d.subject.cls).supply = .copyOf part → Owes (.injected d) [part] cls' ms →
    Owes (.injectedProvider d ty) [] cls' ms

/-! ### What instances were given -/

variable {c}

/-- A member of `cls` was called with instances for its dependencies of which `R` holds. -/
def CalledWith (R : Dependency → Instance → Prop) (cls : ClassPath) (m : Member) (call : Call) :
    Prop :=
  ∃ is w, List.Forall₂ R m.dependencies is ∧ call = World.call w m.name (m.valuesOf cls is)

/-- Members were called one after another with instances of which `R` holds, and that was recorded
since `w₀` for a part of an object. -/
def Received (R : Dependency → Instance → Prop) (w₀ w : World) (id : Nat) (path : List ClassPath)
    (cls : ClassPath) (ms : List Member) : Prop :=
  ∃ calls, List.Forall₂ (CalledWith R cls) ms calls ∧
    List.Sublist (w₀.historyAt id path ++ calls) (w.historyAt id path)

variable (c)

/-- An instance is what a source comes to, and was given what it is owed. -/
structure ComesFrom (R : Dependency → Instance → Prop) (w : World) (source : Source)
    (i : Instance) : Prop where
  /-- What is given is just that. -/
  given : ∀ j, source = .given j → i.value = j.value
  /-- The members were called. -/
  received : ∀ path cls ms, c.Owes s₀ source path cls ms → ∃ id cls',
    i.value = .object cls' id ∧ Received R s₀.world w id path cls ms

/-- The instance is what the dependency is resolved to in `s₀`, but for identities. -/
def Resembles (d : Dependency) (i : Instance) : Prop :=
  ∃ j t, c.resolve d s₀ = some (.ok j, t) ∧ i.value.SameButIdentity j.value

/-- The instance stems from a dependency, as far as one looks into it. -/
def StemsFrom : Nat → World → Dependency → Instance → Prop
  | 0, _, _, _ => True
  | n + 1, w, d, i => c.Resembles s₀ d i ∧
    ∀ source, c.Origin s₀ d source → c.ComesFrom s₀ (StemsFrom n w) w source i

/-- The instance stems from a dependency. -/
def Stems (w : World) (d : Dependency) (i : Instance) : Prop := ∀ n, c.StemsFrom s₀ n w d i

/-- The instance comes from a source, and so does all that it was given. -/
def Sourced (w : World) (source : Source) (i : Instance) : Prop :=
  ∀ n, c.ComesFrom s₀ (c.StemsFrom s₀ n w) w source i

variable {c s₀} {R R' : Dependency → Instance → Prop} {w₀ w w' : World} {id n : Nat}
  {path : List ClassPath} {cls : ClassPath} {m : Member} {ms : List Member} {call : Call}
  {source : Source} {d : Dependency} {i j : Instance}

/-! ### What was given stays given -/

/-- A call with instances of which more holds. -/
theorem CalledWith.mono (hR : ∀ d i, R d i → R' d i) (h : CalledWith R cls m call) :
    CalledWith R' cls m call := by
  obtain ⟨is, w, his, hcall⟩ := h
  exact ⟨is, w, his.imp fun _ _ => hR _ _, hcall⟩

/-- What was received stays received. -/
theorem Received.mono (hR : ∀ d i, R d i → R' d i) (hw : w.ProlongedBy w')
    (h : Received R w₀ w id path cls ms) : Received R' w₀ w' id path cls ms := by
  obtain ⟨calls, hcalls, hsub⟩ := h
  exact ⟨calls, hcalls.imp fun _ _ => .mono hR, hsub.trans (hw.historyAt id path).sublist⟩

/-- An instance goes on to come from its source. -/
theorem ComesFrom.mono (hR : ∀ d i, R d i → R' d i) (hw : w.ProlongedBy w')
    (h : c.ComesFrom s₀ R w source i) : c.ComesFrom s₀ R' w' source i := by
  refine ⟨h.given, fun path cls ms howes => ?_⟩
  obtain ⟨id, cls', hi, hreceived⟩ := h.received path cls ms howes
  exact ⟨id, cls', hi, hreceived.mono hR hw⟩

/-- An instance goes on to stem from its dependency, as far as one looks. -/
theorem StemsFrom.mono (hw : w.ProlongedBy w') (h : c.StemsFrom s₀ n w d i) :
    c.StemsFrom s₀ n w' d i := by
  induction n generalizing d i with
  | zero => trivial
  | succ n ih =>
    exact ⟨h.1, fun source horigin => (h.2 source horigin).mono (fun _ _ => ih) hw⟩

/-- An instance goes on to stem from its dependency. -/
theorem Stems.mono (hw : w.ProlongedBy w') (h : c.Stems s₀ w d i) : c.Stems s₀ w' d i :=
  fun n => (h n).mono hw

/-- An instance goes on to come from its source, and so does what it was given. -/
theorem Sourced.mono (hw : w.ProlongedBy w') (h : c.Sourced s₀ w source i) :
    c.Sourced s₀ w' source i := fun n => (h n).mono (fun _ _ => StemsFrom.mono hw) hw

/-- An instance stems from a dependency if it comes from where instances for it come from. -/
theorem stems_iff : c.Stems s₀ w d i ↔
    c.Resembles s₀ d i ∧ ∀ source, c.Origin s₀ d source → c.Sourced s₀ w source i := by
  constructor
  · exact fun h => ⟨(h 1).1, fun source horigin n => (h (n + 1)).2 source horigin⟩
  · rintro ⟨hresembles, hsourced⟩ (_ | n)
    · trivial
    · exact ⟨hresembles, fun source horigin => hsourced source horigin n⟩

/-! ### What is recorded -/

/-- No members were called. -/
theorem Received.nil (hw : w₀.ProlongedBy w) : Received R w₀ w id path cls [] :=
  ⟨[], .nil, by simpa using (hw.historyAt id path).sublist⟩

/-- One more member was called. -/
theorem Received.snoc (h : Received R w₀ w id path cls ms) (hcall : CalledWith R cls m call)
    (hrecorded : w'.historyAt id path = w.historyAt id path ++ [call]) :
    Received R w₀ w' id path cls (ms ++ [m]) := by
  obtain ⟨calls, hcalls, hsub⟩ := h
  refine ⟨calls ++ [call], List.rel_append hcalls (.cons hcall .nil), ?_⟩
  rw [hrecorded, ← List.append_assoc]
  exact hsub.append (List.Sublist.refl _)

/-! ### Peers -/

variable (c s₀)

/-- A member of `cls` was called twice, with instances for its dependencies that are related by `R`.
What it reads of them is the same but for identities. -/
def CalledAlike (R : Dependency → Instance → Instance → Prop) (cls : ClassPath) (m : Member)
    (calls : Call × Call) : Prop :=
  ∃ (arguments : List (Instance × Instance)) (w w' : World),
    List.Forall₂ (fun d p => R d p.1 p.2) m.dependencies arguments ∧
    SameButIdentities (m.valuesOf cls (arguments.map Prod.fst))
      (m.valuesOf cls (arguments.map Prod.snd)) ∧
    calls.1 = w.call m.name (m.valuesOf cls (arguments.map Prod.fst)) ∧
    calls.2 = w'.call m.name (m.valuesOf cls (arguments.map Prod.snd))

/-- Members were called one after another for a part of an object, and as well for that of another
one, in two worlds. -/
def ReceivedAlike (R : Dependency → Instance → Instance → Prop) (w₀ w₀' w w' : World)
    (id id' : Nat) (path : List ClassPath) (cls : ClassPath) (ms : List Member) : Prop :=
  ∃ calls : List (Call × Call), List.Forall₂ (CalledAlike R cls) ms calls ∧
    List.Sublist (w₀.historyAt id path ++ calls.map Prod.fst) (w.historyAt id path) ∧
    List.Sublist (w₀'.historyAt id' path ++ calls.map Prod.snd) (w'.historyAt id' path)

/-- Two instances for a dependency, in two worlds, are the same but for identities, and were given
the same, as far as one looks into it. -/
def Peers : Nat → World → World → Dependency → Instance → Instance → Prop
  | 0, _, _, _, i, j => i.value.SameButIdentity j.value
  | n + 1, w, w', d, i, j => i.value.SameButIdentity j.value ∧
    ∀ source, c.Origin s₀ d source → (∀ k, source = .given k → i.value = j.value) ∧
      ∀ path cls ms, c.Owes s₀ source path cls ms → ∃ id id' cls',
        i.value = .object cls' id ∧ j.value = .object cls' id' ∧
        ReceivedAlike (Peers n w w') s₀.world s₀.world w w' id id' path cls ms

variable {c s₀} {Q : Dependency → Instance → Instance → Prop} {w₀' : World} {id' : Nat}
  {call' : Call}

/-- Peers are the same but for identities. -/
theorem Peers.sameButIdentity (h : c.Peers s₀ n w w' d i j) :
    i.value.SameButIdentity j.value := by
  cases n with
  | zero => exact h
  | succ n => exact h.1

/-- What corresponds to the elements of a list twice may be put in pairs. -/
theorem exists_pairs {α β γ : Type} {A : α → β → Prop} {B : α → γ → Prop} {P : α → β × γ → Prop}
    {as : List α} {bs : List β} {cs : List γ} (hP : ∀ a ∈ as, ∀ b c, A a b → B a c → P a (b, c))
    (h : List.Forall₂ A as bs) (h' : List.Forall₂ B as cs) :
    ∃ ps, List.Forall₂ P as ps ∧ ps.map Prod.fst = bs ∧ ps.map Prod.snd = cs := by
  induction h generalizing cs with
  | nil =>
    cases h'
    exact ⟨[], .nil, rfl, rfl⟩
  | @cons a b as bs hab _ ih =>
    cases h' with
    | @cons _ c _ cs hac h' =>
      obtain ⟨ps, hps, rfl, rfl⟩ := ih (fun a' ha' => hP a' (List.mem_cons_of_mem a ha')) h'
      exact ⟨(b, c) :: ps, .cons (hP a List.mem_cons_self b c hab hac) hps, rfl, rfl⟩

/-- Pairs of peers are the same but for identities. -/
theorem sameButIdentities_pairs {ds : List Dependency} {arguments : List (Instance × Instance)}
    (hQ : ∀ d i j, Q d i j → i.value.SameButIdentity j.value)
    (h : List.Forall₂ (fun d p => Q d p.1 p.2) ds arguments) :
    SameButIdentities (arguments.map Prod.fst) (arguments.map Prod.snd) := by
  induction h with
  | nil => exact .nil
  | cons hd _ ih => exact .cons (hQ _ _ _ hd) ih

/-- Members that are injected into objects of a class are members of the class. -/
theorem mem_members_of_mem_points (hm : m ∈ c.points cls) : m ∈ c.classes.members cls := by
  have hlisted := List.mem_of_mem_filter hm
  unfold ClassTable.instancePoints at hlisted
  rcases List.mem_append.mp hlisted with hlisted | hlisted <;>
    exact List.mem_of_mem_filter (List.mem_of_mem_filter hlisted)

/-- What is owed are members of a class. -/
theorem Owes.mem_members (h : c.Owes s₀ source path cls ms) (hm : m ∈ ms) :
    m ∈ c.classes.members cls := by
  induction h with
  | constructed cls path =>
    rcases List.mem_append.mp (List.mem_of_mem_filter hm) with hm | hm
    · exact List.mem_of_mem_filter hm
    · exact mem_members_of_mem_points hm
  | injected path _ _ => exact mem_members_of_mem_points (List.mem_of_mem_filter hm)
  | copied _ _ _ ih => exact ih hm
  | copiedOnce _ _ ih => exact ih hm

namespace Constant

variable (hconstant : c.Constant) (hR : ∀ d i j, R d i → R' d j → Q d i j)
  (hQ : ∀ d i j, Q d i j → i.value.SameButIdentity j.value)
include hconstant hR hQ

/-- Calls of a member are alike if the instances that it was called with are. -/
theorem calledAlike (hm : m ∈ c.classes.members cls) (h : CalledWith R cls m call)
    (h' : CalledWith R' cls m call') : CalledAlike Q cls m (call, call') := by
  obtain ⟨is, u, his, rfl⟩ := h
  obtain ⟨js, v, hjs, rfl⟩ := h'
  obtain ⟨arguments, hall, rfl, rfl⟩ := exists_pairs
    (P := fun d p => Q d p.1 p.2) (fun d _ i j => hR d i j) his hjs
  have hsame := hconstant.values cls m hm _ _ (sameButIdentities_pairs hQ hall)
  exact ⟨arguments, u, v, hall, hsame, rfl, rfl⟩

/-- What was received is alike. -/
theorem receivedAlike (hms : ∀ m ∈ ms, m ∈ c.classes.members cls)
    (h : Received R w₀ w id path cls ms) (h' : Received R' w₀' w' id' path cls ms) :
    ReceivedAlike Q w₀ w₀' w w' id id' path cls ms := by
  obtain ⟨calls, hcalls, hsub⟩ := h
  obtain ⟨calls', hcalls', hsub'⟩ := h'
  obtain ⟨pairs, hpairs, rfl, rfl⟩ := exists_pairs (P := CalledAlike Q cls)
    (fun m hm _ _ => hconstant.calledAlike hR hQ (hms m hm)) hcalls hcalls'
  exact ⟨pairs, hpairs, hsub, hsub'⟩

end Constant

/-- **What stems from the same dependency are peers**, if nothing depends on counts. -/
theorem StemsFrom.peers (hconstant : c.Constant) (h : c.StemsFrom s₀ (n + 1) w d i)
    (h' : c.StemsFrom s₀ (n + 1) w' d j) : c.Peers s₀ n w w' d i j := by
  have hsame : ∀ {m d i j}, c.StemsFrom s₀ (m + 1) w d i → c.StemsFrom s₀ (m + 1) w' d j →
      i.value.SameButIdentity j.value := by
    rintro m d i j ⟨⟨i₀, t, hrun, hi⟩, -⟩ ⟨⟨j₀, t', hrun', hj⟩, -⟩
    cases hrun.symm.trans hrun'
    exact hi.trans hj.symm
  -- Both instances resemble what the dependency is resolved to in `s₀`, and with it each other. What
  -- they were given is compared at the depth before.
  induction n generalizing d i j with
  | zero => exact hsame h h'
  | succ n ih =>
    refine ⟨hsame h h', fun source horigin => ?_⟩
    have hcomes := h.2 source horigin
    have hcomes' := h'.2 source horigin
    refine ⟨fun k hk => (hcomes.given k hk).trans (hcomes'.given k hk).symm,
      fun path cls ms howes => ?_⟩
    obtain ⟨id, cls', hi, hreceived⟩ := hcomes.received path cls ms howes
    obtain ⟨id', cls'', hj, hreceived'⟩ := hcomes'.received path cls ms howes
    have hcls : cls' = cls'' := by
      have heq := hsame h h'
      rw [hi, hj] at heq
      exact (Value.object.inj heq).1
    subst hcls
    exact ⟨id, id', cls', hi, hj, hconstant.receivedAlike (fun _ _ _ => ih)
      (fun _ _ _ => Peers.sameButIdentity) (fun m hm => howes.mem_members hm) hreceived hreceived'⟩

/-- What stems from the same dependency are peers down to every depth. -/
theorem Stems.peers (hconstant : c.Constant) (h : c.Stems s₀ w d i) (h' : c.Stems s₀ w' d j)
    (n : Nat) : c.Peers s₀ n w w' d i j := (h (n + 1)).peers hconstant (h' (n + 1))

end Container

end Wiring
