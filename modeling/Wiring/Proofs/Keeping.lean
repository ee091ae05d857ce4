import Wiring.Proofs.Requests
import Wiring.Proofs.Termination

/-!
# What Requests and Sessions Keep

An instance in request scope is provided once and then kept by the request that is being handled,
and one in session scope by the session of that request. The journal tells how far the provision
is: the binding begins to supply the instance, and then there is one, which is kept from then on, or
there is still none. `Provision.replay` follows this through the entries of the journal, and fails
at an entry that does not fit, such as a second provision of what is kept already.

A container without circles keeps to the contract `Container.keeping`: its entries lead from what
is kept of a key before to what is kept afterwards.

## Conventions

While an instance is provided nothing is kept yet, so the state does not tell that its provision is
underway. The contract has the keys of such instances as a parameter. What a key needs does not
need the key again, and that is why an instance that was provided is the one that is kept.

## Main statements

* `Provision.replay`: how far entries lead.
* `Container.kept?`: the instance that is kept of a key.
* `Container.provides_keptBy`: what is kept is given, and what is not kept is provided first.
* `Container.keeping_resolveWithin`: resolutions keep to the contract.
* `Container.resolveWithin_of_kept`: nothing is done for what is kept already.
* `Container.provides_resolveWithin`: what the resolution of a kept key comes to.
-/

namespace Wiring

/-- The key that an event tells of: that its binding begins to supply an instance or is done, or
that an instance of it was found. -/
def Event.about? : Event → Option Key
  | supplying key | supplied key _ => some key
  | resolved d (.ok _) => some d.key
  | _ => none

/-- Only marks are about keys. -/
theorem Event.about?_of_not_isMark {e : Event} (h : e.isMark = false) : e.about? = none := by
  cases e with
  | supplying key => cases h
  | supplied key r => cases h
  | resolved d r => cases h
  | _ => rfl

/-- Entries of later stages are about no keys. -/
theorem Event.about?_of_stage {e : Event} (h : e.stage ≠ 0) : e.about? = none := by
  cases e with
  | supplying key => exact absurd rfl h
  | supplied key r => exact absurd rfl h
  | resolved d r => exact absurd rfl h
  | _ => rfl

/-- How far the provision of an instance is that is to be kept. -/
inductive Provision where
  /-- There is no instance. -/
  | missing
  /-- There is no instance, and the binding is supplying one. -/
  | underway
  /-- There is an instance. -/
  | kept (i : Instance)
  deriving DecidableEq

namespace Provision

/-- How far the provision is, given what is kept. -/
def ofOption : Option Instance → Provision
  | some i => kept i
  | none => missing

/-- How far the provision of `key` is after an entry in the journal, if the entry fits. -/
def next (key : Key) (p : Provision) : Event → Option Provision
  | .supplying k => if k = key then (if p = missing then some underway else none) else some p
  | .supplied k r =>
    if k = key then (if p = underway then some (ofOption r.toOption) else none) else some p
  | .resolved d (.ok i) => if d.key = key then (if p = kept i then some p else none) else some p
  | _ => some p

/-- How far the provision of `key` is after some entries in the journal, if they fit. -/
def replay (key : Key) (p : Provision) (es : List Event) : Option Provision :=
  es.foldlM (next key) p

variable {key : Key} {p q : Provision} {e : Event} {es : List Event} {i : Instance}

/-- Entries are replayed from the first one on. -/
theorem replay_cons (key : Key) (p : Provision) (e : Event) (es : List Event) :
    p.replay key (e :: es) = (p.next key e).bind fun q => q.replay key es := rfl

/-- Entries are replayed one after another. -/
theorem replay_append (key : Key) (p : Provision) (es fs : List Event) :
    p.replay key (es ++ fs) = (p.replay key es).bind fun q => q.replay key fs :=
  List.foldlM_append

/-- One entry. -/
theorem replay_singleton (key : Key) (p : Provision) (e : Event) :
    p.replay key [e] = p.next key e := by
  rw [replay_cons]
  cases p.next key e <;> rfl

/-- Only entries about the key matter. -/
theorem next_of_about? (h : e.about? ≠ some key) : p.next key e = some p := by
  cases e with
  | supplying k => exact if_neg fun heq => h (congrArg some heq)
  | supplied k r => exact if_neg fun heq => h (congrArg some heq)
  | resolved d r =>
    cases r with
    | ok i => exact if_neg fun heq => h (congrArg some heq)
    | error e => rfl
  | _ => rfl

/-- Entries about other keys do not matter. -/
theorem replay_of_about? (h : ∀ e ∈ es, e.about? ≠ some key) : p.replay key es = some p := by
  induction es with
  | nil => rfl
  | cons e es ih =>
    rw [replay_cons, next_of_about? (h e List.mem_cons_self)]
    exact ih fun e' he' => h e' (List.mem_cons_of_mem e he')

/-- An instance that is kept stays, is not supplied again, and is what is found. -/
theorem eq_kept_of_next (h : (kept i).next key e = some q) :
    q = kept i ∧ e ≠ .supplying key ∧ (∀ r, e ≠ .supplied key r) ∧
      ∀ d j, e = .resolved d (.ok j) → d.key = key → j = i := by
  by_cases habout : e.about? = some key
  · cases e with
    | supplying k =>
      cases habout
      simp [next] at h
    | supplied k r =>
      cases habout
      simp [next] at h
    | resolved d r =>
      cases r with
      | error e => cases habout
      | ok j =>
        cases habout
        simp only [next, if_true] at h
        split at h
        · next heq =>
          cases heq
          refine ⟨(Option.some.inj h).symm, nofun, nofun, fun d' j' heq _ => ?_⟩
          cases heq
          rfl
        · cases h
    | _ => cases habout
  · rw [next_of_about? habout] at h
    refine ⟨(Option.some.inj h).symm, fun heq => habout ?_, fun r heq => habout ?_,
      fun d j heq hkey => absurd ?_ habout⟩
    · rw [heq]
      rfl
    · rw [heq]
      rfl
    · rw [heq, ← hkey]
      rfl

/-- Once an instance is kept, nothing is supplied any more. -/
theorem eq_kept_of_replay (h : (kept i).replay key es = some q) :
    q = kept i ∧ ∀ e ∈ es, e ≠ .supplying key ∧ (∀ r, e ≠ .supplied key r) ∧
      ∀ d j, e = .resolved d (.ok j) → d.key = key → j = i := by
  induction es with
  | nil => exact ⟨(Option.some.inj h).symm, List.forall_mem_nil _⟩
  | cons e es ih =>
    rw [replay_cons] at h
    obtain ⟨p, hp, h⟩ := Option.bind_eq_some_iff.mp h
    obtain ⟨rfl, he⟩ := eq_kept_of_next hp
    obtain ⟨hq, hes⟩ := ih h
    exact ⟨hq, List.forall_mem_cons.mpr ⟨he, hes⟩⟩

/-- After a supply that succeeded there is an instance, and after one that failed there is none. -/
theorem eq_ofOption_of_next {r : Except ConfigurationError Instance}
    (h : p.next key (.supplied key r) = some q) : q = ofOption r.toOption := by
  simp only [next, if_true] at h
  split at h
  · exact (Option.some.inj h).symm
  · cases h

/-- What is found is what is there. -/
theorem eq_kept_of_resolved {d : Dependency}
    (h : p.next d.key (.resolved d (.ok i)) = some q) : p = kept i ∧ q = kept i := by
  simp only [next, if_true] at h
  split at h
  · next heq => exact ⟨heq, by rw [← Option.some.inj h, heq]⟩
  · cases h

/-- An instance is there if it was, or if it was just supplied. -/
theorem next_eq_kept_iff (h : p.next key e = some q) :
    q = kept i ↔ p = kept i ∨ e = .supplied key (.ok i) := by
  constructor
  · rintro rfl
    by_cases habout : e.about? = some key
    · cases e with
      | supplying k =>
        cases habout
        simp [next] at h
      | supplied k r =>
        cases habout
        have hq := eq_ofOption_of_next h
        cases r with
        | error e => cases hq
        | ok j =>
          cases hq
          exact .inr rfl
      | resolved d r =>
        cases r with
        | error e => cases habout
        | ok j =>
          cases habout
          obtain ⟨hp, hq⟩ := eq_kept_of_resolved h
          exact .inl (hp.trans hq.symm)
      | _ => cases habout
    · rw [next_of_about? habout] at h
      exact .inl (Option.some.inj h)
  · rintro (rfl | rfl)
    · exact (eq_kept_of_next h).1
    · exact eq_ofOption_of_next h

/-- An instance is there if it was, or if it was supplied. -/
theorem replay_eq_kept_iff (h : p.replay key es = some q) :
    q = kept i ↔ p = kept i ∨ .supplied key (.ok i) ∈ es := by
  induction es generalizing p with
  | nil =>
    obtain rfl := Option.some.inj h
    simp
  | cons e es ih =>
    rw [replay_cons] at h
    obtain ⟨p', hp', h⟩ := Option.bind_eq_some_iff.mp h
    rw [ih h, next_eq_kept_iff hp', List.mem_cons, or_assoc, eq_comm (a := e)]

/-- Where an entry stands, what leads to it and what it leads to fit. -/
theorem replay_split {pre post : List Event} (h : p.replay key (pre ++ e :: post) = some q) :
    ∃ p₁ p₂, p.replay key pre = some p₁ ∧ p₁.next key e = some p₂ ∧
      p₂.replay key post = some q := by
  rw [replay_append] at h
  obtain ⟨p₁, hpre, h⟩ := Option.bind_eq_some_iff.mp h
  rw [replay_cons] at h
  obtain ⟨p₂, he, hpost⟩ := Option.bind_eq_some_iff.mp h
  exact ⟨p₁, p₂, hpre, he, hpost⟩

/-- What was found is there in the end, and what comes afterwards fits. -/
theorem after_resolved {d : Dependency} {pre post : List Event}
    (h : p.replay d.key (pre ++ .resolved d (.ok i) :: post) = some q) :
    q = kept i ∧ ∀ e ∈ post, e ≠ .supplying d.key ∧
      ∀ d' j, e = .resolved d' (.ok j) → d'.key = d.key → j = i := by
  obtain ⟨p₁, p₂, -, he, hpost⟩ := replay_split h
  obtain ⟨-, rfl⟩ := eq_kept_of_resolved he
  obtain ⟨hq, hall⟩ := eq_kept_of_replay hpost
  exact ⟨hq, fun e he => ⟨(hall e he).1, (hall e he).2.2⟩⟩

end Provision

/-! ### The supply of what is kept -/

/-- The state in which the binding of `key` begins to supply an instance. -/
def State.supplying (s : State) (key : Key) : State := s.inWorld (s.world.emit (.supplying key))

/-- The state in which that came to `r`. -/
def State.supplied (s : State) (key : Key) (r : Except ConfigurationError Instance) : State :=
  s.inWorld (s.world.emit (.supplied key r))

/-- What a binding supplies is what it provides, entered in the journal. -/
theorem Container.supply_eq (c : Container) (self : Dependency → Run Instance) (b : Binding)
    (s : State) :
    c.supply self b s =
      (c.provision self b (s.supplying b.key)).map fun p => (p.1, p.2.supplied b.key p.1) := rfl

section

variable {K : World.Keeper} {key : Key} {notice : Notice} {create : Run Instance} {s : State}

/-- An instance that is kept is given. -/
theorem keptBy_of_some {i : Instance} (h : (s.world.attributes K).get? key = some i) :
    keptBy K key notice create s = some (.ok i, s) := by
  simp only [keptBy, Run.bind_eq, Run.read, h]
  rfl

/-- An instance that is created is kept unless one is kept by then. -/
theorem keptBy_of_none (h : (s.world.attributes K).get? key = none) :
    keptBy K key notice create s =
      (create s).map fun p =>
        match p.1 with
        | .error e => (.error e, p.2)
        | .ok i =>
          let kept := (p.2.world.log notice).attributeOrInsert K key i
          (.ok kept.1, p.2.inWorld kept.2) := by
  simp only [keptBy, Run.bind_eq, Run.read, h]
  rcases create s with _ | ⟨_ | i, t⟩ <;> rfl

end

/-! ### Keepers -/

namespace Container

variable (c : Container)

/-- The instance of a key is kept by a request or by a session. -/
def IsKept (key : Key) : Prop :=
  ∃ b accessor, c.registry.lookup key = some b ∧ b.scope = .contextual accessor ∧
    (accessor = .request ∨ accessor = .session)

/-- What keeps the instance of a key, where a request is handled and belongs to a session. -/
def keeperFor (request session : Option Nat) (key : Key) : Option World.Keeper :=
  match (c.registry.lookup key).map Binding.scope with
  | some (.contextual .request) => request.map .request
  | some (.contextual .session) => session.map .session
  | _ => none

/-- What keeps the instance of a key now. -/
def keeper? (w : World) (key : Key) : Option World.Keeper := c.keeperFor w.handled? w.joined? key

/-- The instance of a key that is kept now. -/
def kept? (w : World) (key : Key) : Option Instance :=
  (c.keeper? w key).bind fun K => (w.attributes K).get? key

variable {c} {w w' : World} {key : Key} {K : World.Keeper} {i : Instance}

/-- A binding in request scope is kept for the request. -/
theorem keeperFor_request {b : Binding} (hb : c.registry.lookup key = some b)
    (hscope : b.scope = .contextual .request) (request session : Option Nat) :
    c.keeperFor request session key = request.map .request := by
  rw [keeperFor, hb, Option.map_some, hscope]

/-- A binding in session scope is kept for the session. -/
theorem keeperFor_session {b : Binding} (hb : c.registry.lookup key = some b)
    (hscope : b.scope = .contextual .session) (request session : Option Nat) :
    c.keeperFor request session key = session.map .session := by
  rw [keeperFor, hb, Option.map_some, hscope]

/-- Only what is kept has a keeper. -/
theorem isKept_of_keeperFor {request session : Option Nat}
    (h : c.keeperFor request session key = some K) : c.IsKept key := by
  unfold keeperFor at h
  cases hb : c.registry.lookup key with
  | none =>
    rw [hb] at h
    cases h
  | some b =>
    rw [hb, Option.map_some] at h
    cases hscope : b.scope with
    | unscoped =>
      rw [hscope] at h
      cases h
    | singleton =>
      rw [hscope] at h
      cases h
    | contextual accessor =>
      rw [hscope] at h
      refine ⟨b, accessor, hb, hscope, ?_⟩
      cases accessor with
      | request => exact .inl rfl
      | session => exact .inr rfl
      | named name rule => cases h

/-- A keeper stays the same while a container works. -/
theorem keeper?_of_continues (h : w.Continues w') (hK : c.keeper? w key = some K) :
    c.keeper? w' key = some K := by
  unfold keeper? keeperFor at hK ⊢
  rw [h.handled?]
  split
  · next heq =>
    rw [heq] at hK
    exact hK
  · next heq =>
    rw [heq] at hK
    obtain ⟨id, hid, rfl⟩ := Option.map_eq_some_iff.mp hK
    rw [h.joined? hid]
    rfl
  · next hrequest hsession =>
    split at hK
    · next heq => exact absurd heq hrequest
    · next heq => exact absurd heq hsession
    · cases hK

/-- A keeper that begins to be there has kept nothing before. -/
theorem get?_of_new_keeper (h : w.Continues w') (hnone : c.keeper? w key = none)
    (hK : c.keeper? w' key = some K) : (w.attributes K).get? key = none := by
  obtain ⟨b, accessor, hb, hscope, rfl | rfl⟩ := isKept_of_keeperFor hK
  · rw [keeper?, keeperFor_request hb hscope] at hnone hK
    rw [h.handled?, hnone] at hK
    cases hK
  · rw [keeper?, keeperFor_session hb hscope] at hnone hK
    obtain ⟨id, hid, rfl⟩ := Option.map_eq_some_iff.mp hK
    rw [World.attributes_session_of_le
      (h.size_le_of_joined? (Option.map_eq_none_iff.mp hnone) hid)]
    rfl

/-- What is kept of a key by the keeper that it has afterwards is what is kept of it. -/
theorem get?_keeper (h : w.Continues w') (hK : c.keeper? w' key = some K) :
    (w.attributes K).get? key = c.kept? w key := by
  unfold kept?
  cases hbefore : c.keeper? w key with
  | none => rw [get?_of_new_keeper h hbefore hK, Option.bind_none]
  | some K' =>
    have hsame := keeper?_of_continues h hbefore
    rw [hK] at hsame
    cases hsame
    rw [Option.bind_some]

/-- What is kept stays the same, as long as the attributes do. -/
theorem kept?_of_attributes (h : w.Continues w')
    (hattributes : ∀ K, (w'.attributes K).get? key = (w.attributes K).get? key) :
    c.kept? w' key = c.kept? w key := by
  cases hK : c.keeper? w' key with
  | some K =>
    rw [← get?_keeper h hK, kept?, hK, Option.bind_some, hattributes K]
  | none =>
    have hbefore : c.keeper? w key = none := by
      cases hbefore : c.keeper? w key with
      | none => rfl
      | some K =>
        rw [keeper?_of_continues h hbefore] at hK
        cases hK
    rw [kept?, kept?, hK, hbefore]
    rfl

/-- Entries in the journal change nothing about what is kept. -/
theorem kept?_emit (w : World) (e : Event) (key : Key) : c.kept? (w.emit e) key = c.kept? w key :=
  kept?_of_attributes (w.continues_emit e) fun K => by rw [w.attributes_emit]

/-- A keeper of a valid world is there. -/
theorem isIn_of_keeper? (h : w.Valid) (hK : c.keeper? w key = some K) : K.IsIn w := by
  obtain ⟨b, accessor, hb, hscope, rfl | rfl⟩ := isKept_of_keeperFor hK
  · rw [keeper?, keeperFor_request hb hscope] at hK
    obtain ⟨r, hr, rfl⟩ := Option.map_eq_some_iff.mp hK
    exact h.lt_of_handled? hr
  · rw [keeper?, keeperFor_session hb hscope] at hK
    obtain ⟨id, hid, rfl⟩ := Option.map_eq_some_iff.mp hK
    exact h.lt_of_joined? hid

/-! ### The contract -/

variable {X : Key → Prop} {s t u : State} {es fs : List Event}

/-- Entries lead from what is kept in one state to what is kept in another, where the provision of
the keys of which `X` holds is underway. -/
structure Keeps (c : Container) (X : Key → Prop) (s t : State) (es : List Event) : Prop where
  /-- The same requests are handled. -/
  continues : s.world.Continues t.world
  /-- Nothing changes for others than the keeper of a key. -/
  others : ∀ K key, c.keeper? t.world key ≠ some K →
    (t.world.attributes K).get? key = (s.world.attributes K).get? key
  /-- The entries lead on. -/
  replay : ∀ key, c.IsKept key → ¬ X key →
    (Provision.ofOption (c.kept? s.world key)).replay key es =
      some (.ofOption (c.kept? t.world key))
  /-- What is underway stays so. -/
  underway : ∀ key, c.IsKept key → X key → Provision.underway.replay key es = some .underway

theorem Keeps.refl (s : State) : c.Keeps X s s [] :=
  ⟨.refl _, fun _ _ _ => rfl, fun _ _ _ => rfl, fun _ _ _ => rfl⟩

theorem Keeps.trans (h : c.Keeps X s t es) (h' : c.Keeps X t u fs) :
    c.Keeps X s u (es ++ fs) where
  continues := h.continues.trans h'.continues
  others K key hK := (h'.others K key hK).trans
    (h.others K key fun heq => hK (keeper?_of_continues h'.continues heq))
  replay key hkept hX := by
    rw [Provision.replay_append, h.replay key hkept hX]
    exact h'.replay key hkept hX
  underway key hkept hX := by
    rw [Provision.replay_append, h.underway key hkept hX]
    exact h'.underway key hkept hX

/-- Nothing about what is kept is entered, and what is kept does not change. -/
theorem Keeps.of_quiet (hcontinues : s.world.Continues t.world)
    (hattributes : ∀ K, t.world.attributes K = s.world.attributes K)
    (hes : ∀ e ∈ es, ∀ key, c.IsKept key → e.about? ≠ some key) : c.Keeps X s t es where
  continues := hcontinues
  others K _ _ := by rw [hattributes K]
  replay key hkept _ := by
    rw [kept?_of_attributes hcontinues fun K => by rw [hattributes K]]
    exact Provision.replay_of_about? fun e he => hes e he key hkept
  underway key hkept _ := Provision.replay_of_about? fun e he => hes e he key hkept

/-- The contract of keeping an instance once it is provided, where the provision of the keys of
which `X` holds is underway. -/
def keeping (c : Container) (X : Key → Prop) : Contract where
  Inv s := s.Faithful c ∧ s.world.Valid ∧ ∀ key, X key → c.kept? s.world key = none
  Step s s' := ∃ es, s.Entered s' es ∧ c.Keeps X s s' es
  total := False
  Error _ := True
  Fits _ _ _ := True
  refl s := ⟨[], State.Entered.refl s, .refl s⟩
  trans := by
    rintro s t u ⟨es, hes, h⟩ ⟨fs, hfs, h'⟩
    exact ⟨es ++ fs, hes.trans hfs, h.trans h'⟩
  fits_step _ h := h

/-- A change that keeps nothing, and the entries of which are not about what is kept. -/
theorem keeping_quiet (hs : (c.keeping X).Inv s) (hfaithful : t.Faithful c)
    (hvalid : t.world.Valid) (hcontinues : s.world.Continues t.world)
    (hattributes : ∀ K, t.world.attributes K = s.world.attributes K) (hes : s.Entered t es)
    (hquiet : ∀ e ∈ es, ∀ key, c.IsKept key → e.about? ≠ some key) :
    (c.keeping X).Moves s t := by
  refine ⟨⟨hfaithful, hvalid, fun key hkey => ?_⟩, es, hes, .of_quiet hcontinues hattributes hquiet⟩
  rw [kept?_of_attributes hcontinues fun K => by rw [hattributes K]]
  exact hs.2.2 key hkey

/-- What a container does is governed by what it keeps. -/
theorem governs_keeping (c : Container) (X : Key → Prop) : (c.keeping X).Governs c where
  faithful hs := hs.1
  effect hs h := by
    obtain ⟨es, hes, hmark⟩ := h.entered
    refine keeping_quiet hs (c.admitsAll_faithful.effect hs.1 (h.mono fun _ hi => hi.elim)).1
      (h.valid hs.2.1) h.continues h.attributes hes fun e he key _ => ?_
    rw [Event.about?_of_not_isMark (hmark e he)]
    exact nofun
  held _ _ := trivial
  plain _ _ := trivial
  fresh _ _ _ := trivial
  provided _ _ _ := trivial
  provider _ _ _ _ := trivial
  replaced _ _ _ _ := trivial
  lack _ _ _ := trivial
  mistyped _ _ _ := trivial
  member _ _ _ _ _ := trivial
  failure _ _ _ := trivial
  supply _ _ := trivial

/-- An entry that is not about what is kept may be made. -/
theorem keeping_emit {e : Event} (he : ∀ key, c.IsKept key → e.about? ≠ some key)
    (hs : (c.keeping X).Inv s) : (c.keeping X).Moves s (s.inWorld (s.world.emit e)) :=
  keeping_quiet hs hs.1 (hs.2.1.emit e) (s.world.continues_emit e) (s.world.attributes_emit e)
    (s.entered_emit e) fun e' he' => by rwa [List.mem_singleton.mp he']

/-- What is remembered does not matter. -/
theorem keeping_remember {m : Memory} (hm : m.catalogs = s.memory.catalogs)
    (hs : (c.keeping X).Inv s) : (c.keeping X).Moves s { s with memory := m } := by
  refine keeping_quiet hs ?_ hs.2.1 (.refl _) (fun _ => rfl) (State.Entered.refl s)
    (List.forall_mem_nil _)
  have hfaithful := hs.1
  unfold State.Faithful State.notebook at hfaithful ⊢
  rwa [hm]

/-! ### The provision of what is kept -/

/-- What the resolution of a kept key comes to: an instance is kept afterwards if it succeeds, and
none if it fails; and if none was kept before, its binding begins to supply one. -/
structure Provides (c : Container) (X : Key → Prop) (key : Key) (s t : State)
    (r : Except ConfigurationError Instance) (es : List Event) : Prop where
  /-- The invariant of the contract holds afterwards. -/
  inv : (c.keeping X).Inv t
  /-- The entries. -/
  entered : s.Entered t es
  /-- They lead on. -/
  keeps : c.Keeps X s t es
  /-- What is kept afterwards. -/
  kept : c.kept? t.world key = r.toOption
  /-- While a request is handled there is something that keeps it. -/
  keeper : s.world.handled?.isSome → ∃ K, c.keeper? t.world key = some K
  /-- What is not kept is provided, if a request is handled. -/
  supplying : s.world.handled?.isSome → c.kept? s.world key = none → .supplying key ∈ es

/-- What provides something keeps to where it is kept. -/
theorem Provides.moves {r : Except ConfigurationError Instance} (h : c.Provides X key s t r es) :
    (c.keeping X).Moves s t := ⟨h.inv, es, h.entered, h.keeps⟩

/-- What was done before counts as well, if it keeps nothing. -/
theorem Provides.after {r : Except ConfigurationError Instance} (hst : (c.keeping X).Moves s t)
    (hsame : c.kept? t.world key = c.kept? s.world key) (h : c.Provides X key t u r es) :
    ∃ fs, c.Provides X key s u r fs := by
  obtain ⟨-, fs, hfs, hkeeps⟩ := hst
  have hhandled := hkeeps.continues.handled?
  refine ⟨fs ++ es, h.inv, hfs.trans h.entered, hkeeps.trans h.keeps, h.kept, fun hr => ?_,
    fun hr hnone => ?_⟩
  · exact h.keeper (by rwa [hhandled])
  · exact List.mem_append_right _ (h.supplying (by rwa [hhandled]) (hsame.trans hnone))

/-- The resolution of a kept key is entered in the journal. -/
theorem Provides.resolved {d : Dependency} {r : Except ConfigurationError Instance}
    (hX : ¬ X d.key) (h : c.Provides X d.key s t r es) :
    c.Provides X d.key s (t.inWorld (t.world.emit (.resolved d r))) r (es ++ [.resolved d r]) := by
  have habout : ∀ key, key ≠ d.key → (Event.resolved d r).about? ≠ some key := by
    intro key hne heq
    cases r with
    | error e => cases heq
    | ok i =>
      cases heq
      exact hne rfl
  have hkeeps : c.Keeps X t (t.inWorld (t.world.emit (.resolved d r))) [.resolved d r] := by
    refine ⟨t.world.continues_emit _, fun K _ _ => by rw [State.inWorld, World.attributes_emit],
      fun key _ _ => ?_, fun key _ hkey => ?_⟩
    · rw [State.inWorld, kept?_emit, Provision.replay_singleton]
      by_cases heq : key = d.key
      · subst heq
        rw [h.kept]
        cases r with
        | error e => rfl
        | ok i => simp [Provision.next, Provision.ofOption, Except.toOption]
      · exact Provision.next_of_about? (habout key heq)
    · rw [Provision.replay_singleton]
      exact Provision.next_of_about? (habout key fun heq => hX (heq ▸ hkey))
  refine ⟨⟨h.inv.1, h.inv.2.1.emit _, fun key hkey => ?_⟩,
    h.entered.trans (t.entered_emit _), h.keeps.trans hkeeps, ?_, fun hr => ?_,
    fun hr hnone => ?_⟩
  · rw [State.inWorld, kept?_emit]
    exact h.inv.2.2 key hkey
  · rw [State.inWorld, kept?_emit]
    exact h.kept
  · obtain ⟨K, hK⟩ := h.keeper hr
    exact ⟨K, keeper?_of_continues (t.world.continues_emit _) hK⟩
  · exact List.mem_append_left _ (h.supplying hr hnone)

/-- The supply of an instance that is not kept yet, up to where it is kept or has failed. -/
theorem provides_supply {key : Key} {r : Except ConfigurationError Instance}
    (hX : ¬ X key) (hnone : c.kept? s.world key = none)
    (ht : (c.keeping (Also X key)).Inv t) (hes : (s.supplying key).Entered t es)
    (h : c.Keeps (Also X key) (s.supplying key) t es)
    (hfaithful : u.Faithful c) (hvalid : u.world.Valid) (hcontinues : t.world.Continues u.world)
    (hentered : t.Entered u (.supplied key r :: fs))
    (hquiet : ∀ e ∈ fs, ∀ key, c.IsKept key → e.about? ≠ some key)
    (hothers : ∀ K k, k ≠ key ∨ c.keeper? u.world k ≠ some K →
      (u.world.attributes K).get? k = (t.world.attributes K).get? k)
    (hK : c.keeper? u.world key = some K) (hu : c.kept? u.world key = r.toOption) :
    c.Provides X key s u r (.supplying key :: (es ++ .supplied key r :: fs)) := by
  have hbegin : s.world.Continues (s.supplying key).world := s.world.continues_emit _
  have hopen : ∀ k, c.kept? (s.supplying key).world k = c.kept? s.world k := kept?_emit s.world _
  have hclosed : ∀ k, k ≠ key → c.kept? u.world k = c.kept? t.world k := fun k hne =>
    kept?_of_attributes hcontinues fun K => hothers K k (.inl hne)
  have hend : ∀ k p, c.IsKept k → k ≠ key →
      Provision.replay k p (.supplied key r :: fs) = some p := fun k p hk hne => by
    refine Provision.replay_of_about? fun e he => ?_
    rcases List.mem_cons.mp he with rfl | he
    · exact fun heq => hne (Option.some.inj heq).symm
    · exact hquiet e he k hk
  have hstart : ∀ k p, k ≠ key → Provision.next k p (.supplying key) = some p := fun k p hne =>
    Provision.next_of_about? fun heq => hne (Option.some.inj heq).symm
  refine ⟨⟨hfaithful, hvalid, fun k hk => ?_⟩, ?_, ⟨?_, fun K k hK => ?_, fun k hk hXk => ?_,
    fun k hk hXk => ?_⟩, hu, fun _ => ⟨K, hK⟩, fun _ _ => List.mem_cons_self⟩
  · rw [hclosed k fun heq => hX (heq ▸ hk)]
    exact ht.2.2 k (.inl hk)
  · exact ((s.entered_emit (.supplying key)).trans hes).trans hentered
  · exact (hbegin.trans h.continues).trans hcontinues
  · rw [hothers K k (.inr hK), h.others K k fun heq => hK (keeper?_of_continues hcontinues heq),
      State.supplying, State.inWorld, World.attributes_emit]
  · rw [Provision.replay_cons]
    by_cases heq : k = key
    · -- The provision of the key itself is underway while `es` is entered.
      subst heq
      rw [hnone, hu]
      have hunderway := h.underway k hk (.inr rfl)
      have hfirst : (Provision.ofOption none).next k (.supplying k) = some .underway := by
        simp [Provision.next, Provision.ofOption]
      have hlast : Provision.underway.next k (.supplied k r) = some (.ofOption r.toOption) := by
        simp [Provision.next]
      rw [hfirst, Option.bind_some, Provision.replay_append, hunderway, Option.bind_some,
        Provision.replay_cons, hlast, Option.bind_some]
      exact Provision.replay_of_about? fun e he => hquiet e he k hk
    · have hreplay := h.replay k hk fun hor => hor.elim hXk heq
      rw [hopen] at hreplay
      rw [hstart k _ heq, Option.bind_some, Provision.replay_append, hreplay, Option.bind_some,
        hend k _ hk heq, hclosed k heq]
  · have hne : k ≠ key := fun heq => hX (heq ▸ hXk)
    rw [Provision.replay_cons, hstart k _ hne, Option.bind_some, Provision.replay_append,
      h.underway k hk (.inl hXk), Option.bind_some, hend k _ hk hne]

/-- An instance that was supplied begins to be kept, since nothing was kept meanwhile. -/
theorem provides_success {key : Key} {notice : Notice} {w : World} (hX : ¬ X key)
    (hnone : c.kept? s.world key = none) (ht : (c.keeping (Also X key)).Inv t)
    (hes : (s.supplying key).Entered t es) (h : c.Keeps (Also X key) (s.supplying key) t es)
    (hK : c.keeper? t.world key = some K) (hnotice : (Event.logged notice).isMark = false)
    (hw : w = (t.supplied key (.ok i)).world.log notice) :
    (w.attributes K).get? key = none ∧
      c.Provides X key s (t.inWorld (w.setAttribute K key i)) (.ok i)
        (.supplying key :: (es ++ [.supplied key (.ok i), .logged notice])) := by
  have hcontinues : t.world.Continues w := by
    rw [hw]
    exact (t.world.continues_emit _).trans (World.continues_emit _ _)
  have hvalid : w.Valid := by
    rw [hw]
    exact (ht.2.1.emit _).emit _
  have hattributes : ∀ K, w.attributes K = t.world.attributes K := fun K => by
    rw [hw]
    exact (World.attributes_emit _ _ K).trans (World.attributes_emit _ _ K)
  have hentered : t.Entered (t.inWorld w) [.supplied key (.ok i), .logged notice] := by
    rw [hw]
    exact (t.entered_emit _).trans (State.entered_emit _ _)
  have hmissing : (w.attributes K).get? key = none := by
    have hnothing := ht.2.2 key (.inr rfl)
    rw [kept?, hK, Option.bind_some] at hnothing
    rw [hattributes K, hnothing]
  have heffect : Effect c (fun _ => True) (t.inWorld w) (t.inWorld (w.setAttribute K key i)) :=
    .keep K key i trivial hmissing
  have hKw := keeper?_of_continues hcontinues hK
  have hlast := keeper?_of_continues heffect.continues hKw
  refine ⟨hmissing, provides_supply hX hnone ht hes h ht.1 (heffect.valid hvalid)
    (hcontinues.trans heffect.continues)
    (hentered.trans (State.entered_setAttribute (t.inWorld w) K key i))
    (fun e he k _ => ?_) (fun K' k hor => ?_) hlast ?_⟩
  · rw [List.mem_singleton.mp he, Event.about?_of_not_isMark hnotice]
    exact nofun
  · rw [← hattributes K']
    by_cases hk : k = key
    · subst hk
      exact World.get?_setAttribute_of_ne
        (.inl fun heq => hor.resolve_left (fun hne => hne rfl) (heq ▸ hlast))
    · exact World.get?_setAttribute_of_ne (.inr hk)
  · exact (congrArg (Option.bind · _) hlast).trans
      (World.get?_setAttribute_self (isIn_of_keeper? hvalid hKw))

section

variable {self : Dependency → Run Instance} {b : Binding} {notice : Notice}
  {r : Except ConfigurationError Instance}

/-- What is kept is given, and what is not kept is provided first. -/
theorem provides_keptBy (hs : (c.keeping X).Inv s) (hX : ¬ X b.key)
    (hK : c.keeper? s.world b.key = some K) (hnotice : (Event.logged notice).isMark = false)
    (hprovision : (c.keeping (Also X b.key)).Allows (c.provision self b))
    (hrun : keptBy K b.key notice (c.supply self b) s = some (r, u)) :
    ∃ es, c.Provides X b.key s u r es := by
  have hsame : c.kept? s.world b.key = (s.world.attributes K).get? b.key := by
    rw [kept?, hK, Option.bind_some]
  cases hget : (s.world.attributes K).get? b.key with
  | some i =>
    rw [keptBy_of_some hget] at hrun
    cases hrun
    refine ⟨[], hs, State.Entered.refl s, .refl s, hsame.trans hget, fun _ => ⟨K, hK⟩,
      fun _ hnone => ?_⟩
    rw [hsame, hget] at hnone
    cases hnone
  | none =>
    have hnone := hsame.trans hget
    rw [keptBy_of_none hget, supply_eq, Option.map_map] at hrun
    obtain ⟨⟨r', t⟩, hsupply, heq⟩ := Option.map_eq_some_iff.mp hrun
    have hopen : (c.keeping (Also X b.key)).Inv (s.supplying b.key) := by
      refine ⟨hs.1, hs.2.1.emit _, fun k hk => ?_⟩
      rw [State.supplying, State.inWorld, kept?_emit]
      rcases hk with hk | rfl
      · exact hs.2.2 k hk
      · exact hnone
    obtain ⟨ht, es, hes, hkeeps⟩ := hprovision.moves hopen trivial hsupply
    have hKt := keeper?_of_continues ((s.world.continues_emit _).trans hkeeps.continues) hK
    cases r' with
    | error e =>
      cases heq
      exact ⟨_, provides_supply hX hnone ht hes hkeeps ht.1 (ht.2.1.emit _)
        (t.world.continues_emit _) (t.entered_emit _) (List.forall_mem_nil _)
        (fun K _ _ => by rw [← World.attributes_emit t.world (.supplied b.key (.error e)) K]; rfl)
        (keeper?_of_continues (t.world.continues_emit _) hKt)
        ((kept?_emit t.world _ b.key).trans (ht.2.2 b.key (.inr rfl)))⟩
    | ok i =>
      obtain ⟨hmissing, hprovides⟩ :=
        provides_success hX hnone ht hes hkeeps hKt hnotice (i := i) rfl
      have heq : (Except.ok ((((t.supplied b.key (.ok i)).world.log notice).attributeOrInsert K
          b.key i).1), (t.supplied b.key (.ok i)).inWorld
          (((t.supplied b.key (.ok i)).world.log notice).attributeOrInsert K b.key i).2) =
          (r, u) := heq
      rw [World.attributeOrInsert_of_none hmissing] at heq
      cases heq
      exact ⟨_, hprovides⟩

/-- The same through an accessor. Outside of requests there is nothing, and nothing is provided. -/
theorem provides_accessed {accessor : Accessor} (hb : c.registry.lookup b.key = some b)
    (hscope : b.scope = .contextual accessor)
    (haccessor : accessor = .request ∨ accessor = .session) (hs : (c.keeping X).Inv s)
    (hX : ¬ X b.key) (hprovision : (c.keeping (Also X b.key)).Allows (c.provision self b))
    (hrun : accessed b.key (c.supply self b) accessor s = some (r, t)) :
    ∃ es, c.Provides X b.key s t r es := by
  have houtside : s.world.handled? = none → ∀ e : ConfigurationError,
      c.Provides X b.key s s (.error e) [] := by
    intro hhandled e
    have hnone : c.kept? s.world b.key = none := by
      rcases haccessor with rfl | rfl
      · rw [kept?, keeper?, keeperFor_request hb hscope, hhandled]
        rfl
      · rw [kept?, keeper?, keeperFor_session hb hscope, World.joined?, hhandled]
        rfl
    have hno : ¬ s.world.handled?.isSome := by
      rw [hhandled]
      exact Bool.false_ne_true
    exact ⟨hs, State.Entered.refl s, .refl s, hnone, fun hr => absurd hr hno,
      fun hr => absurd hr hno⟩
  rcases haccessor with rfl | rfl
  · unfold accessed at hrun
    cases he : s.world.currentExchange? with
    | none =>
      simp only [Run.bind_eq, Run.read, he] at hrun
      cases hrun
      exact ⟨[], houtside (by rw [World.handled?, he]; rfl) _⟩
    | some e =>
      simp only [Run.bind_eq, Run.read, he] at hrun
      have hK : c.keeper? s.world b.key = some (.request e.request) := by
        rw [keeper?, keeperFor_request hb hscope, World.handled?, he]
        rfl
      exact provides_keptBy hs hX hK rfl hprovision hrun
  · unfold accessed at hrun
    cases he : s.world.currentExchange? with
    | none =>
      simp only [Run.bind_eq, Run.read, he] at hrun
      cases hrun
      exact ⟨[], houtside (by rw [World.handled?, he]; rfl) _⟩
    | some e =>
      simp only [Run.bind_eq, Run.read, he, Run.act] at hrun
      have hchanges := c.changes_sessionOf s e.request
      have hmoves := (c.governs_keeping X).changes hs hchanges
      have hsame : c.kept? (s.world.sessionOf e.request).2 b.key = c.kept? s.world b.key :=
        kept?_of_attributes hchanges.continues fun K =>
          congrArg (Table.get? · b.key) (hchanges.attributes K)
      have hK : c.keeper? (s.world.sessionOf e.request).2 b.key =
          some (.session (s.world.sessionOf e.request).1) := by
        rw [keeper?, keeperFor_session hb hscope, World.joined?_sessionOf hs.2.1 he]
        rfl
      obtain ⟨es, hes⟩ := provides_keptBy hmoves.1 hX hK rfl hprovision hrun
      exact hes.after hmoves hsame

end

/-! ### Resolution -/

section

variable {self : Dependency → Run Instance} {b : Binding}

/-- Deferred bindings may be used. -/
theorem keeping_force (hb : c.registry.lookup b.key = some b)
    (hself : ∀ e, c.SourceNeeds b.source e → (c.keeping X).Gives e.key.ty (self e)) :
    Contract.Compliance.Forces (c.keeping X) c self b := by
  refine Contract.Compliance.force (c.governs_keeping X) (fun h => h)
    (fun _ _ _ _ _ hs _ => keeping_remember rfl hs) hb (fun e he => ?_) trivial hself
  refine Contract.Meets.change fun s hs _ => keeping_emit (fun key _ => ?_) hs
  cases e <;> cases he <;> exact nofun

/-- What a binding provides keeps to the contract, whatever provisions are underway. -/
theorem keeping_provision (hb : c.registry.lookup b.key = some b)
    (hself : ∀ e, c.SourceNeeds b.source e → (c.keeping X).Gives e.key.ty (self e)) :
    (c.keeping X).Gives b.key.ty (c.provision self b) :=
  Contract.Compliance.provision (c.governs_keeping X) hb hself (keeping_force hb hself)

/-- A binding that is not to be kept by a request or session keeps to the contract. -/
theorem keeping_resolveBinding (hb : c.registry.lookup b.key = some b) (hkept : ¬ c.IsKept b.key)
    (hprovision : (c.keeping X).Gives b.key.ty (c.provision self b)) :
    (c.keeping X).Gives b.key.ty (c.resolveBinding self b) := by
  have hgoverns := c.governs_keeping X
  have hother : ∀ e : Event, e.about? = some b.key → ∀ key, c.IsKept key → e.about? ≠ some key :=
    fun e he key hkey heq => hkept (Option.some.inj (he.symm.trans heq) ▸ hkey)
  have hsupply : (c.keeping X).Gives b.key.ty (c.supply self b) :=
    Contract.Compliance.supply
      (Contract.Meets.change fun _ hs _ => keeping_emit (hother (.supplying b.key) rfl) hs)
      (fun r _ hs _ _ => keeping_emit (hother (.supplied b.key r) rfl) hs) hprovision
  have hcontexts : Contract.Compliance.KeepsInContext (c.keeping X) := fun name key i hs _ =>
    keeping_quiet hs hs.1 (hs.2.1.congr rfl rfl rfl) (.of_session rfl (Nat.le_refl _) fun _ => rfl)
      (fun K => by cases K <;> rfl) (State.Entered.refl _) (List.forall_mem_nil _)
  refine Contract.Compliance.withinScope hgoverns hcontexts hb hsupply (fun _ => ?_)
    fun accessor hscope haccessor => absurd ⟨b, accessor, hb, hscope, haccessor⟩ hkept
  refine Contract.Compliance.inSlot hgoverns (fun h => h) (fun _ _ hs _ => keeping_remember rfl hs)
    b.key ?_ hsupply
  exact Contract.Meets.change fun s hs _ =>
    keeping_emit (fun _ _ => (Option.some_ne_none _).symm) hs

/-- What a bound key needs keeps to the contract while the provision of the key is underway. -/
theorem keeping_needs {d : Dependency} (hd : c.Acyclic d) (hX : c.Free X d)
    (hb : c.registry.lookup d.key = some b)
    (hself : ∀ X' e, c.Leads d e → c.Free X' e → (c.keeping X').Gives e.key.ty (self e)) :
    (c.keeping (Also X d.key)).Gives b.key.ty (c.provision self b) := by
  have hb' : c.registry.lookup b.key = some b := by rw [Registry.key_of_lookup hb, hb]
  refine keeping_provision hb' fun e he => ?_
  have hde : c.Leads d e := leads_of_needs hb he
  exact hself _ e hde ((hX.leads hde).also ((hd.leads hde).key_ne hb hde))

/-- What the resolution of a kept key comes to. -/
theorem provides_resolveStep {d : Dependency} {r : Except ConfigurationError Instance}
    (hkept : c.IsKept d.key) (hs : (c.keeping X).Inv s) (hd : c.Acyclic d) (hX : c.Free X d)
    (hself : ∀ X' e, c.Leads d e → c.Free X' e → (c.keeping X').Gives e.key.ty (self e))
    (hrun : c.resolveStep self d s = some (r, t)) : ∃ es, c.Provides X d.key s t r es := by
  obtain ⟨b, accessor, hb, hscope, haccessor⟩ := hkept
  have hkey : b.key = d.key := Registry.key_of_lookup hb
  have hfree : ¬ X d.key := hX d .refl
  obtain ⟨⟨r', t'⟩, hanswer, heq⟩ := Option.map_eq_some_iff.mp hrun
  cases heq
  have hbinding : c.answer self d = accessed b.key (c.supply self b) accessor := by
    simp only [answer, hb, resolveBinding, withinScope, hscope]
  rw [hbinding] at hanswer
  have hbegin : (c.keeping X).Moves s (s.inWorld (s.world.log (.resolving d.key))) :=
    keeping_emit (fun _ _ => (Option.some_ne_none _).symm) hs
  have hprovision := (keeping_needs hd hX hb hself).allows
  rw [← hkey] at hfree hprovision
  obtain ⟨es, hes⟩ := provides_accessed (by rw [hkey, hb]) hscope haccessor hbegin.1 hfree
    hprovision hanswer
  obtain ⟨fs, hfs⟩ := hes.after hbegin (kept?_emit s.world _ b.key)
  rw [hkey] at hfs hfree
  exact ⟨_, hfs.resolved hfree⟩

/-- A resolution keeps to the contract if what it needs does, whatever is underway. -/
theorem keeping_resolveStep {d : Dependency} (hd : c.Acyclic d) (hX : c.Free X d)
    (hself : ∀ X' e, c.Leads d e → c.Free X' e → (c.keeping X').Gives e.key.ty (self e)) :
    (c.keeping X).Gives d.key.ty (c.resolveStep self d) := by
  have hgoverns := c.governs_keeping X
  by_cases hkept : c.IsKept d.key
  · refine Contract.Meets.of_run (fun h => h) fun s r t hs _ hrun => ?_
    obtain ⟨es, hes⟩ := provides_resolveStep hkept hs hd hX hself hrun
    exact ⟨hes.moves, fun _ _ => trivial, fun _ _ => trivial⟩
  · refine Contract.Compliance.resolveStep hgoverns (fun r _ hs _ _ => ?_) ?_
    · refine keeping_emit (fun key hkey heq => ?_) hs
      cases r with
      | error e => cases heq
      | ok i =>
        cases heq
        exact hkept hkey
    · refine Contract.Compliance.answer hgoverns
        (fun e he => hself X e he (hX.leads he)) fun b hb => ?_
      have hkey : b.key = d.key := Registry.key_of_lookup hb
      have hb' : c.registry.lookup b.key = some b := by rw [hkey, hb]
      refine keeping_resolveBinding hb' (by rwa [hkey]) (keeping_provision hb' fun e he => ?_)
      have hde : c.Leads d e := leads_of_needs hb he
      exact hself X e hde (hX.leads hde)

end

/-- Resolutions without circles keep to the contract. -/
theorem keeping_resolveWithin {d : Dependency} (n : Nat) (hd : c.Acyclic d) (hX : c.Free X d) :
    (c.keeping X).Gives d.key.ty (c.resolveWithin n d) := by
  induction n generalizing d X with
  | zero => exact Contract.Meets.stuck fun _ _ _ h => h
  | succ n ih => exact keeping_resolveStep hd hX fun X' e hde hX' => ih (hd.leads hde) hX'

/-- Between operations, no provision is underway. -/
def holding (c : Container) : Contract := c.keeping fun _ => False

/-- What is asked for is that catalogs are kept and the world is valid. -/
theorem holding_inv_iff : c.holding.Inv s ↔ s.Faithful c ∧ s.world.Valid :=
  ⟨fun h => ⟨h.1, h.2.1⟩, fun h => ⟨h.1, h.2, fun _ hfalse => hfalse.elim⟩⟩

/-- What the resolution of a kept key comes to, at any depth. -/
theorem provides_resolveWithin {d : Dependency} {n : Nat}
    {r : Except ConfigurationError Instance} (hkept : c.IsKept d.key) (hd : c.Acyclic d)
    (hs : s.Faithful c) (hvalid : s.world.Valid) (hrun : c.resolveWithin n d s = some (r, t)) :
    ∃ es, c.Provides (fun _ => False) d.key s t r es := by
  cases n with
  | zero => cases hrun
  | succ n =>
    exact provides_resolveStep hkept (holding_inv_iff.mpr ⟨hs, hvalid⟩) hd (c.free_none d)
      (fun X' e hde hX' => keeping_resolveWithin n (hd.leads hde) hX') hrun

/-- Nothing is done for an instance that is kept already: it is found, at any depth. -/
theorem resolveWithin_of_kept {d : Dependency} (n : Nat) (h : c.kept? s.world d.key = some i) :
    c.resolveWithin (n + 1) d s = some (.ok i,
      s.inWorld ((s.world.log (.resolving d.key)).emit (.resolved d (.ok i)))) := by
  obtain ⟨K, hK, hget⟩ := Option.bind_eq_some_iff.mp h
  obtain ⟨b, accessor, hb, hscope, haccessor⟩ := isKept_of_keeperFor hK
  let t := s.inWorld (s.world.log (.resolving d.key))
  have hget' : (t.world.attributes K).get? d.key = some i := by
    rw [← hget]
    exact congrArg (·.get? d.key) (World.attributes_emit s.world _ K)
  have hkey : b.key = d.key := Registry.key_of_lookup hb
  have haccessed :
      accessed d.key (c.supply (c.resolveWithin n) b) accessor t = some (.ok i, t) := by
    rcases haccessor with rfl | rfl
    · rw [keeper?, keeperFor_request hb hscope] at hK
      obtain ⟨r, hr, rfl⟩ := Option.map_eq_some_iff.mp hK
      obtain ⟨e, he, rfl⟩ := Option.map_eq_some_iff.mp hr
      have he' : t.world.currentExchange? = some e := he
      simp only [accessed, Run.bind_eq, Run.read, he']
      exact keptBy_of_some hget'
    · rw [keeper?, keeperFor_session hb hscope] at hK
      obtain ⟨id, hid, rfl⟩ := Option.map_eq_some_iff.mp hK
      obtain ⟨r, hr, hid⟩ := Option.bind_eq_some_iff.mp hid
      obtain ⟨e, he, rfl⟩ := Option.map_eq_some_iff.mp hr
      have he' : t.world.currentExchange? = some e := he
      have hsession : t.world.sessionOf e.request = (id, t.world) := by
        have hid' : (t.world.request e.request).session = some id := hid
        rw [World.sessionOf, hid']
      simp only [accessed, Run.bind_eq, Run.read, he', Run.act, hsession]
      exact keptBy_of_some hget'
  have hanswer : c.answer (c.resolveWithin n) d t = some (.ok i, t) := by
    rw [← haccessed]
    simp only [answer, hb, resolveBinding, withinScope, hscope, hkey]
  change (c.answer (c.resolveWithin n) d t).map _ = _
  rw [hanswer]
  rfl

/-! ### Operations and builds -/

/-- Resolutions keep to the contract in containers without circles. -/
theorem holding_resolve (h : ∀ d, c.Acyclic d) (d : Dependency) :
    c.holding.Gives d.key.ty (c.resolve d) := keeping_resolveWithin _ (h d) (c.free_none d)

/-- So does what is done with them. -/
theorem Operates.holding (h : ∀ d, c.Acyclic d) (hs : c.holding.Inv s)
    (hoperates : c.Operates s t) : c.holding.Moves s t :=
  hoperates.follows (c.governs_keeping _) (holding_resolve h) (fun _ _ => trivial) hs

/-- So do their builds. -/
theorem holding_start (h : ∀ d, c.Acyclic d) : c.holding.Allows c.start := by
  have hemit : ∀ e : Event, e.about? = none → c.holding.Allows (.emit e) := fun e he =>
    Contract.Meets.change fun s hs _ => keeping_emit (fun key _ => by rw [he]; exact nofun) hs
  refine Contract.Compliance.start (fun step hstep => ?_) (fun _ _ _ => trivial)
    fun _ => hemit _ rfl
  have hself := holding_resolve h
  cases step with
  | prepare b d =>
    exact (keeping_force hstep.1 (fun e _ => hself e) d hstep.2).bind fun _ =>
      Contract.Meets.succeed fun _ _ _ => trivial
  | inject cls =>
    exact Contract.Compliance.injectStatics (c.governs_keeping _)
      (fun e he _ => hemit e (Event.about?_of_stage he)) fun e _ => hself e
  | announce n => exact hemit _ rfl
  | create b =>
    have hkept : ¬ c.IsKept b.key := by
      rintro ⟨b', accessor, hb', hscope, -⟩
      obtain rfl := Option.some.inj (hstep.1.symm.trans hb')
      have hsingleton := (Bool.and_eq_true_iff.mp hstep.2).1
      rw [hscope] at hsingleton
      cases hsingleton
    have hbinding := keeping_resolveBinding hstep.1 hkept
      (keeping_provision hstep.1 fun e _ => hself e)
    exact (hemit _ rfl).bind fun _ => hbinding.bind fun _ =>
      Contract.Meets.succeed fun _ _ _ => trivial

end Container

end Wiring
