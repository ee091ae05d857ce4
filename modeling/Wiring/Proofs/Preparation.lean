import Wiring.Proofs.Stages

/-!
# Deferred Bindings Are Injected Once

The journal tells how far each deferred binding is. Its object begins to be injected, and the first
use comes to the object or to an error; later uses come to the same object, or to the error that the
binding is unavailable. `Readiness.replay` follows this through the entries of the journal, and
fails at an entry that does not fit, such as a second injection.

A container keeps to the contract `Container.preparation`: whatever it does, its entries lead from
what it remembers of a deferred binding before to what it remembers afterwards.

## Conventions

While the object of a binding is injected, the binding is running, and a run that uses it meanwhile
never ends. That is why a binding is left running only by the run that found it so, and why there
are no entries about it in between.

## Main statements

* `Readiness.replay`: how far entries lead.
* `Readiness.eq_ready_of_replay`, `Readiness.eq_failed_of_replay`: both ends are final.
* `Container.governsAll_preparation`: a container keeps to the contract.
* `Container.ready_of_performs`: after its step, a deferred binding is ready for good.
-/

namespace Wiring

/-- Whether an event tells that the object of the deferred binding of `key` begins to be
injected. -/
def Event.prepares (key : Key) : Event → Bool
  | preparing k => k = key
  | _ => false

/-- A binding is prepared by the entry that says so. -/
theorem Event.prepares_iff {key : Key} {e : Event} :
    e.prepares key = true ↔ e = .preparing key := by
  cases e <;> simp [prepares]

namespace Readiness

/-- How far a deferred binding is when its use comes to a result, if that fits. -/
def finish (key : Key) : Readiness → Except ConfigurationError Instance → Option Readiness
  | running, r => some (ofResult r)
  | ready i, .ok j => if j = i then some (ready i) else none
  | failed, .error e => if e = Container.unavailable key then some failed else none
  | _, _ => none

/-- How far the deferred binding of `key` is after an entry in the journal, if the entry fits. -/
def next (key : Key) (p : Readiness) : Event → Option Readiness
  | .preparing k => if k = key then (if p = waiting then some running else none) else some p
  | .forced k r => if k = key then p.finish key r else some p
  | _ => some p

/-- How far the deferred binding of `key` is after some entries in the journal, if they fit. -/
def replay (key : Key) (p : Readiness) (es : List Event) : Option Readiness :=
  es.foldlM (next key) p

variable {key : Key} {p q : Readiness} {e : Event} {es : List Event}

/-- Entries are replayed from the first one on. -/
theorem replay_cons (key : Key) (p : Readiness) (e : Event) (es : List Event) :
    p.replay key (e :: es) = (p.next key e).bind fun q => q.replay key es := rfl

/-- Entries are replayed one after another. -/
theorem replay_append (key : Key) (p : Readiness) (es fs : List Event) :
    p.replay key (es ++ fs) = (p.replay key es).bind fun q => q.replay key fs :=
  List.foldlM_append

/-- One entry. -/
theorem replay_singleton (key : Key) (p : Readiness) (e : Event) :
    p.replay key [e] = p.next key e := by
  rw [replay_cons]
  cases p.next key e <;> rfl

/-- Only entries about a deferred binding matter for it. -/
theorem next_of_use? (h : e.use? ≠ some key) : p.next key e = some p := by
  cases e with
  | preparing k => exact if_neg fun heq => h (congrArg some heq)
  | forced k r => exact if_neg fun heq => h (congrArg some heq)
  | _ => rfl

/-- Entries about other keys do not matter. -/
theorem replay_of_use? (h : ∀ e ∈ es, e.use? ≠ some key) : p.replay key es = some p := by
  induction es with
  | nil => rfl
  | cons e es ih =>
    rw [replay_cons, next_of_use? (h e List.mem_cons_self)]
    exact ih fun e' he' => h e' (List.mem_cons_of_mem e he')

/-- What a use came to tells how far the binding is. -/
theorem eq_ofResult_of_next {r : Except ConfigurationError Instance}
    (h : p.next key (.forced key r) = some q) : q = ofResult r := by
  simp only [next, if_true] at h
  unfold finish at h
  split at h
  · exact (Option.some.inj h).symm
  · split at h
    · next heq =>
      rw [heq]
      exact (Option.some.inj h).symm
    · cases h
  · split at h
    · exact (Option.some.inj h).symm
    · cases h
  · cases h

/-- An injection begins only once. -/
theorem eq_waiting_of_next (h : p.next key (.preparing key) = some q) :
    p = waiting ∧ q = running := by
  simp only [next, if_true] at h
  split at h
  · next hp => exact ⟨hp, (Option.some.inj h).symm⟩
  · cases h

/-- A binding does not wait again. -/
theorem waiting_of_next (h : p.next key e = some waiting) : p = waiting := by
  by_cases huse : e.use? = some key
  · cases e with
    | preparing k =>
      cases huse
      cases (eq_waiting_of_next h).2
    | forced k r =>
      cases huse
      have hr := eq_ofResult_of_next h
      cases r <;> cases hr
    | _ => cases huse
  · rw [next_of_use? huse] at h
    exact Option.some.inj h

/-! ### Both ends are final -/

/-- An object that is ready is not injected, and is what each use comes to. -/
theorem eq_ready_of_next {i : Instance} (h : (ready i).next key e = some q) :
    q = ready i ∧ e ≠ .preparing key ∧ ∀ r, e = .forced key r → r = .ok i := by
  by_cases huse : e.use? = some key
  · cases e with
    | preparing k =>
      cases huse
      cases (eq_waiting_of_next h).1
    | forced k r =>
      cases huse
      obtain rfl := eq_ofResult_of_next h
      simp only [next, if_true] at h
      cases r with
      | ok j =>
        simp only [finish] at h
        split at h
        · next heq =>
          subst heq
          exact ⟨rfl, nofun, fun r hr => (Event.forced.inj hr).2.symm⟩
        · cases h
      | error e => cases h
    | _ => cases huse
  · rw [next_of_use? huse] at h
    refine ⟨(Option.some.inj h).symm, fun he => huse ?_, fun r he => (huse ?_).elim⟩
    all_goals
      rw [he]
      rfl

/-- A binding that failed is not injected again, and each use fails. -/
theorem eq_failed_of_next (h : failed.next key e = some q) :
    q = failed ∧ e ≠ .preparing key ∧
      ∀ r, e = .forced key r → r = .error (Container.unavailable key) := by
  by_cases huse : e.use? = some key
  · cases e with
    | preparing k =>
      cases huse
      cases (eq_waiting_of_next h).1
    | forced k r =>
      cases huse
      obtain rfl := eq_ofResult_of_next h
      simp only [next, if_true] at h
      cases r with
      | ok j => cases h
      | error e =>
        simp only [finish] at h
        split at h
        · next heq =>
          subst heq
          exact ⟨rfl, nofun, fun r hr => (Event.forced.inj hr).2.symm⟩
        · cases h
    | _ => cases huse
  · rw [next_of_use? huse] at h
    refine ⟨(Option.some.inj h).symm, fun he => huse ?_, fun r he => (huse ?_).elim⟩
    all_goals
      rw [he]
      rfl

/-- Once a binding is ready, it is prepared no more, and its uses come to the same. -/
theorem eq_ready_of_replay {i : Instance} (h : (ready i).replay key es = some q) :
    q = ready i ∧ ∀ e ∈ es, e ≠ .preparing key ∧ ∀ r, e = .forced key r → r = .ok i := by
  induction es with
  | nil => exact ⟨(Option.some.inj h).symm, List.forall_mem_nil _⟩
  | cons e es ih =>
    rw [replay_cons] at h
    obtain ⟨p, hp, h⟩ := Option.bind_eq_some_iff.mp h
    obtain ⟨rfl, he⟩ := eq_ready_of_next hp
    obtain ⟨hq, hes⟩ := ih h
    exact ⟨hq, List.forall_mem_cons.mpr ⟨he, hes⟩⟩

/-- Once a binding has failed, it is prepared no more, and its uses fail. -/
theorem eq_failed_of_replay (h : failed.replay key es = some q) :
    q = failed ∧ ∀ e ∈ es, e ≠ .preparing key ∧
      ∀ r, e = .forced key r → r = .error (Container.unavailable key) := by
  induction es with
  | nil => exact ⟨(Option.some.inj h).symm, List.forall_mem_nil _⟩
  | cons e es ih =>
    rw [replay_cons] at h
    obtain ⟨p, hp, h⟩ := Option.bind_eq_some_iff.mp h
    obtain ⟨rfl, he⟩ := eq_failed_of_next hp
    obtain ⟨hq, hes⟩ := ih h
    exact ⟨hq, List.forall_mem_cons.mpr ⟨he, hes⟩⟩

/-- The end of a list of entries is led to from what a use in it came to. -/
theorem replay_after {pre post : List Event} {r : Except ConfigurationError Instance}
    (h : p.replay key (pre ++ .forced key r :: post) = some q) :
    (ofResult r).replay key post = some q := by
  rw [replay_append] at h
  obtain ⟨p', -, h⟩ := Option.bind_eq_some_iff.mp h
  rw [replay_cons] at h
  obtain ⟨q', hq', h⟩ := Option.bind_eq_some_iff.mp h
  rwa [eq_ofResult_of_next hq'] at h

/-! ### How often an injection begins -/

/-- An injection begins at most once, and only if it was waited for. -/
theorem countP_prepares_le (h : p.replay key es = some q) :
    es.countP (Event.prepares key) ≤ if p = waiting then 1 else 0 := by
  induction es generalizing p with
  | nil => exact Nat.zero_le _
  | cons e es ih =>
    rw [replay_cons] at h
    obtain ⟨p', hp', h⟩ := Option.bind_eq_some_iff.mp h
    have hrest := ih h
    by_cases hprepares : e.prepares key = true
    · obtain rfl := Event.prepares_iff.mp hprepares
      obtain ⟨rfl, rfl⟩ := eq_waiting_of_next hp'
      rw [List.countP_cons_of_pos hprepares, if_pos rfl]
      exact Nat.succ_le_succ hrest
    · rw [List.countP_cons_of_neg hprepares]
      split at hrest
      · next hwaiting =>
        subst hwaiting
        rwa [if_pos (waiting_of_next hp')]
      · exact Nat.le_trans hrest (Nat.zero_le _)

/-- What waited and is ready was injected and was used. -/
theorem prepared_of_replay {i : Instance} (h : p.replay key es = some (ready i)) :
    (p = waiting → es.countP (Event.prepares key) = 1) ∧
      (p ≠ ready i → .forced key (.ok i) ∈ es) := by
  induction es generalizing p with
  | nil =>
    cases Option.some.inj h
    exact ⟨nofun, fun hne => absurd rfl hne⟩
  | cons e es ih =>
    have hcount := countP_prepares_le h
    rw [replay_cons] at h
    obtain ⟨p', hp', h⟩ := Option.bind_eq_some_iff.mp h
    obtain ⟨hprepared, hforced⟩ := ih h
    by_cases huse : e.use? = some key
    · cases e with
      | preparing k =>
        cases huse
        obtain ⟨rfl, rfl⟩ := eq_waiting_of_next hp'
        refine ⟨fun _ => Nat.le_antisymm hcount ?_, fun _ => ?_⟩
        · exact List.countP_pos_iff.mpr ⟨_, List.mem_cons_self, Event.prepares_iff.mpr rfl⟩
        · exact List.mem_cons_of_mem _ (hforced nofun)
      | forced k r =>
        cases huse
        refine ⟨fun hp => ?_, fun _ => ?_⟩
        · subst hp
          cases r <;> simp [next, finish] at hp'
        · by_cases heq : p' = ready i
          · subst heq
            have hr := eq_ofResult_of_next hp'
            cases r with
            | error e => cases hr
            | ok j =>
              cases hr
              exact List.mem_cons_self
          · exact List.mem_cons_of_mem _ (hforced heq)
      | _ => cases huse
    · rw [next_of_use? huse] at hp'
      obtain rfl := Option.some.inj hp'
      have hneg : ¬ e.prepares key = true := by
        intro hprepares
        obtain rfl := Event.prepares_iff.mp hprepares
        exact huse rfl
      refine ⟨fun hp => ?_, fun hne => List.mem_cons_of_mem _ (hforced hne)⟩
      rw [List.countP_cons_of_neg hneg]
      exact hprepared hp

end Readiness

/-! ### The contract -/

namespace Container

variable {c : Container} {s t u : State} {key : Key}

/-- The binding of a key is deferred. -/
def IsDeferred (c : Container) (key : Key) : Prop :=
  ∃ b, c.registry.lookup key = some b ∧ b.source.isDeferred = true

/-- Entries lead from what is remembered of deferred bindings in one state to what is remembered in
another. A running binding is left alone. -/
structure Prepares (c : Container) (s t : State) (es : List Event) : Prop where
  /-- Only deferred bindings are used. -/
  deferred : ∀ e ∈ es, ∀ key, e.use? = some key → c.IsDeferred key
  /-- The entries lead on. -/
  replay : ∀ key, (s.memory.readiness key).replay key es = some (t.memory.readiness key)
  /-- Whether a binding is running does not change. -/
  running : ∀ key, s.memory.readiness key = .running ∨ t.memory.readiness key = .running →
    t.memory.readiness key = s.memory.readiness key

theorem Prepares.trans {es fs : List Event} (h : c.Prepares s t es) (h' : c.Prepares t u fs) :
    c.Prepares s u (es ++ fs) where
  deferred e he := (List.mem_append.mp he).elim (h.deferred e) (h'.deferred e)
  replay key := by
    rw [Readiness.replay_append, h.replay key]
    exact h'.replay key
  running key hrunning := by
    rcases hrunning with hs | hu
    · have ht := h.running key (.inl hs)
      exact (h'.running key (.inl (ht.trans hs))).trans ht
    · have ht := h'.running key (.inr hu)
      exact ht.trans (h.running key (.inr (ht.symm.trans hu)))

/-- Other entries do not matter. -/
theorem Prepares.of_unused {es : List Event} (hes : ∀ e ∈ es, e.use? = none)
    (hmemory : t.memory.deferred = s.memory.deferred) : c.Prepares s t es := by
  have hsame : ∀ key, t.memory.readiness key = s.memory.readiness key := fun key => by
    unfold Memory.readiness
    rw [hmemory]
  refine ⟨fun e he key huse => ?_, fun key => ?_, fun key _ => hsame key⟩
  · rw [hes e he] at huse
    cases huse
  · rw [hsame key]
    refine Readiness.replay_of_use? fun e he huse => ?_
    rw [hes e he] at huse
    cases huse

/-- A use that changes nothing fits if it fits how far the binding is. -/
theorem Prepares.use {r : Except ConfigurationError Instance} (hkey : c.IsDeferred key)
    (hfits : (s.memory.readiness key).finish key r = some (s.memory.readiness key)) :
    c.Prepares s (s.inWorld (s.world.emit (.forced key r))) [.forced key r] := by
  refine ⟨fun e he k huse => ?_, fun k => ?_, fun _ _ => rfl⟩
  · rw [List.mem_singleton.mp he] at huse
    cases huse
    exact hkey
  · rw [Readiness.replay_singleton]
    change (s.memory.readiness k).next k (.forced key r) = some (s.memory.readiness k)
    by_cases heq : key = k
    · subst heq
      rw [Readiness.next, if_pos rfl]
      exact hfits
    · exact Readiness.next_of_use? fun huse => heq (Option.some.inj huse)

/-- The injection of an object that waits for it leads to what it comes to. -/
theorem Prepares.prepare {es : List Event} (hkey : c.IsDeferred key)
    (hwaiting : s.memory.readiness key = .waiting) (h : c.Prepares (s.preparing key) t es)
    (r : Except ConfigurationError Instance) :
    c.Prepares s (t.prepared key r) ([.preparing key] ++ es ++ [.forced key r]) := by
  have hopen : ∀ k, (s.preparing key).memory.readiness k =
      if key = k then .running else s.memory.readiness k :=
    fun k => Memory.readiness_setReadiness s.memory key k .running
  have hclosed : ∀ k, (t.prepared key r).memory.readiness k =
      if key = k then .ofResult r else t.memory.readiness k :=
    fun k => Memory.readiness_setReadiness t.memory key k (.ofResult r)
  refine ⟨fun e he k huse => ?_, fun k => ?_, fun k hrunning => ?_⟩
  · rcases List.mem_append.mp he with he | he
    · rcases List.mem_append.mp he with he | he
      · rw [List.mem_singleton.mp he] at huse
        cases huse
        exact hkey
      · exact h.deferred e he k huse
    · rw [List.mem_singleton.mp he] at huse
      cases huse
      exact hkey
  · rw [Readiness.replay_append, Readiness.replay_append, hclosed]
    have hreplay := h.replay k
    rw [hopen] at hreplay
    by_cases heq : key = k
    · -- The binding itself is running while `es` is entered.
      subst heq
      rw [if_pos rfl] at hreplay ⊢
      have hstay := h.running key (.inl (by rw [hopen, if_pos rfl]))
      rw [hstay, hopen, if_pos rfl] at hreplay
      have hbegin : (s.memory.readiness key).replay key [.preparing key] = some .running := by
        simp [hwaiting, Readiness.replay_singleton, Readiness.next]
      rw [hbegin, Option.bind_some, hreplay, Option.bind_some]
      simp [Readiness.replay_singleton, Readiness.next, Readiness.finish]
    · rw [if_neg heq] at hreplay ⊢
      have hbegin :
          (s.memory.readiness k).replay k [.preparing key] = some (s.memory.readiness k) :=
        Readiness.replay_of_use? fun e he huse => by
          rw [List.mem_singleton.mp he] at huse
          exact heq (Option.some.inj huse)
      rw [hbegin, Option.bind_some, hreplay, Option.bind_some]
      exact Readiness.replay_of_use? fun e he huse => by
        rw [List.mem_singleton.mp he] at huse
        exact heq (Option.some.inj huse)
  · rw [hclosed] at hrunning ⊢
    by_cases heq : key = k
    · subst heq
      rw [if_pos rfl, hwaiting] at hrunning
      rcases hrunning with hrunning | hrunning
      · cases hrunning
      · cases r <;> cases hrunning
    · rw [if_neg heq] at hrunning ⊢
      have hstay := h.running k
      rw [hopen, if_neg heq] at hstay
      exact hstay hrunning

/-- The contract of injecting deferred bindings once. -/
def preparation (c : Container) : Contract where
  Inv s := s.Faithful c
  Step s s' := ∃ es, s.Entered s' es ∧ c.Prepares s s' es
  total := False
  Error _ := True
  Fits _ _ _ := True
  refl s := ⟨[], State.Entered.refl s, .of_unused (List.forall_mem_nil _) rfl⟩
  trans := by
    rintro s t u ⟨es, hes, h⟩ ⟨fs, hfs, h'⟩
    exact ⟨es ++ fs, hes.trans hfs, h.trans h'⟩
  fits_step _ h := h

/-- Entries that tell of no use do not matter. -/
theorem preparation_emit {e : Event} (he : e.use? = none) (hs : c.preparation.Inv s) :
    c.preparation.Moves s (s.inWorld (s.world.emit e)) :=
  ⟨hs, [e], s.entered_emit e, .of_unused (fun _ he' => List.mem_singleton.mp he' ▸ he) rfl⟩

/-- What a container does is governed by how far its deferred bindings are. -/
theorem governs_preparation (c : Container) : c.preparation.Governs c where
  faithful hs := hs
  effect hs h := by
    obtain ⟨es, hes, hmark⟩ := h.entered
    exact ⟨(c.admitsAll_faithful.effect hs (h.mono fun _ hi => hi.elim)).1, es, hes,
      .of_unused (fun e he => Event.use?_of_not_isMark (hmark e he)) h.deferred⟩
  held _ _ := trivial
  plain _ _ := trivial
  fresh _ _ _ := trivial
  provided _ _ _ := trivial
  provider _ _ _ _ := trivial
  replaced _ _ _ _ := trivial
  lack _ _ _ := trivial
  mistyped _ _ _ := trivial
  member _ _ _ _ _ := trivial
  failure _ _ _ := trivial
  supply _ _ := trivial

/-- Using a deferred binding keeps to the contract, and afterwards its object is ready. -/
theorem preparation_force {self : Dependency → Run Instance} {b : Binding} {d : Deferral}
    (hb : c.registry.lookup b.key = some b) (hd : b.source.deferral = some d)
    (hself : ∀ e, c.InjectionNeeds d.subject.cls e → c.preparation.Gives e.key.ty (self e)) :
    c.preparation.Meets (fun _ => True) (c.force self b.key d)
      fun s i => s.memory.readiness b.key = .ready i := by
  have hkey : c.IsDeferred b.key := ⟨b, hb, by rw [Source.isDeferred, hd]; rfl⟩
  intro s hs _
  cases hready : s.memory.readiness b.key with
  | ready i =>
    rw [c.force_of_ready self d hready]
    refine ⟨⟨hs, _, s.entered_emit _, .use hkey ?_⟩, hready⟩
    rw [hready]
    exact if_pos rfl
  | failed =>
    rw [c.force_of_failed self d hready]
    refine ⟨⟨hs, _, s.entered_emit _, .use hkey ?_⟩, trivial⟩
    rw [hready]
    exact if_pos rfl
  | running =>
    rw [c.force_of_running self d hready]
    exact fun htotal => htotal
  | waiting =>
    rw [c.force_of_waiting self d hready]
    have ho := Contract.Compliance.carryOut c.governs_preparation hb hd hself
      (s.preparing b.key) hs trivial
    generalize c.carryOut self d _ = o at ho ⊢
    rcases o with _ | ⟨r, t⟩
    · exact ho
    obtain ⟨ht, es, hes, hprepares⟩ : c.preparation.Moves (s.preparing b.key) t := by
      cases r <;> exact ho.1
    have hentered : s.Entered (t.prepared b.key r)
        ([.preparing b.key] ++ es ++ [.forced b.key r]) :=
      ((s.entered_emit (.preparing b.key)).trans hes).trans (t.entered_emit (.forced b.key r))
    have hmoves : c.preparation.Moves s (t.prepared b.key r) :=
      ⟨ht, _, hentered, hprepares.prepare hkey hready r⟩
    cases r with
    | error e => exact ⟨hmoves, trivial⟩
    | ok i =>
      refine ⟨hmoves, ?_⟩
      exact (Memory.readiness_setReadiness t.memory b.key b.key (.ready i)).trans (if_pos rfl)

/-- A container injects its deferred bindings once. -/
theorem governsAll_preparation (c : Container) : c.preparation.GovernsAll c :=
  { c.governs_preparation with
    endless := fun h => h
    mark := fun he _ hs => preparation_emit he hs
    slots := fun _ _ hs _ => ⟨hs, [], State.Entered.refl _, .of_unused (List.forall_mem_nil _) rfl⟩
    attributes := fun keeper key i hs _ _ => by
      refine ⟨hs, [], ?_, .of_unused (List.forall_mem_nil _) rfl⟩
      simp [State.Entered, State.inWorld, World.journal_setAttribute]
    contexts := fun _ _ _ hs _ =>
      ⟨hs, [], State.Entered.refl _, .of_unused (List.forall_mem_nil _) rfl⟩
    forces := fun hb hself _ hd =>
      (preparation_force hb hd fun e he => hself e (sourceNeeds_of_deferral hd he)).weaken
        (fun _ h => h) fun _ _ _ => trivial }

end Container

end Wiring
