import Wiring.Proofs.Conveying
import Wiring.Proofs.Eagerness

/-!
# Nothing Comes of It Outside of Requests

Outside of requests, what is bound in the request scope or in the session scope, and the parts of
the request, cannot be had. Resolving them fails and leaves nothing behind. Whatever else comes to
need them, at whatever depth, fails with the same error, and the singletons that it was to create
are not there.

## Conventions

That a run comes to resolve something is said in two ways. If the run has an end, its entries in the
journal tell so. Whether it has an end or not, `Run.Reaches` tells what it is in the middle of; then
it has one.

## Main statements

* `Container.empty_of_underway`: singletons that were to be created are not there.
* `Container.PassesOn`: what comes of an operation that needs a request.
* `Container.nothing_outside_requests`: nothing comes of it.
* `Container.ferry_sails_empty`: a deferred binding that passes over errors makes a difference.
-/

namespace Wiring

namespace Container

variable {c : Container} {s s' : State}

/-- A singleton that was being supplied is not there afterwards, if from then on it was not
supplied. -/
theorem empty_of_underway (h : c.Operates s s') (hs : c.sharing.Inv s) {pre post : List Event}
    (hes : s.Entered s' (pre ++ post)) {key : Key} (hkey : c.IsSingleton key)
    (hunderway : Underway pre key) (hpost : ∀ i, .supplied key (.ok i) ∉ post) :
    s'.memory.slots.get? key = some .empty := by
  obtain ⟨-, es, hes', hadv⟩ := h.moves c.admits_sharing gives_resolve hs
  obtain rfl := hes.unique hes'
  obtain ⟨cell, hcell⟩ := get?_slots hs hkey
  -- a slot that is busy from outside may be taken to be underway, and stays so
  obtain ⟨p, hp, hbusy⟩ : ∃ p : Phase, p.cell = cell ∧ (p.cell = .busy → p = .underway) := by
    cases cell with
    | empty => exact ⟨.empty, rfl, nofun⟩
    | busy => exact ⟨.underway, rfl, fun _ => rfl⟩
    | full i => exact ⟨.full i, rfl, nofun⟩
  obtain ⟨q, hq, hreplay, hstay⟩ := hadv key hkey p (by rw [hcell, hp])
  rw [Phase.replay_append, Option.bind_eq_some_iff] at hreplay
  obtain ⟨p', hpre, hpost'⟩ := hreplay
  obtain ⟨hne, rfl⟩ := Phase.underway_of_replay hpre hunderway
  have hq' : q.cell ≠ .busy := fun hqbusy => by
    obtain rfl := hstay (.inr hqbusy)
    exact hne (hbusy hqbusy)
  cases q with
  | empty => exact hq
  | full i =>
    have hfull := (Phase.replay_eq_full_iff hpost').mp rfl
    exact absurd (hfull.resolve_left nofun) (hpost i)
  | _ => exact absurd rfl hq'

/-- What comes of an operation that enters `es` and comes to `r`, where errors are out of sight
while bindings of the keys of which `K` holds supply instances. -/
structure PassesOn (c : Container) (K : Key → Prop) (s s' : State)
    (r : Except ConfigurationError Unit) (es : List Event) : Prop where
  /-- Dependencies that need a request fail, with an error that names the key and the scope. -/
  outcome : ∀ d name r', c.NeedsRequest d name → .resolved d r' ∈ es →
    r' = .error (.outOfScope d.key.text name)
  /-- If one of them is not out of sight, then the operation fails with the same error. -/
  error : ∀ pre d name r' post, es = pre ++ .resolved d r' :: post → c.NeedsRequest d name →
    (∀ key, K key → ¬ Underway pre key) → r = .error (.outOfScope d.key.text name)
  /-- From then on nothing else is entered but that error. -/
  rest : ∀ pre d name r' post, es = pre ++ .resolved d r' :: post → c.NeedsRequest d name →
    (∀ key, K key → ¬ Underway pre key) →
      ∀ e ∈ post, e.failure? = some (.outOfScope d.key.text name)
  /-- The singletons that were being supplied are not there. -/
  slots : s.memory.slots.keys = c.singletonKeys → ∀ pre d name r' post,
    es = pre ++ .resolved d r' :: post → c.NeedsRequest d name →
    (∀ key, K key → ¬ Underway pre key) → ∀ key, c.IsSingleton key → Underway pre key →
      s'.memory.slots.get? key = some .empty

theorem Concludes.passesOn {K : Key → Prop} {r : Except ConfigurationError Unit}
    (h : c.Concludes s r s') (hK : ∀ key, c.FallsBack key → K key) (hs : c.Outside K s) :
    ∃ es, s.Entered s' es ∧ c.PassesOn K s s' r es := by
  obtain ⟨es, hes, hconveyed⟩ := h.conveyed hK hs
  refine ⟨es, hes, hconveyed.outcome, ?_, ?_, ?_⟩
  · exact fun pre d name r' post heq hd hsight =>
      (hconveyed.conveyed pre d name r' post heq hd hsight).1
  · exact fun pre d name r' post heq hd hsight =>
      (hconveyed.conveyed pre d name r' post heq hd hsight).2
  · rintro hslots pre d name r' post rfl hd hsight key hkey hunderway
    obtain ⟨-, hpost⟩ := hconveyed.conveyed pre d name r' post rfl hd hsight
    obtain rfl := hconveyed.outcome d name r' hd (by simp)
    refine empty_of_underway h.operates hslots hes hkey hunderway fun i hmem => ?_
    rcases List.mem_cons.mp hmem with hmem | hmem
    · cases hmem
    · cases hpost _ hmem

/-- What comes of dependencies that need a request while none is handled. -/
structure NothingOutside (c : Container) (s : State) : Prop where
  /-- Resolving one fails with an error that names the key and the scope. Nothing is remembered,
  created or kept, and no provider is run beyond finding that there is no request. -/
  fails : ∀ d name, c.NeedsRequest d name → ∀ n, ∃ asked,
    (asked = true → ∃ b, c.registry.lookup d.key = some b ∧ b.scope = .unscoped) ∧
    c.resolveWithin (n + 1) d s = some (.error (.outOfScope d.key.text name),
      s.inWorld ((attemptEntries d name asked).foldl World.emit s.world))
  /-- It counts as available all the same. -/
  available : ∀ d name, c.NeedsRequest d name → c.canResolve d s = some (.ok true, s)
  /-- A run that comes to resolve one has an end. It fails with the same error, does nothing more
  but note it, and leaves the slots empty that it had begun to fill. -/
  reached : ∀ d name, c.NeedsRequest d name → ∀ (n : Nat) (α : Type) (x : Run α) s₀ keys,
    Run.Reaches (c.resolveWithin (n + 1) d) s x s₀ keys → ∃ t s',
      c.resolveWithin (n + 1) d s = some (.error (.outOfScope d.key.text name), t) ∧
      x s₀ = some (.error (.outOfScope d.key.text name), s') ∧
      t.Notes (.outOfScope d.key.text name) s' ∧
      ∀ key ∈ keys, s'.memory.slots.get? key = some .empty
  /-- An operation that has resolved one passes that on, unless it is out of sight because a context
  replaces errors or a deferred binding passes over them. -/
  passed : ∀ r s', c.Concludes s r s' → ∃ es, s.Entered s' es ∧
    c.PassesOn (fun key => c.FallsBack key ∨ c.Forgives key) s s' r es

theorem nothingOutside (hs : s.world.currentExchange? = none) : c.NothingOutside s where
  fails _ _ h n := resolveWithin_of_needsRequest h hs n
  available _ _ h := canResolve_of_needsRequest h s
  reached _ _ h n α x s₀ keys hreaches := by
    obtain ⟨_, -, hfails⟩ := resolveWithin_of_needsRequest h hs n
    obtain ⟨s', hx, hnotes, hslots⟩ := hreaches.fails hfails
    exact ⟨_, s', hfails, hx, hnotes, hslots⟩
  passed r s' h := by
    refine h.passesOn (fun _ => .inl) ⟨hs, fun b d hb hd hforgiving hK => ?_⟩
    exact absurd (.inr ⟨b, d, hb, hd, hforgiving⟩) hK

/-- Once all deferred bindings are ready, only contexts put errors out of sight. -/
theorem outside_of_allReady (hs : s.world.currentExchange? = none)
    (hready : c.AllReady s.memory.readiness) : c.Outside c.FallsBack s := by
  refine ⟨hs, fun b d hb hd _ _ => hready b.key ⟨b, hb, ?_⟩⟩
  rw [Source.isDeferred, hd, Option.isSome_some]

/-- **Outside of requests.** While no request is handled, dependencies bound in the request scope or
in the session scope and the parts of the request fail to be resolved, with an error that names the
key and the scope, and that is all that happens. They count as available. Whatever comes to need
one, at any depth, fails with exactly the same error, and singletons that it was about to create are
not there afterwards; only a context that replaces errors, or a deferred binding that passes over
them while it is injected, can make a difference. In a container that is built, no deferred binding
is injected any more, and only such a context can. -/
theorem nothing_outside_requests :
    (∀ (c : Container) (s : State), s.world.currentExchange? = none → c.NothingOutside s) ∧
    ∀ (b : Builder) (classes : ClassTable) (w w' : World) (running : RunningContainer) (s : State),
      b.build classes w = some (.ok running, w') →
      (b.container classes).Later ⟨running.memory, w'⟩ s → s.world.currentExchange? = none →
      s.memory.slots.keys = (b.container classes).singletonKeys ∧
        ∀ r s', (b.container classes).Concludes s r s' → ∃ es, s.Entered s' es ∧
          (b.container classes).PassesOn (b.container classes).FallsBack s s' r es := by
  refine ⟨fun c s => nothingOutside, fun b classes w w' running s hbuild hlater hs => ?_⟩
  obtain ⟨-, hstart⟩ := Builder.build_eq_ok_iff.mp hbuild
  have hfaithful := (b.container classes).faithful_initial (b.opening classes w).world
  have hbuilt := (((b.container classes).governsAll_preparation.start
    fun _ _ _ => trivial).moves hfaithful trivial hstart).1
  have hready := (hlater.allReady hbuilt (allReady_of_start hstart hfaithful)).2
  exact ⟨hlater.shares (Builder.shares_build hbuild), fun r s' h =>
    h.passesOn (fun _ h => h) (outside_of_allReady hs hready)⟩

/-- A ferry that takes a passenger if one can be had, which is so while a request is handled, and a
harbor that needs the ferry. -/
def harbor : List Statement :=
  [.install webModule,
    .bind (.component "Passenger") none [] [.inScope (.contextual .request)] .constructor,
    .bind (.component "Harbor") none [] [.inScope .singleton] .constructor]

/-- The classes of the harbor. -/
def harborClasses : ClassTable := .ofList
  [("Passenger", ⟨[.constructor "Passenger" (.reading [] none)], [], .fresh fun _ => none⟩),
    ("Ferry", ⟨[.constructor "Ferry" (.reading [] none),
      (Member.field "Ferry" "passenger" (.injectable "Passenger")).withOptional true], [],
      .fresh fun _ => none⟩),
    ("Harbor", ⟨[(Member.constructor "Harbor" (.reading [.component "Ferry"] none)).requiring
      [.injectable "Ferry"]], [], .fresh fun _ => none⟩)]

/-- Whether an event tells what resolving the key of passengers came to. -/
def isPassenger : Event → Bool
  | .resolved d _ => d.key = .ofTy (.component "Passenger")
  | _ => false

theorem exists_eq_of_any_isPassenger {es : List Event} (h : es.any isPassenger = true) :
    ∃ d r post, d.key = .ofTy (.component "Passenger") ∧
      es = es.takeWhile (!isPassenger ·) ++ .resolved d r :: post := by
  have hsplit := (List.takeWhile_append_dropWhile (p := (!isPassenger ·)) (l := es)).symm
  have hrest : es.dropWhile (!isPassenger ·) ≠ [] := fun hnil => by
    obtain ⟨e, he, hpassenger⟩ := List.any_eq_true.mp h
    rw [hnil, List.append_nil] at hsplit
    rw [hsplit] at he
    simpa [hpassenger] using List.all_eq_true.mp List.all_takeWhile e he
  have hhead := List.head_dropWhile_not (!isPassenger ·) hrest
  obtain ⟨e, post, hcons⟩ := List.exists_cons_of_ne_nil hrest
  simp only [hcons, List.head_cons, Bool.not_eq_false'] at hhead
  rw [hcons] at hsplit
  unfold isPassenger at hhead
  split at hhead
  next d r => exact ⟨d, r, post, by simpa using hhead, hsplit⟩
  · cases hhead

/-- If no definition is bound in a context that replaces errors, no key is. -/
theorem not_fallsBack {b : Builder} (classes : ClassTable)
    (h : b.draft.definitions.all fun definition => match definition.scope with
      | .contextual (.named _ (.fallback _)) => false
      | _ => true) (key : Key) : ¬ (b.container classes).FallsBack key := by
  rintro ⟨definition, name, m, hlookup, hscope⟩
  have hdefinition := List.all_eq_true.mp h definition (Draft.mem_of_lookup hlookup)
  simp [hscope] at hdefinition

/-- Outside of requests there is no harbor, for the ferry asks for a passenger. -/
theorem harbor_waits_for_passenger : ∃ running w' s,
    ((Builder.ofConfig .standard).install harbor .new).1.build harborClasses
        ((Builder.ofConfig .standard).install harbor .new).2 = some (.ok running, w') ∧
      running.container.resolve (.injectable "Harbor") ⟨running.memory, w'⟩ =
        some (.error (.outOfScope "Key[Passenger]" "request"), s) ∧
      s.memory.slots.get? (.ofTy (.component "Harbor")) = some .empty := by
  let b := ((Builder.ofConfig .standard).install harbor .new).1
  let c := b.container harborClasses
  -- what is entered until the passenger is asked for
  let asking (s s' : State) : List Event :=
    (s'.world.journal.toList.drop s.world.journal.toList.length).takeWhile (!isPassenger ·)
  let key : Key := .ofTy (.component "Harbor")
  have hrun : (b.build harborClasses ((Builder.ofConfig .standard).install harbor .new).2).bind
      (fun p => p.1.toOption.bind fun running =>
        (c.resolve (.injectable "Harbor") ⟨running.memory, p.2⟩).map fun q =>
          (p.2.currentExchange?.isNone,
            (q.2.world.journal.toList.drop p.2.journal.toList.length).any isPassenger,
            decide ((asking ⟨running.memory, p.2⟩ q.2).countP (Event.ends key) <
              (asking ⟨running.memory, p.2⟩ q.2).countP (Event.begins key)))) =
      some (true, true, true) := by
    decide +kernel
  obtain ⟨⟨x, w'⟩, hbuild, hrun⟩ := Option.bind_eq_some_iff.mp hrun
  obtain ⟨running, hx, hrun⟩ := Option.bind_eq_some_iff.mp hrun
  obtain ⟨⟨r, s⟩, hresolve, heq⟩ := Option.map_eq_some_iff.mp hrun
  obtain rfl : x = .ok running := by
    cases x with
    | error e => cases hx
    | ok running' => exact congrArg Except.ok (Option.some.inj hx)
  simp only [Prod.mk.injEq, decide_eq_true_eq, Option.isNone_iff_eq_none] at heq
  obtain ⟨hcurrent, hasked, hunderway⟩ := heq
  obtain ⟨hslots, hpasses⟩ := nothing_outside_requests.2 b harborClasses _ w' running
    ⟨running.memory, w'⟩ hbuild .done hcurrent
  obtain ⟨es, hes, hpassesOn⟩ := hpasses _ _ (.resolve hresolve)
  have hdrop : s.world.journal.toList.drop w'.journal.toList.length = es := by
    rw [hes, List.drop_left]
  rw [hdrop] at hasked
  obtain ⟨d, r', post, hd, hsplit⟩ := exists_eq_of_any_isPassenger hasked
  have hneeds : (b.container harborClasses).NeedsRequest d "request" :=
    .request (by rw [hd]; rfl) rfl
  have hcontexts : ∀ key, ¬ (b.container harborClasses).FallsBack key :=
    not_fallsBack harborClasses (by decide +kernel)
  have hwaits : Underway (es.takeWhile (!isPassenger ·)) key := by
    simpa only [Underway, asking, hdrop] using hunderway
  have herror := hpassesOn.error _ d "request" r' post hsplit hneeds
    fun key hkey => absurd hkey (hcontexts key)
  have hempty := hpassesOn.slots hslots _ d "request" r' post hsplit hneeds
    (fun key hkey => absurd hkey (hcontexts key)) key ⟨_, rfl, rfl⟩ hwaits
  refine ⟨running, w', s, hbuild, ?_, hempty⟩
  obtain rfl : r = .error (.outOfScope d.key.text "request") := by
    cases r with
    | error e => simpa [Except.map] using herror
    | ok i => cases herror
  rw [hd] at hresolve
  rw [(Builder.build_eq_ok_iff.mp hbuild).1]
  exact hresolve

/-- A ferry that takes a passenger, injected by a deferral that passes over errors, and a harbor to
which the ferry belongs. -/
def ferryLine : List Statement :=
  [.bind (.component "Passenger") none [] [.inScope (.contextual .request)] .constructor,
    .define (.ofTy (.component "Harbor")) (.ready (.injected ⟨.new "Harbor", 1, false⟩)) .unscoped
      false,
    .define (.ofTy (.component "Ferry")) (.ready (.injected ⟨.new "Ferry", 1, true⟩)) .unscoped
      false]

/-- The classes of the ferry line. -/
def ferryLineClasses : ClassTable := .ofList
  [("Passenger", ⟨[.constructor "Passenger" (.reading [] none)], [], .fresh fun _ => none⟩),
    ("Ferry", ⟨[.field "Ferry" "passenger" (.injectable "Passenger")], [], .fresh fun _ => none⟩),
    ("Harbor", ⟨[.field "Harbor" "ferry" (.injectable "Ferry")], [], .fresh fun _ => none⟩)]

/-- The passenger has been asked for in vain. -/
def MissesPassenger (w : World) : Prop := ∃ e ∈ w.journal.toList, isPassenger e = true ∧
  e.failure? = some (.outOfScope "Key[Passenger]" "request")

instance (w : World) : Decidable (MissesPassenger w) :=
  inferInstanceAs (Decidable (∃ e ∈ w.journal.toList, _ ∧ _))

/-- Outside of requests, with no context that replaces errors, the harbor gets its ferry all the
same, and the container is built: that there is no passenger for it is passed over. -/
theorem ferry_sails_empty :
    let made := (Builder.ofConfig .standard).install ferryLine .new
    let c := made.1.container ferryLineClasses
    let s := made.1.opening ferryLineClasses made.2
    s.world.currentExchange? = none ∧ (∀ key, ¬ c.FallsBack key) ∧
      c.NeedsRequest (.injectable "Passenger") "request" ∧
      (∃ i s', c.resolve (.injectable "Harbor") s = some (.ok i, s') ∧ MissesPassenger s'.world) ∧
      ∃ running w', made.1.build ferryLineClasses made.2 = some (.ok running, w') ∧
        MissesPassenger w' := by
  intro made c s
  have hresolve : (c.resolve (.injectable "Harbor") s).map (fun q =>
      (q.1.isOk, decide (MissesPassenger q.2.world))) = some (true, true) := by
    decide +kernel
  have hbuild : (made.1.build ferryLineClasses made.2).map (fun q =>
      (q.1.isOk, decide (MissesPassenger q.2))) = some (true, true) := by
    decide +kernel
  have hsome : ∀ {α : Type} {r : Except ConfigurationError α}, r.isOk = true → ∃ a, r = .ok a :=
    fun {α r} h => by
      cases r with
      | error e => cases h
      | ok a => exact ⟨a, rfl⟩
  obtain ⟨⟨r, s'⟩, hresolve, hr⟩ := Option.map_eq_some_iff.mp hresolve
  obtain ⟨⟨o, w'⟩, hbuild, ho⟩ := Option.map_eq_some_iff.mp hbuild
  simp only [Prod.mk.injEq, decide_eq_true_eq] at hr ho
  obtain ⟨⟨i, rfl⟩, hmisses⟩ := And.imp_left hsome hr
  obtain ⟨⟨running, rfl⟩, hmisses'⟩ := And.imp_left hsome ho
  exact ⟨rfl, not_fallsBack ferryLineClasses (by decide +kernel), .request rfl rfl,
    ⟨i, s', hresolve, hmisses⟩, running, w', hbuild, hmisses'⟩

end Container

end Wiring
