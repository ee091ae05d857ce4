import Wiring.Proofs.Keeping
import Wiring.Proofs.System

/-!
# What Containers Find While Requests Are Handled

While a request is handled, containers resolve its parts to the objects of that very request, and
what is bound in the request or session scope is kept by that request or by its session. This holds
of whatever is resolved on the way, at any depth, in containers with circles, too. There is one
session of a request, whichever way it is asked for: once a request belongs to a session it stays
there, and no other is created for it.

## Conventions

What is said about a resolution is said in the world in which the run ends that made it. It holds
there since it lasts.

## Main statements

* `World.part`: the parts of a request, of which the session may have to be created.
* `Container.resolveWithin_of_readsPart`: a part of the request is there while it is handled.
* `State.Onward`: what lasts while a container works.
* `Container.Belongs`, `Container.serving`: what resolutions find, as a discipline.
* `Container.Operates.belongs`, `Container.belongs_start`: it is kept to.
* `Container.finds`: what a container finds while a request is handled.
-/

namespace Wiring

/-! ### Parts of a request -/

namespace World

/-- A part of the request that `e` stands for. The session is created if there is none. -/
def part (w : World) (e : Exchange) : RequestPart → Value × World
  | .request => (.request e.request, w)
  | .response => (.response e.response, w)
  | .session => (.session (w.sessionOf e.request).1, (w.sessionOf e.request).2)
  | .parameters => (.parameters (w.request e.request).parameters, w)

/-- A value is a part of the request that `e` stands for. -/
def IsPart (w : World) (e : Exchange) : RequestPart → Value → Prop
  | .request, v => v = .request e.request
  | .response, v => v = .response e.response
  | .session, v => ∃ id, v = .session id ∧ (w.request e.request).session = some id
  | .parameters, v => v = .parameters (w.request e.request).parameters

variable {w w' : World} {e : Exchange} {p : RequestPart} {v : Value} {K : Keeper} {key : Key}
  {r id : Nat}

/-- The session of a request that belongs to one. -/
theorem sessionOf_of_some (h : (w.request r).session = some id) : w.sessionOf r = (id, w) := by
  rw [sessionOf, h]

/-- A request belongs to its session once it was asked for. -/
theorem session_sessionOf (hr : r < w.requests.size) :
    ((w.sessionOf r).2.request r).session = some (w.sessionOf r).1 := by
  unfold sessionOf
  split
  · next id hid => exact hid
  · change ((w.addSession.2.modifyRequest r _).request r).session = _
    rw [session_join]
    exact if_pos ⟨rfl, hr⟩

/-- What is given out as a part of an exchange is that part. -/
theorem isPart_part (he : e.request < w.requests.size) (p : RequestPart) :
    (w.part e p).2.IsPart e p (w.part e p).1 := by
  cases p with
  | session => exact ⟨_, rfl, session_sessionOf he⟩
  | _ => rfl

/-- A part depends on nothing but the requests and the number of sessions. -/
theorem part_congr (hrequests : w'.requests = w.requests) (hsessions : w'.sessions = w.sessions)
    (e : Exchange) (p : RequestPart) : (w'.part e p).1 = (w.part e p).1 ∧
      (w'.part e p).2.requests = (w.part e p).2.requests ∧
      (w'.part e p).2.sessions = (w.part e p).2.sessions := by
  have hrequest : w'.request e.request = w.request e.request := by
    rw [request, request, hrequests]
  cases p with
  | session =>
    simp only [part, sessionOf, hrequest]
    split
    · exact ⟨rfl, hrequests, hsessions⟩
    · simp only [addSession, modifyRequest, log, emit, hrequests, hsessions, and_self]
  | parameters => exact ⟨by simp only [part, hrequest], hrequests, hsessions⟩
  | _ => exact ⟨rfl, hrequests, hsessions⟩

/-- What is kept first stays, and what is then given is what is kept. -/
theorem get?_attributeOrInsert (hK : K.IsIn w) (key : Key) (i : Instance) :
    ((w.attributeOrInsert K key i).2.attributes K).get? key =
      some (w.attributeOrInsert K key i).1 := by
  cases h : (w.attributes K).get? key with
  | some kept =>
    rw [attributeOrInsert_of_some h]
    exact h
  | none =>
    rw [attributeOrInsert_of_none h]
    exact get?_setAttribute_self hK

end World

namespace Container

variable {c : Container} {d : Dependency} {b : Binding} {s s' : State}
  {self : Dependency → Run Instance}

/-- A key is bound to a part of the current request. -/
def ReadsPart (c : Container) (key : Key) (p : RequestPart) : Prop :=
  ∃ b, c.registry.lookup key = some b ∧ b.scope = .unscoped ∧ b.source = .provider (.current p)

/-- While a request is handled, each of its parts can be had, and nothing but a missing session
comes to be. -/
theorem resolveStep_of_readsPart {p : RequestPart} {e : Exchange} (h : c.ReadsPart d.key p)
    (he : s.world.currentExchange? = some e) :
    ∃ i s', c.resolveStep self d s = some (.ok i, s') ∧ i.value = (s.world.part e p).1 ∧
      s'.world.requests = (s.world.part e p).2.requests ∧
      s'.world.sessions = (s.world.part e p).2.sessions := by
  obtain ⟨b, hb, hscope, hsource⟩ := h
  let t := s.inWorld ((s.world.log (.resolving d.key)).emit (.supplying b.key))
  have ht : t.world.currentExchange? = some e := he
  obtain ⟨hvalue, hrequests, hsessions⟩ :=
    World.part_congr (show t.world.requests = s.world.requests from rfl) rfl e p
  have hpart : currentPart p t =
      some (.ok (t.world.part e p).1, t.inWorld (t.world.part e p).2) := by
    simp only [currentPart, Run.bind_eq, Run.read, ht]
    cases p <;> rfl
  have hprovision : c.provision self b t = some (.ok (((t.world.part e p).2.wrap
      (t.world.part e p).1).1), t.inWorld ((t.world.part e p).2.wrap (t.world.part e p).1).2) := by
    simp only [provision, hsource, callProvider, Run.bind_eq, hpart]
    rfl
  have hanswer : c.answer self d (s.inWorld (s.world.log (.resolving d.key))) =
      (c.provision self b t).map fun q =>
        (q.1, { q.2 with world := q.2.world.emit (.supplied b.key q.1) }) := by
    simp only [answer, hb, resolveBinding, withinScope, hscope, supply]
    rfl
  have hstep : c.resolveStep self d s =
      (c.answer self d (s.inWorld (s.world.log (.resolving d.key)))).map fun q =>
        (q.1, { q.2 with world := q.2.world.emit (.resolved d q.1) }) := rfl
  rw [hstep, hanswer, hprovision]
  exact ⟨_, _, rfl, hvalue, hrequests, hsessions⟩

/-- A dependency on a part of the request is resolved to that part. -/
theorem resolveWithin_of_readsPart {p : RequestPart} {e : Exchange} (h : c.ReadsPart d.key p)
    (he : s.world.currentExchange? = some e) (n : Nat) :
    ∃ i s', c.resolveWithin (n + 1) d s = some (.ok i, s') ∧ i.value = (s.world.part e p).1 ∧
      s'.world.requests = (s.world.part e p).2.requests ∧
      s'.world.sessions = (s.world.part e p).2.sessions :=
  resolveStep_of_readsPart h he

end Container

/-! ### What lasts -/

/-- What lasts while a container works: the same requests are handled, requests keep their
parameters and stay in their sessions, and what is kept is kept. -/
structure State.Onward (s s' : State) : Prop where
  /-- The same requests are handled, and none leaves its session. -/
  continues : s.world.Continues s'.world
  /-- No request goes. -/
  requests : s.world.requests.size ≤ s'.world.requests.size
  /-- Parameters stay the same. -/
  parameters : ∀ r, (s'.world.request r).parameters = (s.world.request r).parameters
  /-- What is kept stays. -/
  kept : ∀ K key i, (s.world.attributes K).get? key = some i →
    (s'.world.attributes K).get? key = some i

namespace State.Onward

variable {s t u : State}

theorem refl (s : State) : s.Onward s :=
  ⟨.refl _, Nat.le_refl _, fun _ => rfl, fun _ _ _ h => h⟩

theorem trans (h : s.Onward t) (h' : t.Onward u) : s.Onward u where
  continues := h.continues.trans h'.continues
  requests := Nat.le_trans h.requests h'.requests
  parameters r := (h'.parameters r).trans (h.parameters r)
  kept K key i hi := h'.kept K key i (h.kept K key i hi)

/-- An entry in the journal goes on. -/
theorem emit (s : State) (e : Event) : s.Onward (s.inWorld (s.world.emit e)) where
  continues := s.world.continues_emit e
  requests := Nat.le_refl _
  parameters _ := rfl
  kept K key i hi := by rwa [inWorld, World.attributes_emit]

/-- So does what is remembered. -/
theorem remember (s : State) (m : Memory) : s.Onward { s with memory := m } :=
  ⟨.refl _, Nat.le_refl _, fun _ => rfl, fun _ _ _ h => h⟩

/-- The same exchange is handled later on. -/
theorem currentExchange? (h : s.Onward t) :
    t.world.currentExchange? = s.world.currentExchange? := by
  rw [World.currentExchange?, World.currentExchange?, h.continues.current]

/-- A part of an exchange is one later on. -/
theorem isPart (h : s.Onward t) {e : Exchange} {p : RequestPart} {v : Value}
    (hv : s.world.IsPart e p v) : t.world.IsPart e p v := by
  cases p with
  | session =>
    obtain ⟨id, rfl, hid⟩ := hv
    exact ⟨id, rfl, h.continues.stays _ _ hid⟩
  | parameters => exact hv.trans (by rw [h.parameters])
  | _ => exact hv

/-- A keeper that is there stays there. -/
theorem isIn (h : s.Onward t) {K : World.Keeper} (hK : K.IsIn s.world) : K.IsIn t.world := by
  cases K with
  | request id => exact Nat.lt_of_lt_of_le hK h.requests
  | session id => exact Nat.lt_of_lt_of_le hK h.continues.size

/-- What is kept of a key for the request that is handled stays, too. -/
theorem kept? (h : s.Onward t) {c : Container} {key : Key} {i : Instance}
    (hi : c.kept? s.world key = some i) : c.kept? t.world key = some i := by
  obtain ⟨K, hK, hi⟩ := Option.bind_eq_some_iff.mp hi
  rw [Container.kept?, Container.keeper?_of_continues h.continues hK]
  exact h.kept K key i hi

end State.Onward

/-- An effect leads onward. -/
theorem Effect.onward {c : Container} {ok : Instance → Prop} {s s' : State}
    (h : Effect c ok s s') : s.Onward s' where
  continues := h.continues
  parameters := h.parameters
  requests := by
    cases h with
    | request method path => simp [State.inWorld, World.addRequest]
    | join request hnone => simp [State.inWorld, World.modifyRequest, World.addSession]
    | keep k key i _ _ =>
      cases k <;> simp [State.inWorld, World.setAttribute, World.modifyAttributes,
        World.modifyRequest, World.modifySession]
    | _ => exact Nat.le_refl _
  kept K key i hi := by
    cases h with
    | request method path => rwa [State.inWorld, World.attributes_addRequest rfl]
    | session => rwa [State.inWorld, World.attributes_addSession]
    | join request hnone =>
      rwa [State.inWorld, World.attributes_join, World.attributes_addSession]
    | keep k key' j _ hnone =>
      rw [State.inWorld, World.get?_setAttribute_of_ne]
      · exact hi
      · by_contra! heq
        obtain ⟨rfl, rfl⟩ := heq
        rw [hnone] at hi
        cases hi
    | _ => cases K <;> exact hi

/-! ### The discipline -/

namespace Container

variable (c : Container)

/-- What resolving a key has come to: a part of the request that is handled, or what is kept for
it. -/
structure Belongs (w : World) (key : Key) (i : Instance) : Prop where
  /-- A part of the request. -/
  part : ∀ p, c.ReadsPart key p → ∃ e, w.currentExchange? = some e ∧ w.IsPart e p i.value
  /-- What the request or its session keeps. -/
  kept : c.IsKept key → c.kept? w key = some i

/-- The discipline of finding nothing but what belongs to the request that is handled. -/
def serving : Discipline where
  Inv s := s.world.Valid
  Step s s' := s.Onward s' ∧ ∃ es, s.Entered s' es ∧
    ∀ d i, .resolved d (.ok i) ∈ es → c.Belongs s'.world d.key i
  Known _ _ := True
  refl s := ⟨.refl s, [], .refl s, nofun⟩
  trans := by
    rintro s t u ⟨h, es, hes, hbelongs⟩ ⟨h', fs, hfs, hbelongs'⟩
    refine ⟨h.trans h', es ++ fs, hes.trans hfs, fun d i hmem => ?_⟩
    rcases List.mem_append.mp hmem with hmem | hmem
    · obtain ⟨hpart, hkept⟩ := hbelongs d i hmem
      refine ⟨fun p hp => ?_, fun hk => h'.kept? (hkept hk)⟩
      obtain ⟨e, he, hv⟩ := hpart p hp
      exact ⟨e, h'.currentExchange?.trans he, h'.isPart hv⟩
    · exact hbelongs' d i hmem
  known_step _ h := h

variable {c} {b : Binding} {self : Dependency → Run Instance} {s s' : State} {key : Key}

/-- An instance that belongs to a key does so later on. -/
theorem Belongs.onward {i : Instance} (h : c.Belongs s.world key i) (hs : s.Onward s') :
    c.Belongs s'.world key i where
  part p hp := by
    obtain ⟨e, he, hv⟩ := h.part p hp
    exact ⟨e, hs.currentExchange?.trans he, hs.isPart hv⟩
  kept hk := hs.kept? (h.kept hk)

/-- Nothing is asked of a key that is bound to something else. -/
theorem Belongs.of_plain (w : World) (i : Instance) (hpart : ∀ p, ¬ c.ReadsPart key p)
    (hkept : ¬ c.IsKept key) : c.Belongs w key i :=
  ⟨fun p hp => absurd hp (hpart p), fun h => absurd h hkept⟩

/-- Effects keep to serving. -/
theorem admits_serving (c : Container) : c.serving.Admits c where
  fresh _ _ := trivial
  mentioned _ _ := trivial
  effect hs h := by
    obtain ⟨es, hes, hmark⟩ := h.entered
    refine ⟨h.valid hs, h.onward, es, hes, fun d i hmem => ?_⟩
    cases hmark _ hmem

/-- What does not tell of a resolution may be entered. -/
theorem serving_emit {e : Event} (he : ∀ d i, e ≠ .resolved d (.ok i)) (hs : s.world.Valid) :
    c.serving.Moves s (s.inWorld (s.world.emit e)) := by
  refine ⟨hs.emit e, .emit s e, [e], s.entered_emit e, fun d i hmem => ?_⟩
  exact absurd (List.mem_singleton.mp hmem).symm (he d i)

/-- So do entries that tell of no success. -/
theorem emits_serving {e : Event} (he : ∀ d i, e ≠ .resolved d (.ok i)) :
    c.serving.Allows (.emit e) := Discipline.Ensures.change fun _ hs _ => serving_emit he hs

/-- So do marks that tell of no success. -/
theorem marks_serving {f : Except ConfigurationError Instance → Event}
    (hf : ∀ r d i, f r ≠ .resolved d (.ok i)) : Discipline.Conduct.Marks c.serving f :=
  fun r _ hs _ => serving_emit (hf r) hs

/-- So does what is remembered. -/
theorem serving_remember (m : Memory) (hs : s.world.Valid) :
    c.serving.Moves s { s with memory := m } :=
  ⟨hs, .remember s m, [], (List.append_nil _).symm, nofun⟩

/-- Deferred bindings may advance. -/
theorem setsReadiness_serving : Discipline.Conduct.SetsReadiness c.serving :=
  fun _ _ => Discipline.Ensures.remember fun _ hs _ => serving_remember _ hs

/-- Slots may be filled. -/
theorem setsSlots_serving : Discipline.Conduct.SetsSlots c.serving :=
  fun _ _ => Discipline.Ensures.remember fun _ hs _ => serving_remember _ hs

/-- What is true onward lasts. -/
theorem lasting_serving {P : State → Prop} (h : ∀ s s', s.Onward s' → P s → P s') :
    c.serving.Lasting P := fun s s' hstep => h s s' hstep.1

/-! ### Providers and scopes -/

/-- The session of the request that is handled is there from the time it is asked for. -/
theorem serving_sessionOf (e : Exchange) :
    c.serving.Ensures (fun s => s.world.currentExchange? = some e)
      (.act (·.sessionOf e.request)) fun s id =>
        (World.Keeper.session id).IsIn s.world ∧ s.world.currentExchange? = some e ∧
          (s.world.request e.request).session = some id := by
  refine Discipline.Ensures.act fun s hs he => ?_
  obtain ⟨hs', hstep⟩ := c.admits_serving.sessionOf hs e.request
  have hid := World.session_sessionOf (hs.current e (List.mem_of_mem_head? he))
  exact ⟨hs', hstep, hs'.sessions _ _ hid, hstep.1.currentExchange?.trans he, hid⟩

/-- A part of the request is one of the exchange that is handled. -/
theorem serving_currentPart (p : RequestPart) :
    c.serving.Ensures (fun _ => True) (currentPart p) fun s v =>
      ∃ e, s.world.currentExchange? = some e ∧ s.world.IsPart e p v := by
  refine Discipline.Ensures.bind (V := fun s e => s.world.currentExchange? = e)
    (Discipline.Ensures.read fun _ _ _ => rfl) fun e => ?_
  cases e with
  | none => exact Discipline.Ensures.fail _
  | some e =>
    cases p with
    | request | response => exact Discipline.Ensures.succeed fun _ _ he => ⟨e, he, rfl⟩
    | session =>
      exact (serving_sessionOf e).bind fun id =>
        Discipline.Ensures.succeed fun _ _ h => ⟨e, h.2.1, id, rfl, h.2.2⟩
    | parameters =>
      refine Discipline.Ensures.bind (V := fun s r => s.world.currentExchange? = some e ∧
        s.world.request e.request = r) (Discipline.Ensures.read fun _ _ he => ⟨he, rfl⟩) fun r =>
          Discipline.Ensures.succeed fun _ _ h => ⟨e, h.1, ?_⟩
      rw [World.IsPart, h.2]

/-- A binding supplies the part of the request that it is bound to. -/
theorem serving_supply (hself : ∀ d, c.serving.Gives (self d))
    (hb : c.registry.lookup b.key = some b) :
    c.serving.Ensures (fun _ => True) (c.supply self b) fun s i =>
      ∀ p, b.source = .provider (.current p) →
        ∃ e, s.world.currentExchange? = some e ∧ s.world.IsPart e p i.value := by
  have hprovision : c.serving.Ensures (fun _ => True) (c.provision self b) fun s i =>
      ∀ p, b.source = .provider (.current p) →
        ∃ e, s.world.currentExchange? = some e ∧ s.world.IsPart e p i.value := by
    by_cases hsource : ∃ p, b.source = .provider (.current p)
    · obtain ⟨p, hsource⟩ := hsource
      have hcall : c.provision self b = callProvider b.key (.current p) := by
        rw [provision, hsource]
      rw [hcall]
      refine (serving_currentPart p).bind fun v => Discipline.Ensures.act fun s hs hv => ?_
      obtain ⟨hs', hstep⟩ := c.admits_serving.effect hs (.wrap v)
      refine ⟨hs', hstep, fun p' hp' => ?_⟩
      rw [hsource] at hp'
      cases hp'
      exact hv
    · have hforce := fun d (hd : b.source.deferral = some d) =>
        Discipline.Conduct.force c.admits_serving setsReadiness_serving hself hb hd
          (emits_serving (by simp)) (marks_serving (by simp))
      exact (Discipline.Conduct.provision c.admits_serving hself hb hforce).weaken
        (fun _ h => h) fun _ _ _ p hp => absurd ⟨p, hp⟩ hsource
  refine (emits_serving (by simp)).bind fun _ => ?_
  refine Discipline.Ensures.noting hprovision (fun i => ?_) fun r s hs _ =>
    serving_emit (by simp) hs
  refine lasting_serving fun s s' h hi p hp => ?_
  obtain ⟨e, he, hv⟩ := hi p hp
  exact ⟨e, h.currentExchange?.trans he, h.isPart hv⟩

/-- The exchange that is handled stays the same. -/
theorem lasting_current (e : Exchange) :
    c.serving.Lasting fun s => s.world.currentExchange? = some e :=
  lasting_serving fun _ _ h he => h.currentExchange?.trans he

/-- A request that is handled is there. -/
theorem serving_current : c.serving.Ensures (fun _ => True) (.read (·.world.currentExchange?))
    fun s r => ∀ e, r = some e → s.world.currentExchange? = some e ∧
      e.request < s.world.requests.size :=
  Discipline.Ensures.read fun _ hs _ e he => ⟨he, hs.current e (List.mem_of_mem_head? he)⟩

/-- What is given by a request or a session that is there is what it keeps. -/
theorem serving_keptBy {K : World.Keeper} {notice : Notice}
    (hnotice : (Event.logged notice).isMark = false) {create : Run Instance}
    (hcreate : c.serving.Allows create) :
    c.serving.Ensures (fun s => K.IsIn s.world) (keptBy K key notice create) fun s i =>
      (s.world.attributes K).get? key = some i := by
  have hIn : c.serving.Lasting fun s => K.IsIn s.world :=
    lasting_serving fun _ _ h hK => h.isIn hK
  refine Discipline.Ensures.bind (V := fun s r => (s.world.attributes K).get? key = r ∧
    K.IsIn s.world) (Discipline.Ensures.read fun _ _ hK => ⟨rfl, hK⟩) fun r => ?_
  cases r with
  | some i => exact Discipline.Ensures.succeed fun _ _ h => h.1
  | none =>
    refine Discipline.Ensures.weaken (P := fun s => K.IsIn s.world) ?_ (fun _ h => h.2)
      fun _ _ h => h
    refine Discipline.Ensures.andThen hIn hcreate fun i => ?_
    refine Discipline.Ensures.andThen hIn (c.admits_serving.log notice hnotice) fun _ => ?_
    refine Discipline.Ensures.act fun s hs hK => ?_
    obtain ⟨hs', hstep, -⟩ := c.admits_serving.attributeOrInsert K key i s hs
      (fun _ _ => trivial) _ _ rfl
    exact ⟨hs', hstep, World.get?_attributeOrInsert hK key i⟩

/-- Where the request or its session keeps instances, what is given is what is kept. -/
theorem serving_accessed {accessor : Accessor} (hb : c.registry.lookup b.key = some b)
    (hscope : b.scope = .contextual accessor) {create : Run Instance}
    (hcreate : c.serving.Allows create) :
    c.serving.Ensures (fun _ => True) (accessed b.key create accessor) fun s i =>
      c.IsKept b.key → c.kept? s.world b.key = some i := by
  cases accessor with
  | request =>
    refine Discipline.Ensures.bind serving_current fun e => ?_
    cases e with
    | none => exact Discipline.Ensures.fail _
    | some e =>
      refine ((serving_keptBy rfl hcreate).frame (lasting_current e)).weaken
        (fun s h => ⟨(h e rfl).2, (h e rfl).1⟩) fun s i h _ => ?_
      obtain ⟨hi, he⟩ := h
      have hK : c.keeper? s.world b.key = some (.request e.request) := by
        rw [keeper?, keeperFor_request hb hscope, World.handled?, he]
        rfl
      rw [kept?, hK]
      exact hi
  | session =>
    refine Discipline.Ensures.bind serving_current fun e => ?_
    cases e with
    | none => exact Discipline.Ensures.fail _
    | some e =>
      refine Discipline.Ensures.bind
        ((serving_sessionOf e).weaken (fun s h => ?_) fun _ _ h => h) fun id => ?_
      · exact (h e rfl).1
      refine ((serving_keptBy rfl hcreate).frame (Q := fun s => s.world.currentExchange? = some e ∧
        (s.world.request e.request).session = some id) (lasting_serving fun s s' h hq =>
          ⟨h.currentExchange?.trans hq.1, h.continues.stays _ _ hq.2⟩)).weaken
        (fun _ h => h) fun s i h _ => ?_
      obtain ⟨hi, he, hid⟩ := h
      have hK : c.keeper? s.world b.key = some (.session id) := by
        rw [keeper?, keeperFor_session hb hscope, World.joined?, World.handled?, he]
        exact congrArg (Option.map World.Keeper.session) hid
      rw [kept?, hK]
      exact hi
  | named name rule =>
    have hgives : c.serving.Gives create := hcreate.weaken (fun _ h => h) fun _ _ _ _ _ => trivial
    refine (Discipline.Conduct.accessed c.admits_serving b.key hgives _).weaken (fun _ h => h)
      fun _ _ _ hkept => ?_
    obtain ⟨b', accessor, hb', hscope', hor⟩ := hkept
    rw [hb] at hb'
    cases hb'
    rw [hscope] at hscope'
    cases hscope'
    exact absurd hor (by simp)

/-! ### Resolutions -/

/-- A binding supplies what belongs to the request that is handled. -/
theorem serving_resolveBinding (hself : ∀ d, c.serving.Gives (self d))
    (hb : c.registry.lookup b.key = some b) :
    c.serving.Ensures (fun _ => True) (c.resolveBinding self b) fun s i =>
      c.Belongs s.world b.key i := by
  have hsupply := serving_supply hself hb
  have hreads : ∀ p, c.ReadsPart b.key p → b.scope = .unscoped ∧
      b.source = .provider (.current p) := by
    rintro p ⟨b', hb', hscope, hsource⟩
    rw [hb] at hb'
    cases hb'
    exact ⟨hscope, hsource⟩
  have hkeeps : c.IsKept b.key → ∃ accessor, b.scope = .contextual accessor := by
    rintro ⟨b', accessor, hb', hscope, -⟩
    rw [hb] at hb'
    cases hb'
    exact ⟨accessor, hscope⟩
  unfold resolveBinding withinScope
  cases hscope : b.scope with
  | unscoped =>
    refine hsupply.weaken (fun _ h => h) fun s i hi => ⟨fun p hp => hi p (hreads p hp).2, ?_⟩
    intro hkept
    obtain ⟨_, hscope'⟩ := hkeeps hkept
    rw [hscope] at hscope'
    cases hscope'
  | singleton =>
    refine (Discipline.Conduct.inSlot c.admits_serving setsSlots_serving b.key
      (emits_serving (by simp)) (hsupply.weaken (fun _ h => h) fun _ _ _ _ _ => trivial)).weaken
        (fun _ h => h) fun s i _ => .of_plain _ _ (fun p hp => ?_) fun hkept => ?_
    · rw [hscope] at hreads
      cases (hreads p hp).1
    · obtain ⟨_, hscope'⟩ := hkeeps hkept
      rw [hscope] at hscope'
      cases hscope'
  | contextual accessor =>
    refine (serving_accessed hb hscope hsupply.allows).weaken (fun _ h => h) fun s i hi =>
      ⟨fun p hp => ?_, hi⟩
    rw [hscope] at hreads
    cases (hreads p hp).1

/-- A dependency is answered by what belongs to its key. -/
theorem serving_answer (hself : ∀ d, c.serving.Gives (self d)) (d : Dependency) :
    c.serving.Ensures (fun _ => True) (c.answer self d) fun s i => c.Belongs s.world d.key i := by
  unfold answer
  cases hb : c.registry.lookup d.key with
  | some b =>
    have hkey := Registry.key_of_lookup hb
    rw [← hkey] at hb ⊢
    exact serving_resolveBinding hself hb
  | none =>
    have hplain : ∀ w i, c.Belongs w d.key i := fun w i => by
      refine .of_plain w i (fun p hp => ?_) fun hkept => ?_
      · obtain ⟨b, hb', -⟩ := hp
        rw [hb] at hb'
        cases hb'
      · obtain ⟨b, -, hb', -⟩ := hkept
        rw [hb] at hb'
        cases hb'
    cases c.justInTime d with
    | some cls =>
      exact (Discipline.Conduct.construct c.admits_serving hself cls).weaken (fun _ h => h)
        fun s i _ => hplain s.world i
    | none => exact Discipline.Ensures.fail _

/-- So is it resolved in a single step. -/
theorem serving_resolveStep (hself : ∀ d, c.serving.Gives (self d)) (d : Dependency) :
    c.serving.Ensures (fun _ => True) (c.resolveStep self d) fun s i =>
      c.Belongs s.world d.key i := by
  refine (c.admits_serving.log _ rfl).bind fun _ => ?_
  refine Discipline.Ensures.noting (serving_answer hself d)
    (fun i => lasting_serving fun _ _ h hi => hi.onward h) fun r s hs hi => ?_
  refine ⟨hs.emit _, .emit s _, [.resolved d r], s.entered_emit _, fun d' i hmem => ?_⟩
  cases List.mem_singleton.mp hmem
  exact (hi i rfl).onward (.emit s _)

/-- So is it resolved within a depth. -/
theorem serving_resolveWithin (n : Nat) (d : Dependency) :
    c.serving.Ensures (fun _ => True) (c.resolveWithin n d) fun s i =>
      c.Belongs s.world d.key i := by
  induction n generalizing d with
  | zero => exact Discipline.Ensures.stuck
  | succ n ih =>
    exact serving_resolveStep (fun d => (ih d).weaken (fun _ h => h) fun _ _ _ _ _ => trivial) d

/-- Resolving a dependency keeps to serving. -/
theorem serving_resolve (d : Dependency) : c.serving.Gives (c.resolve d) :=
  (serving_resolveWithin _ d).weaken (fun _ h => h) fun _ _ _ _ _ => trivial

/-- What is done with a container finds what belongs to the request that is handled. -/
theorem Operates.belongs (h : c.Operates s s') (hs : s.world.Valid) :
    s'.world.Valid ∧ s.Onward s' ∧ ∃ es, s.Entered s' es ∧
      ∀ d i, .resolved d (.ok i) ∈ es → c.Belongs s'.world d.key i :=
  h.moves c.admits_serving serving_resolve hs

/-- The build of a container does, too. -/
theorem belongs_start {r : Except ConfigurationError Unit} (h : c.start s = some (r, s'))
    (hs : s.world.Valid) :
    s'.world.Valid ∧ s.Onward s' ∧ ∃ es, s.Entered s' es ∧
      ∀ d i, .resolved d (.ok i) ∈ es → c.Belongs s'.world d.key i := by
  have hforce : ∀ b ∈ c.registry.toList, ∀ d, b.source.deferral = some d →
      c.serving.Gives (c.force c.resolve b.key d) := fun b hb d hd =>
    Discipline.Conduct.force c.admits_serving setsReadiness_serving serving_resolve
      (Registry.lookup_of_mem hb) hd (emits_serving (by simp)) (marks_serving (by simp))
  have hstage : Discipline.Conduct.Stages c.serving 3 := fun e hne _ =>
    emits_serving fun d i heq => hne (by rw [heq]; rfl)
  have hstart := Discipline.Conduct.start c.admits_serving hstage serving_resolve hforce
    fun b hb => (serving_resolveBinding serving_resolve (Registry.lookup_of_mem hb)).weaken
      (fun _ h => h) fun _ _ _ _ _ => trivial
  obtain ⟨hs', hstep, -⟩ := hstart s hs trivial _ _ h
  exact ⟨hs', hstep⟩

/-- What a container finds while the request is handled that `e` stands for. -/
structure Finds (c : Container) (e : Exchange) (s : State) : Prop where
  /-- A key that is bound to a part of the request is resolved to it. The session is the only part
  that may have to be created, and nothing else comes to be. -/
  parts : ∀ d p, c.ReadsPart d.key p → ∀ n, ∃ i s',
    c.resolveWithin (n + 1) d s = some (.ok i, s') ∧ i.value = (s.world.part e p).1 ∧
      s'.world.IsPart e p i.value ∧ s'.world.requests = (s.world.part e p).2.requests ∧
      s'.world.sessions = (s.world.part e p).2.sessions
  /-- What is bound in the session scope is kept by the session of the request. -/
  session : ∀ d b n i s', c.registry.lookup d.key = some b → b.scope = .contextual .session →
    c.resolveWithin n d s = some (.ok i, s') → ∃ id,
      (s'.world.request e.request).session = some id ∧
        (s'.world.attributes (.session id)).get? d.key = some i
  /-- Whatever else is done, the same request is handled, and all that is resolved on the way is
  what belongs to it. -/
  onward : ∀ s', c.Operates s s' ∨ (∃ r, c.start s = some (r, s')) →
    s'.world.current = s.world.current ∧ ∃ es, s.Entered s' es ∧
      ∀ d i, .resolved d (.ok i) ∈ es → c.Belongs s'.world d.key i

/-- Whoever looks for a request finds the current one. -/
theorem finds {e : Exchange} (hs : s.world.Valid) (he : s.world.currentExchange? = some e) :
    c.Finds e s where
  parts d p hp n := by
    obtain ⟨i, s', hrun, hvalue, hrequests, hsessions⟩ := resolveWithin_of_readsPart hp he n
    obtain ⟨-, hstep, hbelongs⟩ := serving_resolveWithin (n + 1) d s hs trivial _ _ hrun
    obtain ⟨e', he', hpart⟩ := (hbelongs i rfl).part p hp
    rw [hstep.1.currentExchange?, he] at he'
    cases he'
    exact ⟨i, s', hrun, hvalue, hpart, hrequests, hsessions⟩
  session d b n i s' hb hscope hrun := by
    obtain ⟨-, hstep, hbelongs⟩ := serving_resolveWithin n d s hs trivial _ _ hrun
    have hkept := (hbelongs i rfl).kept ⟨b, .session, hb, hscope, .inr rfl⟩
    obtain ⟨K, hK, hi⟩ := Option.bind_eq_some_iff.mp hkept
    rw [keeper?, keeperFor_session hb hscope] at hK
    obtain ⟨id, hid, rfl⟩ := Option.map_eq_some_iff.mp hK
    rw [World.joined?, World.handled?, hstep.1.currentExchange?, he] at hid
    exact ⟨id, hid, hi⟩
  onward s' h := by
    rcases h with h | ⟨r, h⟩
    · obtain ⟨-, honward, hes⟩ := h.belongs hs
      exact ⟨honward.continues.current, hes⟩
    · obtain ⟨-, honward, hes⟩ := belongs_start h hs
      exact ⟨honward.continues.current, hes⟩

end Container

end Wiring
