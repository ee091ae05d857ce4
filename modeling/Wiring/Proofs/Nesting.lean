import Wiring.Proofs.Precedence
import Wiring.Proofs.Steadiness

/-!
# Requests Within Requests

On a bench requests are handled within each other to any depth, by any steps, and each may end in a
panic. `momentsOfAll` gives all the moments at which a step begins or a list of steps ends, with
the requests that are being handled then. At each of them the innermost request and its response
are what the bench and its containers find, and once a request has been handled everything is as it
was before.

## Conventions

A request that is handled within itself is there twice among those being handled. What a container
finds in the middle of what it does is told by its entries in the journal.

## Main statements

* `Bench.Moment`, `Step.moments`, `momentsOfAll`: the moments of a run.
* `Bench.InOrder`: what is known of the moments between two benches; `InOrder.append`,
  `InOrder.within`: how it carries over.
* `Bench.inOrder_steps`: the moments of every run are in order.
* `Bench.requests_bracketed`: requests within requests.
-/

namespace Wiring

namespace Bench

/-! ### Moments -/

/-- A moment of a run on a bench. -/
structure Moment where
  /-- The requests that are being handled by steps of the run, the innermost first. -/
  calls : List Exchange
  /-- The bench. -/
  bench : Bench

/-- A moment of a run within a request. -/
def Moment.within (e : Exchange) (m : Moment) : Moment := { m with calls := m.calls ++ [e] }

end Bench

mutual

/-- The moments within a step. -/
def Step.moments : Step → Bench → List Bench.Moment
  | .request plan steps _, b =>
    (momentsOfAll steps (plan.start b).2).map (.within (plan.start b).1)
  | _, _ => []

/-- The moments of a run in order: each at which a step begins, and that at which all are taken. -/
def momentsOfAll : List Step → Bench → List Bench.Moment
  | [], b => [⟨[], b⟩]
  | s :: rest, b => ⟨[], b⟩ :: (s.moments b ++ momentsOfAll rest (s.perform b).2)

end

namespace Bench

variable {b b' b'' : Bench} {ms ms' : List Moment}

/-- The moments `ms` on the way from one bench to another are in order. -/
structure InOrder (b b' : Bench) (ms : List Moment) : Prop where
  /-- In the end the same requests are handled. -/
  stays : b.Stays b'
  /-- At each moment the requests are handled that are said to be, within those from before. -/
  current : ∀ m ∈ ms, m.bench.world.current = m.calls ++ b.world.current
  /-- What was there lasts up to each moment. -/
  before : ∀ m ∈ ms, b.Lasts m.bench
  /-- What is there at a moment lasts to the end. -/
  after : ∀ m ∈ ms, m.bench.Lasts b'
  /-- What is there at a moment lasts up to each later one. -/
  between : ms.Pairwise fun m m' => m.bench.Lasts m'.bench

theorem InOrder.none (h : b.Stays b') : InOrder b b' [] := ⟨h, nofun, nofun, nofun, .nil⟩

/-- A moment is in order as it is. -/
theorem InOrder.here (h : b.Valid) : InOrder b b [⟨[], b⟩] where
  stays := .refl h
  current m hm := by rw [List.mem_singleton.mp hm]; rfl
  before m hm := by rw [List.mem_singleton.mp hm]; exact .refl h
  after m hm := by rw [List.mem_singleton.mp hm]; exact .refl h
  between := List.pairwise_singleton _ _

/-- Moments one after another are in order. -/
theorem InOrder.append (h : InOrder b b' ms) (h' : InOrder b' b'' ms') :
    InOrder b b'' (ms ++ ms') where
  stays := h.stays.trans h'.stays
  current m hm := by
    rcases List.mem_append.mp hm with hm | hm
    · exact h.current m hm
    · rw [h'.current m hm, h.stays.current]
  before m hm := by
    rcases List.mem_append.mp hm with hm | hm
    · exact h.before m hm
    · exact h.stays.toLasts.trans (h'.before m hm)
  after m hm := by
    rcases List.mem_append.mp hm with hm | hm
    · exact (h.after m hm).trans h'.stays.toLasts
    · exact h'.after m hm
  between := List.pairwise_append.mpr ⟨h.between, h'.between,
    fun m hm m' hm' => (h.after m hm).trans (h'.before m' hm')⟩

/-- What is done between entering a request and leaving it. -/
theorem InOrder.within {e : Exchange} {b₁ b₂ : Bench} (hfirst : b.Lasts b₁)
    (henter : b₁.world.current = e :: b.world.current) (h : InOrder b₁ b₂ ms)
    (hlast : b₂.Lasts b') (hleave : b'.world.current = b₂.world.current.tail) :
    InOrder b b' (ms.map (.within e)) where
  stays := by
    refine ⟨hfirst.trans (h.stays.toLasts.trans hlast), ?_⟩
    rw [hleave, h.stays.current, henter, List.tail_cons]
  current _ hmem := by
    obtain ⟨m, hm, rfl⟩ := List.mem_map.mp hmem
    rw [Moment.within, h.current m hm, henter, List.append_assoc, List.singleton_append]
  before _ hmem := by
    obtain ⟨m, hm, rfl⟩ := List.mem_map.mp hmem
    exact hfirst.trans (h.before m hm)
  after _ hmem := by
    obtain ⟨m, hm, rfl⟩ := List.mem_map.mp hmem
    exact (h.after m hm).trans hlast
  between := List.pairwise_map.mpr h.between

/-- A step that handles a request: it is entered, the steps are taken, and it is left, whether they
end in a panic or not. -/
theorem perform_request (plan : RequestPlan) (steps : List Step) (panics : Bool) (b : Bench) :
    ∃ a, ((Step.request plan steps panics).perform b).2 =
      (Answer.report a (Bench.change World.leave (performAll steps (plan.start b).2).2).2).2 := by
  refine ⟨.request (performAll steps (plan.start b).2).1 panics
    (performAll steps (plan.start b).2).2.world.leave.currentExchange?.isSome, ?_⟩
  unfold Step.perform RequestPlan.start
  cases plan.storedAs <;> rfl

mutual

/-- The moments of a step are in order. -/
theorem inOrder_step (s : Step) {b : Bench} (hb : b.Valid) :
    InOrder b (s.perform b).2 (s.moments b) := by
  have hsteady : ∀ {x : Trial Report}, Steady x → ∀ b : Bench, b.Valid → b.Stays (x b).2 :=
    fun hx b hb => (hx b hb trivial).1
  have hleft : ∀ {b : Bench}, b.Valid → b.Lasts (Bench.change World.leave b).2 := fun hb =>
    .of_world hb (World.lasts_leave hb.world) rfl rfl
  match s with
  | .request plan steps panics =>
    obtain ⟨hfirst, henter⟩ := lasts_start hb plan
    have hsteps := inOrder_steps steps hfirst.valid
    obtain ⟨a, hperform⟩ := perform_request plan steps panics b
    rw [hperform]
    have hsteady := (steady_report a _ (hleft hsteps.stays.valid).valid trivial).1
    exact .within hfirst henter hsteps ((hleft hsteps.stays.valid).trans hsteady.toLasts)
      hsteady.current
  | .build name plan => exact .none (hsteady ((steady_build name plan).bind steady_report) b hb)
  | .ask name q => exact .none (hsteady ((steady_query name q).bind steady_report) b hb)
  | .setContext name isOpen =>
    refine .none (hsteady (Steady.bind (.change fun w hw => ?_) fun _ => steady_report _) b hb)
    exact ⟨.of_same (hw.congr rfl rfl rfl) rfl (Nat.le_refl _), rfl⟩
  | .current =>
    refine .none (hsteady (Steady.get.bind fun a => ?_) b hb)
    split
    · exact steady_report _
    · exact (steady_caption _).bind fun _ => (steady_caption _).bind fun _ => steady_report _
  | .inRequest q =>
    refine .none (hsteady (Steady.get.bind fun a => ?_) b hb)
    split
    · exact steady_report _
    · exact (steady_requestQuery _ q).bind steady_report
  | .sessionAttribute name key use =>
    refine .none (hsteady ((ensures_sessionCalled name).steady.bind fun id => ?_) b hb)
    exact (steady_attributeUse _ key use).bind fun i => (steady_captionOf? i).bind fun _ =>
      Steady.get.bind fun _ => steady_report _

/-- So are those of steps one after another. -/
theorem inOrder_steps (steps : List Step) {b : Bench} (hb : b.Valid) :
    InOrder b (performAll steps b).2 (momentsOfAll steps b) := by
  match steps with
  | [] => exact .here hb
  | s :: rest =>
    have hstep := inOrder_step s hb
    have hrest := inOrder_steps rest hstep.stays.valid
    exact InOrder.append (.here hb) (hstep.append hrest)

end

/-- A new bench is valid. -/
theorem valid_new (classes : ClassTable) (threshold : Option Severity) :
    (Bench.new classes threshold).Valid where
  world := ⟨nofun, nofun⟩
  exchanges := nofun
  sessions := nofun

/-! ### Requests within requests -/

/-- The module for web applications binds each part of the request. -/
theorem readsPart_webModule (b : Builder) (w : World) (classes : ClassTable) (p : RequestPart) :
    ((b.install webModule w).1.container classes).ReadsPart p.key p := by
  refine ⟨⟨p.key, .provider (.current p), .unscoped, false⟩, ?_, rfl, rfl⟩
  let reading (p : RequestPart) : Binding := ⟨p.key, .provider (.current p), .unscoped, false⟩
  have hdefinitions : (b.install webModule w).1.draft.definitions =
      b.draft.definitions ++ [reading .request] ++ [reading .response] ++ [reading .session] ++
        [reading .parameters] := rfl
  change (Registry.ofDefinitions _).lookup p.key = _
  rw [Registry.lookup_ofDefinitions, hdefinitions]
  simp only [lastDefinition_concat]
  cases p <;> rfl

/-- What is to be said of requests within requests, while steps are taken on a new bench. -/
structure Bracketed (classes : ClassTable) (threshold : Option Severity) (steps : List Step) :
    Prop where
  /-- At every moment the requests are handled, each with its response, that are said to be. -/
  current : ∀ m ∈ momentsOfAll steps (.new classes threshold), m.bench.world.current = m.calls
  /-- Whatever step is taken at a moment, the same requests are handled afterwards. -/
  restored : ∀ m ∈ momentsOfAll steps (.new classes threshold), ∀ s : Step,
    (s.perform m.bench).2.world.current = m.bench.world.current
  /-- When all steps are taken, no request is handled. -/
  ends : (performAll steps (.new classes threshold)).2.world.current = []
  /-- From one moment to a later one, requests stay in their sessions and keep their parameters. -/
  lasts : (momentsOfAll steps (.new classes threshold)).Pairwise fun m m' =>
    m.bench.world.Lasts m'.bench.world
  /-- The module for web applications binds the parts of the request. -/
  module : ∀ (b : Builder) (w : World) (p : RequestPart),
    ((b.install webModule w).1.container classes).ReadsPart p.key p
  /-- Each container finds what belongs to the innermost request. -/
  finds : ∀ m ∈ momentsOfAll steps (.new classes threshold), ∀ e, m.calls.head? = some e →
    ∀ (c : Container) (memory : Memory), c.Finds e ⟨memory, m.bench.world⟩
  /-- The request itself gives the session that its part is, which is the one it stays in. -/
  asked : ∀ m ∈ momentsOfAll steps (.new classes threshold), ∀ e, m.calls.head? = some e →
    (RequestQuery.session.perform e m.bench).2.world = (m.bench.world.part e .session).2 ∧
      (RequestQuery.session.perform e m.bench).1 = .text (some (caption
        (m.bench.world.part e .session).1
        { m.bench with world := (m.bench.world.part e .session).2 }).1) ∧
      (m.bench.world.part e .session).2.IsPart e .session (m.bench.world.part e .session).1
  /-- No session is created for a request that belongs to one. -/
  once : ∀ m ∈ momentsOfAll steps (.new classes threshold), ∀ e id,
    (m.bench.world.request e.request).session = some id →
      m.bench.world.part e .session = (.session id, m.bench.world)
  /-- A new request belongs to the session that was meant, if one was. -/
  attached : ∀ m ∈ momentsOfAll steps (.new classes threshold), ∀ (plan : RequestPlan) name,
    plan.session = some name → ∃ id,
      (plan.newExchange m.bench).2.sessions.get? name = some id ∧
        ((plan.newExchange m.bench).2.world.request (plan.newExchange m.bench).1.request).session =
          some id

/-- **Requests within requests.** Whatever steps are taken on a new bench, at every moment the
requests are handled whose steps are being taken, the innermost first, and none afterwards. Each
container finds the parts of the innermost of them. There is one session of a request, whichever
way it is asked for, and it is created at most once. -/
theorem requests_bracketed (classes : ClassTable) (threshold : Option Severity)
    (steps : List Step) : Bracketed classes threshold steps := by
  have horder := inOrder_steps steps (valid_new classes threshold)
  have hcurrent : ∀ m ∈ momentsOfAll steps (.new classes threshold),
      m.bench.world.current = m.calls := fun m hm => by
    rw [horder.current m hm]
    exact List.append_nil _
  have hvalid : ∀ m ∈ momentsOfAll steps (.new classes threshold), m.bench.Valid :=
    fun m hm => (horder.before m hm).valid
  have hinnermost : ∀ m ∈ momentsOfAll steps (.new classes threshold), ∀ e,
      m.calls.head? = some e → m.bench.world.currentExchange? = some e := fun m hm e he => by
    rw [World.currentExchange?, hcurrent m hm, he]
  exact
    { current := hcurrent
      restored := fun m hm s => (inOrder_step s (hvalid m hm)).stays.current
      ends := horder.stays.current
      lasts := horder.between.imp Lasts.world
      module := fun b w p => readsPart_webModule b w classes p
      finds := fun m hm e he c memory =>
        Container.finds (hvalid m hm).world (hinnermost m hm e he)
      asked := fun m hm e he => by
        have hlt := (hvalid m hm).world.current e (List.mem_of_mem_head? (hinnermost m hm e he))
        exact ⟨rfl, rfl, World.isPart_part hlt .session⟩
      once := fun m _ e id hid => by rw [World.part, World.sessionOf_of_some hid]
      attached := fun m hm plan name hname =>
        (ensures_newExchange plan m.bench (hvalid m hm) trivial).2.2 name hname }

/-- An inn at whose door a guest knocks, who is let in by handling another request. That one ends in
a panic. -/
def knocking : List Step :=
  [.request ⟨"GET", "/door", [], none, none, none, .own⟩
    [.inRequest .session, .request ⟨"GET", "/room", [], none, none, none, .own⟩ [.current] true,
      .current] false]

/-- While the room is open it is what containers find, and afterwards they find the door again. -/
theorem knocking_finds_room : ∃ inner ∈ momentsOfAll knocking (.new ∅ none),
    ∃ outer ∈ momentsOfAll knocking (.new ∅ none),
      inner.bench.world.current = [⟨1, 1⟩, ⟨0, 0⟩] ∧ outer.bench.world.current = [⟨0, 0⟩] ∧
      (∀ c memory, Container.Finds c ⟨1, 1⟩ ⟨memory, inner.bench.world⟩) ∧
      (∀ c memory, Container.Finds c ⟨0, 0⟩ ⟨memory, outer.bench.world⟩) ∧
      inner.bench.world.Lasts outer.bench.world := by
  have hbracketed := requests_bracketed ∅ none knocking
  have hcalls : (momentsOfAll knocking (.new ∅ none)).map Moment.calls =
      [[], [⟨0, 0⟩], [⟨0, 0⟩], [⟨1, 1⟩, ⟨0, 0⟩], [⟨1, 1⟩, ⟨0, 0⟩], [⟨0, 0⟩], [⟨0, 0⟩], []] := by
    decide +kernel
  have hlength : (momentsOfAll knocking (.new ∅ none)).length = 8 := by
    simpa using congrArg List.length hcalls
  have hmem : ∀ n (hn : n < (momentsOfAll knocking (.new ∅ none)).length),
      (momentsOfAll knocking (.new ∅ none))[n] ∈ momentsOfAll knocking (.new ∅ none) :=
    fun n hn => List.getElem_mem hn
  have hinner : (momentsOfAll knocking (.new ∅ none))[3].calls = [⟨1, 1⟩, ⟨0, 0⟩] :=
    (List.getElem_map Moment.calls).symm.trans (List.getElem_of_eq hcalls (by simp [hlength]))
  have houter : (momentsOfAll knocking (.new ∅ none))[5].calls = [⟨0, 0⟩] :=
    (List.getElem_map Moment.calls).symm.trans (List.getElem_of_eq hcalls (by simp [hlength]))
  refine ⟨_, hmem 3 (by omega), _, hmem 5 (by omega), ?_, ?_, ?_, ?_, ?_⟩
  · rw [hbracketed.current _ (hmem 3 (by omega)), hinner]
  · rw [hbracketed.current _ (hmem 5 (by omega)), houter]
  · exact hbracketed.finds _ (hmem 3 (by omega)) _ (by rw [hinner]; rfl)
  · exact hbracketed.finds _ (hmem 5 (by omega)) _ (by rw [houter]; rfl)
  · exact List.pairwise_iff_getElem.mp hbracketed.lasts 3 5 (by omega) (by omega) (by decide)

/-- A request may be handled within itself with another response, and that response with a request
of its own. -/
example : (momentsOfAll
    [.request ⟨"GET", "/", [], none, some "first", none, .own⟩
      [.request ⟨"GET", "/", [], none, some "again", some "first", .another⟩
        [.request ⟨"GET", "/", [], none, none, none, .storedWith "again"⟩ [] false] false] false]
    (.new ∅ none)).map Moment.calls =
      [[], [⟨0, 0⟩], [⟨0, 1⟩, ⟨0, 0⟩], [⟨1, 1⟩, ⟨0, 1⟩, ⟨0, 0⟩], [⟨0, 1⟩, ⟨0, 0⟩], [⟨0, 0⟩],
        []] := by
  decide +kernel

end Bench

end Wiring
