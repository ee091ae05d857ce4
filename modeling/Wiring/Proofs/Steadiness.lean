import Wiring.Bench.Perform
import Wiring.Proofs.Serving
import Wiring.Proofs.Sites

/-!
# What Lasts on a Bench

Whatever is done on a bench, requests and sessions stay there, requests keep their parameters and
stay in their sessions. And except for requests being entered and left, the same requests are
handled afterwards. This is shown for each thing that can be done on a bench: for showing values,
for using and building containers, for asking the current request and for making a new one.

## Conventions

Attributes of requests and sessions are left out of account. They may be set at any time.

## Main statements

* `World.Lasts`, `World.Stays`: what lasts in a world.
* `Bench.Ensures`, `Bench.Steady`: trials that leave the requests alone that are being handled.
* `Bench.steady_query`, `Bench.steady_build`: using and building containers.
* `Bench.steady_requestQuery`: asking a request.
* `Bench.lasts_start`: entering a request.
-/

namespace Wiring

/-! ### What lasts on a bench -/

/-- What lasts in a world: requests and sessions are there, requests keep their parameters and stay
in their sessions. -/
structure World.Lasts (w w' : World) : Prop where
  /-- The world is valid. -/
  valid : w'.Valid
  /-- No request goes. -/
  requests : w.requests.size ≤ w'.requests.size
  /-- No session goes. -/
  sessions : w.sessions.size ≤ w'.sessions.size
  /-- A request stays in its session. -/
  stays : ∀ r id, (w.request r).session = some id → (w'.request r).session = some id
  /-- Parameters stay the same. -/
  parameters : ∀ r < w.requests.size, (w'.request r).parameters = (w.request r).parameters

namespace World

variable {w w' w'' : World} {r id : Nat}

/-- A valid world lasts as it is. -/
theorem Lasts.refl (h : w.Valid) : w.Lasts w :=
  ⟨h, Nat.le_refl _, Nat.le_refl _, fun _ _ hid => hid, fun _ _ => rfl⟩

theorem Lasts.trans (h : w.Lasts w') (h' : w'.Lasts w'') : w.Lasts w'' where
  valid := h'.valid
  requests := Nat.le_trans h.requests h'.requests
  sessions := Nat.le_trans h.sessions h'.sessions
  stays r id hid := h'.stays r id (h.stays r id hid)
  parameters r hr :=
    (h'.parameters r (Nat.lt_of_lt_of_le hr h.requests)).trans (h.parameters r hr)

/-- Nothing but requests, their sessions and the requests being handled matters. -/
theorem Lasts.of_same (h : w'.Valid) (hrequests : w'.requests = w.requests)
    (hsessions : w.sessions.size ≤ w'.sessions.size) : w.Lasts w' := by
  have hsame : ∀ r, w'.request r = w.request r := fun r => by rw [request, request, hrequests]
  exact ⟨h, Nat.le_of_eq (by rw [hrequests]), hsessions, fun r id hid => by rwa [hsame],
    fun r _ => by rw [hsame]⟩

/-- Entries in the journal change nothing. -/
theorem lasts_emit (h : w.Valid) (e : Event) : w.Lasts (w.emit e) :=
  .of_same (h.emit e) rfl (Nat.le_refl _)

/-- A request that is there may be entered. -/
theorem lasts_enter (h : w.Valid) {e : Exchange} (he : e.request < w.requests.size) :
    w.Lasts (w.enter e) := .of_same (elapses_enter h he).valid rfl (Nat.le_refl _)

/-- The current request may be left. -/
theorem lasts_leave (h : w.Valid) : w.Lasts w.leave :=
  .of_same (elapses_leave h).valid rfl (Nat.le_refl _)

/-- A request may be added. -/
theorem lasts_addRequest (h : w.Valid) {q : Request}
    (hq : ∀ id, q.session = some id → id < w.sessions.size) : w.Lasts (w.addRequest q).2 where
  valid := h.addRequest hq
  requests := by simp [addRequest]
  sessions := Nat.le_refl _
  stays r id hid := by
    rw [request_addRequest]
    split
    · next heq =>
      simp [heq, request, default] at hid
      cases hid
    · exact hid
  parameters r hr := by rw [request_addRequest, if_neg (Nat.ne_of_lt hr)]

end World

/-- A world in which, besides, the same requests are handled. -/
structure World.Stays (w w' : World) : Prop extends World.Lasts w w' where
  /-- The same requests are handled. -/
  current : w'.current = w.current

namespace World

variable {w w' w'' : World}

theorem Stays.refl (h : w.Valid) : w.Stays w := ⟨.refl h, rfl⟩

theorem Stays.trans (h : w.Stays w') (h' : w'.Stays w'') : w.Stays w'' :=
  ⟨h.toLasts.trans h'.toLasts, h'.current.trans h.current⟩

theorem stays_emit (h : w.Valid) (e : Event) : w.Stays (w.emit e) := ⟨lasts_emit h e, rfl⟩

/-- Notices change nothing about requests. -/
theorem stays_log (h : w.Valid) (notices : List Notice) :
    w.Stays (notices.foldl World.log w) := by
  induction notices generalizing w with
  | nil => exact .refl h
  | cons n notices ih =>
    have hlog : w.Stays (w.log n) := stays_emit h (.logged n)
    exact hlog.trans (ih hlog.valid)

/-- Neither do attributes. -/
theorem stays_setAttribute (h : w.Valid) (K : Keeper) (key : Key) (i : Instance) :
    w.Stays (w.setAttribute K key i) where
  valid := h.setAttribute
  requests := by
    cases K <;> simp [setAttribute, modifyAttributes, modifyRequest, modifySession]
  sessions := by
    cases K <;> simp [setAttribute, modifyAttributes, modifyRequest, modifySession]
  stays r id hid := by rwa [session_setAttribute]
  parameters r _ := parameters_setAttribute r
  current := current_setAttribute

end World

/-- What goes on in a container leaves requests alone. -/
theorem State.Onward.stays {s s' : State} (h : s.Onward s') (hs' : s'.world.Valid) :
    s.world.Stays s'.world :=
  ⟨⟨hs', h.requests, h.continues.size, h.continues.stays, fun r _ => h.parameters r⟩,
    h.continues.current⟩

namespace Container.Changes

variable {c : Container} {s s' : State}

/-- What a container changes goes on. -/
theorem onward (h : c.Changes s s') : s.Onward s' := by
  induction h with
  | refl => exact .refl s
  | tail _ heffect ih => exact ih.trans heffect.onward

/-- What a container changes leaves requests alone. -/
theorem stays (h : c.Changes s s') (hs : s.world.Valid) : s.world.Stays s'.world :=
  h.onward.stays (h.valid hs)

end Container.Changes

namespace Bench

/-- The requests and sessions that have names are there. -/
structure Valid (b : Bench) : Prop where
  /-- The world is valid. -/
  world : b.world.Valid
  /-- Requests. -/
  exchanges : ∀ name e, b.exchanges.get? name = some e → e.request < b.world.requests.size
  /-- Sessions. -/
  sessions : ∀ name id, b.sessions.get? name = some id → id < b.world.sessions.size

/-- What lasts on a bench. -/
structure Lasts (b b' : Bench) : Prop where
  /-- The bench is valid. -/
  valid : b'.Valid
  /-- What lasts in its world. -/
  world : b.world.Lasts b'.world

variable {b b' b'' : Bench} {α β : Type}

theorem Lasts.refl (h : b.Valid) : b.Lasts b := ⟨h, .refl h.world⟩

theorem Lasts.trans (h : b.Lasts b') (h' : b'.Lasts b'') : b.Lasts b'' :=
  ⟨h'.valid, h.world.trans h'.world⟩

/-- What lasts in the world lasts on the bench, as long as names stay what they are. -/
theorem Lasts.of_world (h : b.Valid) (hworld : b.world.Lasts b'.world)
    (hexchanges : b'.exchanges = b.exchanges) (hsessions : b'.sessions = b.sessions) :
    b.Lasts b' where
  valid :=
    { world := hworld.valid
      exchanges := fun name e he =>
        Nat.lt_of_lt_of_le (h.exchanges name e (hexchanges ▸ he)) hworld.requests
      sessions := fun name id hid =>
        Nat.lt_of_lt_of_le (h.sessions name id (hsessions ▸ hid)) hworld.sessions }
  world := hworld

/-- A bench on which, besides, the same requests are handled. -/
structure Stays (b b' : Bench) : Prop extends Lasts b b' where
  /-- The same requests are handled. -/
  current : b'.world.current = b.world.current

theorem Stays.refl (h : b.Valid) : b.Stays b := ⟨.refl h, rfl⟩

theorem Stays.trans (h : b.Stays b') (h' : b'.Stays b'') : b.Stays b'' :=
  ⟨h.toLasts.trans h'.toLasts, h'.current.trans h.current⟩

/-- A bench stays if its world and its tables do. -/
theorem Stays.of_world (h : b.Valid) (hworld : b.world.Stays b'.world)
    (hexchanges : b'.exchanges = b.exchanges) (hsessions : b'.sessions = b.sessions) :
    b.Stays b' := ⟨.of_world h hworld.toLasts hexchanges hsessions, hworld.current⟩

/-- A trial leaves the requests alone that are being handled, and `V` holds of what it comes to,
where `P` holds before. -/
def Ensures (P : Bench → Prop) (x : Trial α) (V : Bench → α → Prop) : Prop :=
  ∀ b, b.Valid → P b → b.Stays (x b).2 ∧ V (x b).2 (x b).1

/-- A trial leaves the requests alone that are being handled. -/
def Steady (x : Trial α) : Prop := Ensures (fun _ => True) x fun _ _ => True

namespace Ensures

variable {P Q : Bench → Prop} {V : Bench → α → Prop} {W : Bench → β → Prop}

/-- Less may be asked for, and more assumed. -/
theorem weaken {P' : Bench → Prop} {V' : Bench → α → Prop} {x : Trial α} (h : Ensures P x V)
    (hP : ∀ b, P' b → P b) (hV : ∀ b a, V b a → V' b a) : Ensures P' x V' := fun b hb hp =>
  ⟨(h b hb (hP b hp)).1, hV _ _ (h b hb (hP b hp)).2⟩

/-- A trial that ensures anything is steady. -/
theorem steady {x : Trial α} (h : Ensures (fun _ => True) x V) : Steady x :=
  h.weaken (fun _ h => h) fun _ _ _ => trivial

theorem pure {a : α} (h : ∀ b, P b → V b a) : Ensures P (Pure.pure a : Trial α) V :=
  fun b hb hp => ⟨.refl hb, h b hp⟩

theorem get : Ensures P (MonadState.get : Trial Bench) fun b a => b = a :=
  fun _ hb _ => ⟨.refl hb, rfl⟩

theorem bind {x : Trial α} {f : α → Trial β} (hx : Ensures P x V)
    (hf : ∀ a, Ensures (V · a) (f a) W) : Ensures P (x >>= f) W := by
  intro b hb hp
  obtain ⟨hstays, hv⟩ := hx b hb hp
  obtain ⟨hstays', hw⟩ := hf (x b).1 (x b).2 hstays.valid hv
  exact ⟨hstays.trans hstays', hw⟩

end Ensures

namespace Steady

theorem pure (a : α) : Steady (Pure.pure a : Trial α) := Ensures.pure fun _ _ => trivial

theorem bind {x : Trial α} {f : α → Trial β} (hx : Steady x) (hf : ∀ a, Steady (f a)) :
    Steady (x >>= f) := Ensures.bind hx hf

/-- A trial that leaves requests alone is steady. -/
theorem of_stays {x : Trial α} (h : ∀ b : Bench, b.Valid → b.Stays (x b).2) : Steady x :=
  fun b hb _ => ⟨h b hb, trivial⟩

theorem get : Steady (MonadState.get : Trial Bench) := of_stays fun _ => .refl

/-- What leaves the world and the names alone. -/
theorem of_same {x : Trial α} (hworld : ∀ b, (x b).2.world = b.world)
    (hexchanges : ∀ b, (x b).2.exchanges = b.exchanges)
    (hsessions : ∀ b, (x b).2.sessions = b.sessions) : Steady x :=
  of_stays fun b hb =>
    .of_world hb (by rw [hworld b]; exact .refl hb.world) (hexchanges b) (hsessions b)

/-- What is done to the world is steady if it leaves requests alone. -/
theorem act {f : World → α × World} (h : ∀ w : World, w.Valid → w.Stays (f w).2) :
    Steady (Bench.act f) := of_stays fun b hb => .of_world hb (h b.world hb.world) rfl rfl

/-- The same for changes of the world. -/
theorem change {f : World → World} (h : ∀ w : World, w.Valid → w.Stays (f w)) :
    Steady (Bench.change f) := of_stays fun b hb => .of_world hb (h b.world hb.world) rfl rfl

/-- What is put together from effects leaves the requests alone that are being handled. -/
theorem act_of_changes {f : World → α × World}
    (h : ∀ (c : Container) (s : State), c.Changes s (s.inWorld (f s.world).2)) :
    Steady (Bench.act f) :=
  act fun w hw => (h ⟨.standard, .empty, [], ∅⟩ ⟨.empty, w⟩).stays hw

end Steady

/-! ### Showing values -/

/-- Looking for the caption of a value is steady. -/
theorem steady_caption (v : Value) : Steady (caption v) :=
  .of_same (fun _ => rfl) (fun _ => rfl) fun _ => rfl

/-- Exhibiting a value is steady. -/
theorem steady_exhibit (v : Value) : Steady (exhibit v) := by
  refine (steady_caption v).bind fun text => ?_
  cases v with
  | object cls id => exact Steady.get.bind fun _ => .pure _
  | _ => exact .pure _

/-- Showing an instance is steady. -/
theorem steady_showInstance (i : Instance) : Steady (showInstance i) :=
  (steady_exhibit i.value).bind fun _ => .pure _

/-- Showing an instance that may be missing is steady. -/
theorem steady_captionOf? (i : Option Instance) : Steady (captionOf? i) := by
  cases i with
  | none => exact .pure _
  | some i => exact (steady_caption i.value).bind fun _ => .pure _

/-- Reporting an answer is steady. -/
theorem steady_report (a : Answer) : Steady a.report :=
  Steady.bind (.of_same (fun _ => rfl) (fun _ => rfl) fun _ => rfl) fun _ => .pure _

/-! ### Using containers -/

/-- What a container does leaves the requests alone that are being handled. -/
def Handles (x : Container → Run α) : Prop :=
  ∀ (c : Container) (s : State) (r : Except ConfigurationError α) (s' : State),
    s.world.Valid → x c s = some (r, s') → s'.world.Valid ∧ s.Onward s'

/-- Runs of containers leave requests alone. -/
theorem handles_of_operates {x : Container → Run α}
    (h : ∀ c s r s', x c s = some (r, s') → Container.Operates c s s') : Handles x := by
  intro c s r s' hs hx
  obtain ⟨hs', honward, -⟩ := (h c s r s' hx).belongs hs
  exact ⟨hs', honward⟩

/-- Working in a container is steady. -/
theorem steady_inContainer (name : String) {x : Container → Run α} (hx : Handles x) :
    Steady (inContainer name x) := by
  refine .of_stays fun b hb => ?_
  unfold inContainer
  cases b.containers.get? name with
  | none => exact .refl hb
  | some r =>
    dsimp only
    cases hrun : r.run b.world x with
    | none => exact .refl hb
    | some p =>
      obtain ⟨⟨result, s⟩, hs, heq⟩ := Option.map_eq_some_iff.mp hrun
      cases heq
      obtain ⟨hvalid, honward⟩ := hx _ _ _ _ hb.world hs
      exact .of_world hb (honward.stays hvalid) rfl rfl

/-- Answering by a run is steady. -/
theorem steady_answerBy (name : String) {x : Container → Run α} {f : α → Trial Answer}
    (hx : Handles x) (hf : ∀ a, Steady (f a)) : Steady (answerBy name x f) := by
  refine (steady_inContainer name hx).bind fun result => ?_
  match result with
  | .error _ => exact .pure _
  | .ok (.error _) => exact .pure _
  | .ok (.ok a) => exact hf a

/-- Answering from what a container is like is steady. -/
theorem steady_answerOf (name : String) (f : RunningContainer → Answer) :
    Steady (answerOf name f) := by
  refine .of_stays fun b hb => ?_
  unfold answerOf
  cases b.containers.get? name <;> exact .refl hb

/-- Asking again and again is steady. -/
theorem steady_repeated (name : String) {x : Container → Run Instance} (hx : Handles x)
    (times : Nat) : Steady (repeated name x times) := by
  induction times with
  | zero => exact .pure _
  | succ times ih =>
    refine (steady_inContainer name hx).bind fun result => ?_
    cases result with
    | error failure => exact .pure _
    | ok result =>
      cases result with
      | error e => exact ih.bind fun _ => .pure _
      | ok i => exact (steady_exhibit i.value).bind fun _ => ih.bind fun _ => .pure _

/-- Asking for an instance as one of a type is a run of the container. -/
theorem handles_getAs (ty : Ty) (d : Dependency) : Handles (·.getAs ty d) :=
  handles_of_operates fun _ _ _ _ => .get

/-- Queries are steady. -/
theorem steady_query (name : String) (q : Query) : Steady (q.perform name) := by
  cases q with
  | instanceOf | instanceFor | instanceNamed | instanceUnder =>
    exact steady_answerBy name (handles_getAs _ _) steady_showInstance
  | resolve d =>
    exact steady_answerBy name (handles_of_operates fun _ _ _ _ => .resolve) fun i =>
      (steady_caption i.value).bind fun _ => .pure _
  | inject cls declaredBy =>
    refine Steady.get.bind fun b => ?_
    split
    · exact .pure _
    · refine Steady.bind (.act_of_changes fun c s => c.changes_makeObject s cls) fun id => ?_
      have hinject : Handles (·.injectMembers declaredBy cls id) :=
        handles_of_operates fun _ _ _ _ => .inject
      refine (steady_inContainer name hinject).bind fun result => ?_
      cases result with
      | error failure => exact .pure _
      | ok result => exact (steady_exhibit _).bind fun _ => .pure _
  | canResolve d =>
    exact steady_answerBy name (handles_of_operates fun _ _ _ _ => .ask) fun _ => .pure _
  | hasBinding | stats | config | registry | detail => exact steady_answerOf name _
  | handle ty d times =>
    refine Steady.get.bind fun b => ?_
    split
    · exact .pure _
    · refine (steady_repeated name (handles_getAs ty d) times).bind fun results => ?_
      cases results <;> exact .pure _

/-! ### Building containers -/

/-- Installing modules leaves requests alone. -/
theorem stays_install {w : World} (h : w.Valid) (b : Builder) (ss : List Statement) :
    w.Stays (b.install ss w).2 :=
  (Site.changes_configureAll ⟨.standard, .empty, [], ∅⟩ .empty ss b.draft w).stays h

/-- Modules are installed, and the container is built. -/
theorem stays_build {w w' : World} (h : w.Valid) {b : Builder} {ss : List Statement}
    {classes : ClassTable} {r : Except ConfigurationError RunningContainer}
    (hbuild : (b.install ss w).1.build classes (b.install ss w).2 = some (r, w')) :
    w.Stays w' := by
  have hinstalled := stays_install h b ss
  obtain ⟨r', s, hstart, -, rfl⟩ := Builder.build_eq_some_iff.mp hbuild
  have hlog := World.stays_log hinstalled.valid
    (Registry.announced (b.install ss w).1.draft.definitions).2
  obtain ⟨hvalid, honward, -⟩ := Container.belongs_start hstart hlog.valid
  exact hinstalled.trans (hlog.trans (honward.stays hvalid))

/-- So does reading a file of settings. -/
theorem stays_readFile {w : World} (h : w.Valid) (l : Launch) (f : SettingsFile) :
    w.Stays (l.readFile f w).2 := by
  unfold Launch.readFile
  split
  · exact .refl h
  · exact World.stays_emit h _

/-- So does reading the environment. -/
theorem stays_readEnvironment {w : World} (h : w.Valid) (l : Launch)
    (environment : List (String × String)) : w.Stays (l.readEnvironment environment w).2 := by
  unfold Launch.readEnvironment
  dsimp only
  split <;> exact World.stays_log h _

/-- So does preparing a builder. -/
theorem stays_prepare {w : World} (h : w.Valid) (config : ContainerConfig)
    (file : Option SettingsFile) (environment : Option (List (String × String)))
    (logging : LoggingChoice) (modules : List (List Statement)) :
    w.Stays (BuildPlan.prepare config file environment logging modules w).2 := by
  have hend : ∀ u, w.Stays u → ∀ e, w.Stays (u.emit e) :=
    fun u hu e => hu.trans (World.stays_emit hu.valid e)
  let l : Launch := .ofSettings { BootstrapSettings.standard with container := config }
  unfold BuildPlan.prepare
  dsimp only
  cases file with
  | none =>
    cases environment with
    | none => exact hend _ (.refl h) _
    | some environment =>
      have hread := stays_readEnvironment h l environment
      dsimp only
      split
      · exact hread
      · exact hend _ hread _
  | some f =>
    have hloaded := stays_readFile h l f
    dsimp only
    rcases hf : Launch.readFile _ f w with ⟨e | l', u⟩
    · rw [hf] at hloaded
      exact hloaded
    · rw [hf] at hloaded
      cases environment with
      | none => exact hend _ hloaded _
      | some environment =>
        have hread := hloaded.trans (stays_readEnvironment hloaded.valid l' environment)
        dsimp only
        split
        · exact hread
        · exact hend _ hread _

/-- Whatever the plan, a build leaves the requests alone that are being handled. -/
theorem stays_plan {w w' : World} (h : w.Valid) (classes : ClassTable) (plan : BuildPlan)
    {r : Except Failure RunningContainer} (hrun : plan.run classes w = some (r, w')) :
    w.Stays w' := by
  cases plan with
  | builder config modules statics =>
    obtain ⟨⟨r, u⟩, hbuild, heq⟩ := Option.map_eq_some_iff.mp hrun
    cases heq
    rw [Builder.installAll_eq, Builder.requestStatics_eq, Builder.install_install] at hbuild
    exact stays_build h hbuild
  | create modules =>
    obtain ⟨⟨r, u⟩, hbuild, heq⟩ := Option.map_eq_some_iff.mp hrun
    cases heq
    exact stays_build h hbuild
  | launch config file environment logging modules =>
    have hprepared := stays_prepare h config file environment logging modules
    rw [BuildPlan.run] at hrun
    rcases hp : BuildPlan.prepare config file environment logging modules w with ⟨e | l, u⟩
    · rw [hp] at hrun hprepared
      cases hrun
      exact hprepared
    · rw [hp] at hrun hprepared
      obtain ⟨⟨r, u'⟩, hlaunch, heq⟩ := Option.map_eq_some_iff.mp hrun
      cases heq
      have hlog := World.stays_log hprepared.valid (l.notices (some LogFilter.takenReason))
      obtain ⟨⟨r', v⟩, hbuild, heq⟩ := Option.map_eq_some_iff.mp hlaunch
      rw [Builder.installAll_eq] at hbuild
      have hbuilt := stays_build hlog.valid hbuild
      have hall := hprepared.trans (hlog.trans hbuilt)
      cases r' with
      | error e =>
        cases heq
        exact hall
      | ok r' =>
        cases heq
        exact hall.trans (World.stays_emit hbuilt.valid _)

/-- Building a container is steady. -/
theorem steady_build (name : String) (plan : BuildPlan) : Steady (plan.perform name) := by
  refine .of_stays fun b hb => ?_
  unfold BuildPlan.perform
  dsimp only
  cases hrun : plan.run b.classes b.world with
  | none => exact .of_world hb (.refl hb.world) rfl rfl
  | some p =>
    obtain ⟨r, w⟩ := p
    have hstays := stays_plan hb.world b.classes plan hrun
    cases r <;> exact .of_world hb hstays rfl rfl

/-! ### Requests and sessions -/

/-- Using attributes is steady. -/
theorem steady_attributeUse (keeper : World.Keeper) (key : Key) (use : AttributeUse) :
    Steady (use.perform keeper key) := by
  have hmake : ∀ m : Making, Steady (Bench.act (·.makeBy m)) := fun m =>
    .act_of_changes fun c s => c.changes_makeInstance s m.ty m.label
  cases use with
  | read => exact Steady.get.bind fun _ => .pure _
  | set m =>
    refine (hmake m).bind fun i => Steady.bind (.change fun w hw => ?_) fun _ => .pure _
    exact World.stays_setAttribute hw keeper key i
  | setIfAbsent m =>
    refine (hmake m).bind fun i => Steady.bind (.act fun w hw => ?_) fun _ => .pure _
    cases hkept : (w.attributes keeper).get? key with
    | some kept =>
      rw [World.attributeOrInsert_of_some hkept]
      exact .refl hw
    | none =>
      rw [World.attributeOrInsert_of_none hkept]
      exact World.stays_setAttribute hw keeper key i

/-- Asking the current request is steady. -/
theorem steady_requestQuery (e : Exchange) (q : RequestQuery) : Steady (q.perform e) := by
  cases q with
  | parameter name => exact Steady.get.bind fun _ => .pure _
  | parameters => exact Steady.get.bind fun _ => (steady_caption _).bind fun _ => .pure _
  | session =>
    refine Steady.bind (.act_of_changes fun c s => c.changes_sessionOf s e.request) fun _ => ?_
    exact (steady_caption _).bind fun _ => .pure _
  | existingSession =>
    refine Steady.get.bind fun b => ?_
    split
    · exact .pure _
    · exact (steady_caption _).bind fun _ => .pure _
  | response status added names =>
    have hmodify : ∀ f : Response → Response,
        Steady (Bench.change (·.modifyResponse e.response f)) :=
      fun f =>
        .change fun w hw => ⟨.of_same (hw.congr rfl rfl rfl) rfl (Nat.le_refl _), rfl⟩
    have hrest : Steady (do
        Bench.change (·.modifyResponse e.response fun r =>
          added.foldl (fun r h => r.addHeader h.1 h.2) r)
        let r := (← get).world.response e.response
        return Answer.response r.status.toNat (names.map r.header)) :=
      (hmodify _).bind fun _ => Steady.get.bind fun _ => .pure _
    cases status with
    | none => exact hrest
    | some status => exact (hmodify _).bind fun _ => hrest
  | useAttribute key use =>
    exact (steady_attributeUse _ key use).bind fun i => (steady_captionOf? i).bind fun _ => .pure _

/-- A session that is known by name is there. -/
theorem ensures_sessionCalled (name : String) :
    Ensures (fun _ => True) (sessionCalled name) fun b id => b.sessions.get? name = some id := by
  refine Ensures.get.bind fun a => ?_
  cases hname : a.sessions.get? name with
  | some id => exact Ensures.pure fun b hb => by rw [hb, hname]
  | none =>
    have hadd : Ensures (· = a) (Bench.act World.addSession)
        fun b id => id < b.world.sessions.size := by
      refine fun b hb _ => ⟨.of_world hb ⟨.of_same hb.world.addSession rfl ?_, rfl⟩ rfl rfl, ?_⟩
      · exact Nat.le_of_lt (Nat.lt_of_lt_of_eq (Nat.lt_succ_self _) (Array.size_push _).symm)
      · exact Nat.lt_of_lt_of_eq (Nat.lt_succ_self _) (Array.size_push _).symm
    refine hadd.bind fun id b hb hid => ⟨⟨⟨⟨hb.world, hb.exchanges, ?_⟩, .refl hb.world⟩, rfl⟩, ?_⟩
    · intro name' id' hid'
      change (b.sessions.insert name id).get? name' = some id' at hid'
      rw [Table.get?_insert] at hid'
      split at hid'
      · cases hid'
        exact hid
      · exact hb.sessions name' id' hid'
    · exact Table.get?_insert_self ..

/-- That there is a new response is of no consequence for requests. -/
theorem World.stays_addResponse {w : World} (hw : w.Valid) (r : Response) :
    w.Stays (w.addResponse r).2 := ⟨.of_same (hw.congr rfl rfl rfl) rfl (Nat.le_refl _), rfl⟩

/-- A request comes to be, with a response. -/
theorem ensures_addExchange {r : Request} {sessions : Table String Nat} :
    Ensures (fun b => b.sessions = sessions ∧
        ∀ id, r.session = some id → id < b.world.sessions.size)
      (do
        let request ← Bench.act (·.addRequest r)
        let response ← Bench.act (·.addResponse .new)
        return Exchange.mk request response)
      fun b e => b.sessions = sessions ∧ e.request < b.world.requests.size ∧
        (b.world.request e.request).session = r.session := by
  rintro b hb ⟨hsessions, hr⟩
  let w := ((b.world.addRequest r).2.addResponse .new).2
  have hadd := World.lasts_addRequest hb.world hr
  have hw : b.world.Stays w := ⟨hadd.trans (World.stays_addResponse hadd.valid .new).toLasts, rfl⟩
  refine ⟨.of_world hb hw rfl rfl, hsessions, ?_, ?_⟩
  · exact Nat.lt_of_lt_of_eq (Nat.lt_succ_self _) (Array.size_push _).symm
  · have hrequest : w.request b.world.requests.size = r := by
      rw [show w.request b.world.requests.size =
        (b.world.addRequest r).2.request b.world.requests.size from rfl, World.request_addRequest,
        if_pos rfl]
    exact congrArg Request.session hrequest

/-- A new request is there, and it belongs to the session that was meant, if one was. -/
theorem ensures_newExchange (plan : RequestPlan) :
    Ensures (fun _ => True) plan.newExchange fun b e => e.request < b.world.requests.size ∧
      ∀ name, plan.session = some name →
        ∃ id, b.sessions.get? name = some id ∧ (b.world.request e.request).session = some id := by
  let r := plan.parameters.foldl (fun r p => r.withParameter p.1 p.2)
    (Request.new plan.method plan.path)
  unfold RequestPlan.newExchange
  cases hplan : plan.session with
  | none =>
    intro b hb _
    obtain ⟨hstays, -, hlt, -⟩ := ensures_addExchange (r := { r with session := none }) b hb
      ⟨rfl, nofun⟩
    exact ⟨hstays, hlt, nofun⟩
  | some name =>
    intro b hb _
    obtain ⟨hstays, hname⟩ := ensures_sessionCalled name b hb trivial
    obtain ⟨hstays', hsessions, hlt, hjoined⟩ := ensures_addExchange
      (r := { r with session := some (sessionCalled name b).1 }) _ hstays.valid
      ⟨rfl, fun id hid => by cases hid; exact hstays.valid.sessions name _ hname⟩
    refine ⟨hstays.trans hstays', hlt, fun name' hname' => ?_⟩
    cases hname'
    exact ⟨_, hsessions ▸ hname, hjoined⟩

end Bench

/-- The beginning of a request: it is found or made, stored if it is to be stored, and entered. -/
def RequestPlan.start (plan : RequestPlan) : Trial Exchange := do
  let e ← plan.exchange
  if let some name := plan.storedAs then
    modify fun b => { b with exchanges := b.exchanges.insert name e }
  Bench.change (·.enter e)
  return e

namespace Bench

variable {b b' b'' : Bench}

/-- Whatever response a request is handled with, it stays the same request. -/
theorem ensures_answered (plan : RequestPlan) (e : Exchange) :
    Ensures (fun b => e.request < b.world.requests.size) (plan.answered e) fun b e' =>
      e'.request < b.world.requests.size := by
  unfold RequestPlan.answered
  cases plan.response with
  | own => exact .pure fun _ h => h
  | another =>
    exact fun b hb h => ⟨.of_world hb (World.stays_addResponse hb.world .new) rfl rfl, h⟩
  | storedWith name =>
    refine Ensures.bind (V := fun b _ => e.request < b.world.requests.size)
      (fun b hb h => ⟨.refl hb, h⟩) fun a => ?_
    split
    · exact .pure fun _ h => h
    · exact .pure fun _ h => h

/-- The request that a plan makes is there. -/
theorem ensures_exchange (plan : RequestPlan) :
    Ensures (fun _ => True) plan.exchange fun b e => e.request < b.world.requests.size := by
  refine Ensures.bind (V := fun b a => b = a) Ensures.get fun a => ?_
  split
  · next e he =>
    obtain ⟨name, -, hname⟩ := Option.bind_eq_some_iff.mp he
    intro b hb hba
    subst hba
    exact ensures_answered plan e b hb (hb.exchanges name e hname)
  · exact Ensures.bind ((ensures_newExchange plan).weaken (fun _ _ => trivial) fun _ _ h => h.1)
      (ensures_answered plan)

/-- A request that begins is handled within those being handled. -/
theorem lasts_start (hb : b.Valid) (plan : RequestPlan) :
    b.Lasts (plan.start b).2 ∧
      (plan.start b).2.world.current = (plan.start b).1 :: b.world.current := by
  obtain ⟨hstays, hlt⟩ := ensures_exchange plan b hb trivial
  let e := (plan.exchange b).1
  let b₁ := (plan.exchange b).2
  have henter : b₁.world.Lasts (b₁.world.enter e) := World.lasts_enter hstays.valid.world hlt
  have hcurrent : (b₁.world.enter e).current = e :: b.world.current :=
    congrArg (e :: ·) hstays.current
  have hopened : ∀ exchanges : Table String Exchange,
      (∀ name e', exchanges.get? name = some e' → e'.request < b₁.world.requests.size) →
        b₁.Lasts { b₁ with exchanges, world := b₁.world.enter e } := fun exchanges h =>
    ⟨⟨henter.valid, h, hstays.valid.sessions⟩, henter⟩
  unfold RequestPlan.start
  cases plan.storedAs with
  | none => exact ⟨hstays.toLasts.trans (hopened b₁.exchanges hstays.valid.exchanges), hcurrent⟩
  | some name =>
    refine ⟨hstays.toLasts.trans (hopened (b₁.exchanges.insert name e) fun name' e' he' => ?_),
      hcurrent⟩
    rw [Table.get?_insert] at he'
    split at he'
    · cases he'
      exact hlt
    · exact hstays.valid.exchanges name' e' he'

end Bench

end Wiring
