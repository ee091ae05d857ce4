import Wiring.Bench.Step
import Wiring.Detail

/-!
# Taking Steps

What the steps on a bench come to. A step that asks for a container or a request which is not
there comes to nothing.

## Main statements

* `Step.perform`, `performAll`: taking steps.
* `performAll_append`: the later steps go on from where the earlier ones ended.
-/

namespace Wiring

namespace Bench

/-! ### Containers -/

/-- Run a computation of the container called `name`. -/
def inContainer {α : Type} (name : String) (x : Container → Run α) :
    Trial (Except Failure (Except ConfigurationError α)) := fun b =>
  match b.containers.get? name with
  | none => (.error .noContainer, b)
  | some r =>
    match r.run b.world x with
    | none => (.error .unending, b)
    | some (result, r, world) =>
      (.ok result, { b with world, containers := b.containers.insert name r })

/-- The answer to a computation of the container called `name`. -/
def answerBy {α : Type} (name : String) (x : Container → Run α) (f : α → Trial Answer) :
    Trial Answer := do
  match ← inContainer name x with
  | .error failure => return .failed failure
  | .ok (.error e) => return .failed (.configuration e)
  | .ok (.ok a) => f a

/-- The answer that is read off the container called `name`. -/
def answerOf (name : String) (f : RunningContainer → Answer) : Trial Answer := fun b =>
  match b.containers.get? name with
  | none => (.failed .noContainer, b)
  | some r => (f r, b)

/-- The answer that shows an instance. -/
def showInstance (i : Instance) : Trial Answer := return .shown (← exhibit i.value)

/-- The results of a computation that is run several times. -/
def repeated (name : String) (x : Container → Run Instance) :
    Nat → Trial (Except Failure (List (Except ConfigurationError Exhibit)))
  | 0 => return .ok []
  | times + 1 => do
    match ← inContainer name x with
    | .error failure => return .error failure
    | .ok result =>
      let shown ← match result with
        | .error e => pure (.error e)
        | .ok i => do pure (.ok (← exhibit i.value))
      return (← repeated name x times).map (shown :: ·)

end Bench

open Bench

/-- What a container answers. -/
def Query.perform (name : String) : Query → Trial Answer
  | instanceOf cls => answerBy name (·.getInstance cls) showInstance
  | instanceFor ty => answerBy name (·.get ty) showInstance
  | instanceNamed ty n => answerBy name (·.getNamed ty n) showInstance
  | instanceUnder ty key => answerBy name (·.getFor ty key) showInstance
  | resolve d => answerBy name (·.resolve d) fun i =>
      return .typed i.ty.name (← caption i.value)
  | inject cls declaredBy => do
    if !(← get).containers.contains name then return .failed .noContainer
    let id ← act (·.makeObject cls)
    match ← inContainer name (·.injectMembers declaredBy cls id) with
    | .error failure => return .failed failure
    | .ok result =>
      let error := match result with
        | .error e => some e
        | .ok () => none
      return .injected error (← exhibit (.object cls id))
  | canResolve d => answerBy name (·.canResolve d) fun b => return .flag b
  | hasBinding key => answerOf name fun r => .flag (r.container.hasBinding key)
  | handle ty d times => do
    if !(← get).containers.contains name then return .failed .noContainer
    match ← repeated name (·.getAs ty d) times with
    | .error failure => return .failed failure
    | .ok results => return .handle d.key results
  | stats => answerOf name fun r => .stats r.stats
  | config => answerOf name fun r => .config r.container.config
  | registry => answerOf name fun r => .registry r.container.registry
  | detail => answerOf name fun r => .text (some (r.container.detail r.memory))

/-- The result of a build, with its error as the failure of a step. -/
def failingAs {ε : Type} (f : ε → Failure) (result : BuildResult ε) : BuildResult Failure :=
  result.map fun (r, w) => (r.mapError f, w)

namespace BuildPlan

/-- The start of an application, up to the build of its container. -/
def prepare (config : ContainerConfig) (file : Option SettingsFile)
    (environment : Option (List (String × String))) (logging : LoggingChoice)
    (modules : List (List Statement)) (w : World) : Except InfrastructureError Launch × World :=
  let launch := Launch.ofSettings { BootstrapSettings.standard with container := config }
  let (launch, w) := match file with
    | none => (Except.ok launch, w)
    | some f => launch.readFile f w
  let (launch, w) := match launch, environment with
    | .ok l, some environment => l.readEnvironment environment w
    | launch, _ => (launch, w)
  match launch with
  | .error e => (.error e, w)
  | .ok l =>
    let l := match logging with
      | .off => l
      | .bySettings => l.enableLogging
      | .given c => l.withLogging c
    let l := l.install modules
    (.ok l, w.emit (.configured l.settings))

/-- Build a container. -/
def run (classes : ClassTable) (w : World) : BuildPlan → BuildResult Failure
  | builder config modules statics =>
    let (b, w) := (Builder.ofConfig config).installAll modules w
    let (b, w) := b.requestStatics statics w
    failingAs .configuration (b.build classes w)
  | create modules => failingAs .configuration (createContainer modules classes w)
  | launch config file environment logging modules =>
    match prepare config file environment logging modules w with
    | (.error e, w) => some (.error (.infrastructure e), w)
    | (.ok l, w) => failingAs .infrastructure (l.build (some LogFilter.takenReason) classes w)

/-- Build a container called `name`. The container that had the name is given up first, so that
no container has it if the build fails. -/
def perform (name : String) (plan : BuildPlan) : Trial Answer := fun b =>
  let b := { b with containers := b.containers.erase name }
  match plan.run b.classes b.world with
  | none => (.failed .unending, b)
  | some (.error failure, world) => (.failed failure, { b with world })
  | some (.ok r, world) =>
    (.built r.stats r.container.config.eager,
      { b with world, containers := b.containers.insert name r })

end BuildPlan

/-! ### Requests -/

/-- Use an attribute, and give its value or, after setting it, nothing. -/
def AttributeUse.perform (keeper : World.Keeper) (key : Key) :
    AttributeUse → Trial (Option Instance)
  | read => return ((← get).world.attributes keeper).get? key
  | set m => do
    let i ← act (·.makeBy m)
    change (·.setAttribute keeper key i)
    return none
  | setIfAbsent m => do
    let i ← act (·.makeBy m)
    return some (← act (·.attributeOrInsert keeper key i))

namespace Bench

/-- How a value that may be absent is shown in a line of text. -/
def captionOf? (i : Option Instance) : Trial (Option String) :=
  match i with
  | none => return none
  | some i => return some (← caption i.value)

/-- The session called `name`, which is created when the name is first used. -/
def sessionCalled (name : String) : Trial Nat := do
  match (← get).sessions.get? name with
  | some id => return id
  | none =>
    let id ← act World.addSession
    modify fun b => { b with sessions := b.sessions.insert name id }
    return id

end Bench

/-- What the current request answers. -/
def RequestQuery.perform (e : Exchange) : RequestQuery → Trial Answer
  | parameter name => return .text (((← get).world.request e.request).parameter name)
  | parameters => do
    let map := ((← get).world.request e.request).parameters
    return .text (some (← caption (.parameters map)))
  | session => do
    let id ← act (·.sessionOf e.request)
    return .text (some (← caption (.session id)))
  | existingSession => do
    match ((← get).world.request e.request).session with
    | none => return .text none
    | some id => return .text (some (← caption (.session id)))
  | response status added names => do
    if let some status := status then
      change (·.modifyResponse e.response ({ · with status }))
    change (·.modifyResponse e.response fun r => added.foldl (fun r h => r.addHeader h.1 h.2) r)
    let r := (← get).world.response e.response
    return .response r.status.toNat (names.map r.header)
  | useAttribute key use => do
    let i ← use.perform (.request e.request) key
    return .text (← captionOf? i)

namespace RequestPlan

/-- A new request with a new response. -/
def newExchange (plan : RequestPlan) : Trial Exchange := do
  let session ← match plan.session with
    | none => pure none
    | some name => do pure (some (← sessionCalled name))
  let r := plan.parameters.foldl (fun r p => r.withParameter p.1 p.2)
    (Request.new plan.method plan.path)
  let request ← act (·.addRequest { r with session })
  let response ← act (·.addResponse .new)
  return ⟨request, response⟩

/-- The request of `e`, with the response that it is to be handled with. -/
def answered (plan : RequestPlan) (e : Exchange) : Trial Exchange := do
  match plan.response with
  | .own => return e
  | .another => return { e with response := ← act (·.addResponse .new) }
  | .storedWith name =>
    match (← get).exchanges.get? name with
    | some other => return { e with response := other.response }
    | none => return e

/-- The request to handle, which is a stored one or a new one, with its response. -/
def exchange (plan : RequestPlan) : Trial Exchange := do
  match plan.reused.bind (← get).exchanges.get? with
  | some e => plan.answered e
  | none => plan.answered (← plan.newExchange)

end RequestPlan

/-! ### Steps -/

/-- An answer with the lines written up to it. -/
def Answer.report (a : Answer) : Trial Report := return (a, ← takeLines)

mutual

/-- Take a step. -/
def Step.perform : Step → Trial Report
  | .build name plan => do (← plan.perform name).report
  | .ask name q => do (← q.perform name).report
  | .setContext name isOpen => do
    change (·.setContext name isOpen)
    Answer.done.report
  | .request plan steps panics => do
    let e ← plan.exchange
    if let some name := plan.storedAs then
      modify fun b => { b with exchanges := b.exchanges.insert name e }
    change (·.enter e)
    let inner ← performAll steps
    change World.leave
    let after := (← get).world.currentExchange?.isSome
    (Answer.request inner panics after).report
  | .current => do
    match (← get).world.currentExchange? with
    | none => (Answer.current none).report
    | some e =>
      let request ← caption (.request e.request)
      let response ← caption (.response e.response)
      (Answer.current (some (request, response))).report
  | .inRequest q => do
    match (← get).world.currentExchange? with
    | none => (Answer.failed .noRequest).report
    | some e => (← q.perform e).report
  | .sessionAttribute name key use => do
    let id ← sessionCalled name
    let i ← use.perform (.session id) key
    let text ← captionOf? i
    (Answer.attributed text ((← get).world.attributes (.session id)).size).report

/-- Take steps in order. -/
def performAll : List Step → Trial (List Report)
  | [] => return []
  | s :: rest => do
    let report ← s.perform
    return report :: (← performAll rest)

end

theorem performAll_append (ss ts : List Step) :
    performAll (ss ++ ts) = do
      let first ← performAll ss
      let later ← performAll ts
      return first ++ later := by
  induction ss with
  | nil => simp [performAll]
  | cons s ss ih => simp [performAll, ih]

end Wiring
