import Wiring.Binding
import Wiring.Settings.Basic

/-!
# The Journal

Everything a container does to values, classes and contexts is entered in a journal, in order.
An `Event` is a call that was made, or a `Notice` for the log. Events hold values as they
looked at the time: a `Glimpse` of a response, for one, holds the status it had.

Sessions have no name of their own. They are numbered in the order in which they are first
shown, by a `Numbering` that is kept while events and values are written out.

## Main statements

* `Event.render`, `Notice.text`, `Glimpse.render`: how events, notices and values are written.
* `Event.isCall`: whether an event is a call of a constructor, member, provider or accessor.
* `Numbering.number_note_of_mem`: a session keeps its number.
-/

namespace Wiring

/-! ### Glimpses of values -/

/-- What a value looked like at some time. -/
inductive Glimpse where
  /-- An object. -/
  | object (cls : ClassPath) (id : Nat)
  /-- A service. -/
  | service (iface : InterfacePath) (label : String) (id : Nat)
  /-- A text. -/
  | text (s : String)
  /-- A number. -/
  | number (n : UInt64)
  /-- A request with its method and path. -/
  | request (method path : String)
  /-- A response with its status. -/
  | response (status : UInt16)
  /-- A session. -/
  | session (id : Nat)
  /-- Request parameters. -/
  | parameters (map : ParameterMap)
  deriving DecidableEq

/-- The numbers under which sessions are shown. -/
structure Numbering where
  /-- The sessions in the order in which they were first shown. -/
  seen : List Nat

namespace Numbering

/-- No session has been shown. -/
def empty : Numbering := ⟨[]⟩

/-- Give a session the next number, unless it has one. -/
def note (n : Numbering) (session : Nat) : Numbering :=
  if session ∈ n.seen then n else ⟨n.seen ++ [session]⟩

/-- The number of a session. -/
def number (n : Numbering) (session : Nat) : Nat := n.seen.idxOf session + 1

theorem number_note_of_mem {n : Numbering} {s t : Nat} (h : s ∈ n.seen) :
    (n.note t).number s = n.number s := by
  unfold note number
  split
  · rfl
  · simp [List.idxOf_append, h]

end Numbering

/-- How things with an identity of their own are numbered: from one on, in the order in which
they came to be. -/
def identityText (id : Nat) : String := "#" ++ toString (id + 1)

/-- How an object is referred to. -/
def objectText (cls : ClassPath) (id : Nat) : String := TypeName.short cls ++ identityText id

/-- Request parameters as they are shown, in the order of their names. -/
def parametersText (map : ParameterMap) : String :=
  Json.compact (.ofMap (map.entries.map fun (name, values) => (name, .array (values.map .str))))

namespace Glimpse

/-- The sessions that a glimpse shows. -/
def sessions : Glimpse → List Nat
  | session id => [id]
  | _ => []

/-- How a value is written. -/
def render (n : Numbering) : Glimpse → String
  | object cls id => objectText cls id
  | service iface label id => TypeName.short iface ++ ":" ++ label ++ identityText id
  | text s => "str:" ++ s
  | number v => "u64:" ++ toString v.toNat
  | request method path => "req:" ++ method ++ " " ++ path
  | response status => "resp:" ++ toString status.toNat
  | session id => "sess:" ++ toString (n.number id)
  | parameters map => "params:" ++ parametersText map

end Glimpse

/-- A call of a member with the arguments that it accepted. -/
structure Call where
  /-- The name of the member. -/
  member : String
  /-- The arguments. -/
  arguments : List Glimpse
  deriving DecidableEq

/-- How a call is written. -/
def Call.render (n : Numbering) (c : Call) : String :=
  c.member ++ "(" ++ String.intercalate ", " (c.arguments.map (Glimpse.render n)) ++ ")"

/-! ### Notices -/

/-- How much a notice matters, the most important first. -/
inductive Severity where
  /-- Something may be wrong. -/
  | warn
  /-- A step of interest to those who run the application. -/
  | info
  /-- A step of interest to those who develop it. -/
  | debug
  /-- A detail of such a step. -/
  | trace
  deriving DecidableEq

namespace Severity

/-- The name of a severity. -/
def name : Severity → String
  | warn => "WARN"
  | info => "INFO"
  | debug => "DEBUG"
  | trace => "TRACE"

/-- The place of a severity, counted from the most important. -/
def rank : Severity → Nat
  | warn => 0
  | info => 1
  | debug => 2
  | trace => 3

end Severity

/-- The numbers that describe a container. -/
structure ContainerStats where
  /-- The number of bound keys. -/
  bindings : Nat
  /-- The number of singletons. -/
  singletons : Nat
  /-- The number of singletons that have been created. -/
  created : Nat
  /-- The number of classes with static injection. -/
  staticTargets : Nat
  /-- The number of catalogs that are kept. -/
  catalogs : Nat
  deriving DecidableEq

/-- Something worth writing to the log. -/
inductive Notice where
  /-- A binding was registered. -/
  | registered (key : Key) (source : Source) (scope : Scope)
  /-- A binding took the place of an earlier one. -/
  | overridden (key : Key)
  /-- Static injection was requested again. -/
  | repeatedStaticRequest (cls : ClassPath)
  /-- A catalog was built. -/
  | catalogBuilt (cls : ClassPath) (instancePoints staticPoints : Nat)
  /-- A key is asked for. -/
  | resolving (key : Key)
  /-- A class is about to be constructed. -/
  | constructing (cls : ClassPath)
  /-- An optional member is skipped as `key` is not available. -/
  | skipped (member : String) (key : Key)
  /-- A singleton is created. -/
  | creatingSingleton (key : Key)
  /-- A static member is injected. -/
  | injectingStatic (member : String)
  /-- All static members are injected. -/
  | staticsInjected (targets : Nat)
  /-- A singleton is created ahead of time. -/
  | creatingAhead (key : Key)
  /-- A container was built. -/
  | built (stats : ContainerStats)
  /-- A request is entered. -/
  | enteringRequest (method path : String)
  /-- A session was created. -/
  | sessionCreated
  /-- A request keeps a new instance. -/
  | keptInRequest (key : Key)
  /-- A session keeps a new instance. -/
  | keptInSession (key : Key)
  /-- A variable has no meaning. -/
  | unknownVariable (name : String)
  /-- A variable changed a setting. -/
  | variableApplied (name value : String)
  /-- A settings file was read. -/
  | settingsLoaded (file : String)
  /-- Logging could not be set up. -/
  | loggingFailed (error : InfrastructureError)
  /-- Logging was set up. -/
  | loggingReady
  /-- The start of an application begins. -/
  | starting (stage : Stage) (modules : Nat)
  /-- An application has started. -/
  | started

namespace Notice

/-- How much a notice matters. -/
def severity : Notice → Severity
  | overridden _ | loggingFailed _ => .warn
  | staticsInjected _ | built _ | settingsLoaded _ | loggingReady | starting .. | started => .info
  | resolving _ | keptInRequest _ | keptInSession _ => .trace
  | _ => .debug

/-- The text of a notice. -/
def text : Notice → String
  | registered key source scope =>
    "登记绑定: " ++ key.text ++ " -> " ++ source.name ++ " (" ++ scope.title ++ ")"
  | overridden key => "绑定被覆盖，后登记者生效: " ++ key.text
  | repeatedStaticRequest cls => "重复的静态注入请求: " ++ TypeName.short cls
  | catalogBuilt cls instancePoints staticPoints =>
    "构建注入点目录: " ++ TypeName.short cls ++ " (" ++ toString instancePoints ++
      " 个实例成员, " ++ toString staticPoints ++ " 个静态成员)"
  | resolving key => "解析依赖: " ++ key.text
  | constructing cls => "即时构造: " ++ TypeName.short cls
  | skipped member key => "跳过可选注入点 " ++ member ++ ": " ++ key.text ++ " 不可用"
  | creatingSingleton key => "创建单例: " ++ key.text
  | injectingStatic member => "静态注入: " ++ member
  | staticsInjected targets => "静态注入完成: " ++ toString targets ++ " 个目标"
  | creatingAhead key => "预先创建单例: " ++ key.text
  | built stats =>
    "容器构建完成: " ++ toString stats.bindings ++ " 个绑定, " ++ toString stats.singletons ++
      " 个单例 (" ++ toString stats.created ++ " 个已创建), " ++
      toString stats.staticTargets ++ " 个静态注入目标"
  | enteringRequest method path => "进入请求作用域: " ++ method ++ " " ++ path
  | sessionCreated => "创建会话: _"
  | keptInRequest key => "请求作用域创建实例: " ++ key.text
  | keptInSession key => "会话作用域创建实例: " ++ key.text
  | unknownVariable name => "忽略未知的环境变量: " ++ name
  | variableApplied name value => "环境变量覆盖配置: " ++ name ++ "=" ++ value
  | settingsLoaded file => "加载引导配置: " ++ file
  | loggingFailed error => error.message
  | loggingReady => "日志系统初始化完成"
  | starting stage modules =>
    "开始构建容器: 阶段 " ++ stage.title ++ ", " ++ toString modules ++ " 个模块"
  | started => "容器启动完成"

end Notice

/-! ### Events -/

/-- Something that happened. -/
inductive Event where
  /-- The member table of a class was read. -/
  | membersRead (cls : ClassPath)
  /-- An object was made. -/
  | objectMade (cls : ClassPath) (id : Nat)
  /-- A service was made. -/
  | serviceMade (label : String) (id : Nat)
  /-- A member of a class was run and read these arguments. It may have failed. -/
  | attempted (cls : ClassPath) (call : Call)
  /-- A constructor created an object. -/
  | constructed (cls : ClassPath) (id : Nat) (call : Call)
  /-- A member of an object was injected. -/
  | injected (cls : ClassPath) (id : Nat) (call : Call)
  /-- A static member of a class was injected. -/
  | injectedStatic (cls : ClassPath) (call : Call)
  /-- A provider was called for the `n`-th time, counted from zero. -/
  | providerCalled (label : String) (n : Nat)
  /-- An object was called as a provider for the `n`-th time, counted from zero. -/
  | objectCalled (cls : ClassPath) (id n : Nat)
  /-- A named context was consulted. -/
  | contextConsulted (name : String) (key : Key)
  /-- A failed injection was passed over. -/
  | swallowed (error : ConfigurationError)
  /-- An application starts with these settings. -/
  | configured (settings : BootstrapSettings)
  /-- An instance was asked for by a caller that creates it on its own. -/
  | provisioned
  /-- The binding of `key` begins to supply an instance, regardless of scopes. -/
  | supplying (key : Key)
  /-- The members of the object of the deferred binding of `key` begin to be injected. -/
  | preparing (key : Key)
  /-- What using the deferred binding of `key` came to, be it its object or an error. -/
  | forced (key : Key) (result : Except ConfigurationError Instance)
  /-- What the binding of `key` supplied, be it an instance or an error. -/
  | supplied (key : Key) (result : Except ConfigurationError Instance)
  /-- What resolving a dependency came to, be it an instance or an error. -/
  | resolved (d : Dependency) (result : Except ConfigurationError Instance)
  /-- A notice was written to the log. -/
  | logged (notice : Notice)

namespace Event

/-- Whether an event is a call of a constructor, member, provider or accessor. Reading a member
table, making a test object and writing to the log are not. -/
def isCall : Event → Bool
  | attempted .. => true
  | constructed .. | injected .. | injectedStatic .. => true
  | providerCalled .. | objectCalled .. | contextConsulted .. => true
  | _ => false

/-- The sessions that an event shows, in order. -/
def sessions : Event → List Nat
  | attempted _ call | constructed _ _ call | injected _ _ call | injectedStatic _ call =>
    call.arguments.flatMap Glimpse.sessions
  | _ => []

/-- How an event is written. -/
def render (n : Numbering) : Event → String
  | membersRead cls => "members " ++ TypeName.short cls
  | objectMade cls id => "make " ++ objectText cls id
  | serviceMade label id => "make " ++ label ++ identityText id
  | attempted cls call => "attempt " ++ TypeName.short cls ++ "." ++ call.render n
  | constructed cls id call => "new " ++ objectText cls id ++ "." ++ call.render n
  | injected cls id call => "set " ++ objectText cls id ++ "." ++ call.render n
  | injectedStatic cls call => "static " ++ TypeName.short cls ++ "." ++ call.render n
  | providerCalled label k => "call " ++ label ++ "/" ++ toString k
  | objectCalled cls id k => "get " ++ objectText cls id ++ "/" ++ toString k
  | contextConsulted name key => "ctx " ++ name ++ " " ++ key.text
  | swallowed error => "swallowed " ++ error.message
  | configured settings => "settings " ++ settings.report.compact
  | provisioned => "provision"
  | supplying key => "supply " ++ key.text
  | preparing key => "prepare " ++ key.text
  | forced key _ => "forced " ++ key.text
  | supplied key _ => "supplied " ++ key.text
  | resolved d _ => "resolved " ++ d.key.text
  | logged notice => notice.severity.name ++ " " ++ notice.text

/-- Whether an event is written when the log is kept down to `threshold`, if at all. An attempt
is not written; what comes of it is. Nor are the beginning and the end of a resolution or of the
use of a deferred binding. -/
def isShown (threshold : Option Severity) : Event → Bool
  | attempted .. | supplying _ | supplied .. | resolved .. | preparing _ | forced .. => false
  | logged notice =>
    match threshold with
    | some t => notice.severity.rank ≤ t.rank
    | none => false
  | _ => true

/-- The texts of the events that are written, and the numbers of the sessions shown so far. A
session gets its number also from an event that is not written. -/
def renderAll (threshold : Option Severity) (n : Numbering) :
    List Event → List String × Numbering
  | [] => ([], n)
  | e :: rest =>
    let n' := e.sessions.foldl Numbering.note n
    let (lines, last) := renderAll threshold n' rest
    (if e.isShown threshold then e.render n' :: lines else lines, last)

end Event

end Wiring
