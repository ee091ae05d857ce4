import Wiring.Bench.Basic

/-!
# Steps on a Bench

What can be done on a bench, as data: building containers, asking them, opening and closing
contexts, and handling requests, within which further steps are taken. Each step has an
`Answer`.

## Main statements

* `Step`: the steps.
* `Answer`: what a step comes to.
-/

namespace Wiring

/-! ### Steps -/

/-- How an application is to set up logging. -/
inductive LoggingChoice where
  /-- Not at all. -/
  | off
  /-- As its settings say. -/
  | bySettings
  /-- In a given way. -/
  | given (config : LoggingConfig)

/-- How a container is to be built. -/
inductive BuildPlan where
  /-- By a builder, which also gets requests for static injection. -/
  | builder (config : ContainerConfig) (modules : List (List Statement))
      (statics : List ClassPath)
  /-- From modules alone. -/
  | create (modules : List (List Statement))
  /-- By the start of an application. -/
  | launch (config : ContainerConfig) (file : Option SettingsFile)
      (environment : Option (List (String × String))) (logging : LoggingChoice)
      (modules : List (List Statement))

/-- What a container is asked for. -/
inductive Query where
  /-- An object of a class. -/
  | instanceOf (cls : ClassPath)
  /-- The instance bound for a type. -/
  | instanceFor (ty : Ty)
  /-- The instance bound for a type under a name. -/
  | instanceNamed (ty : Ty) (name : String)
  /-- The instance bound for a key, as one of type `ty`. -/
  | instanceUnder (ty : Ty) (key : Key)
  /-- The instance for a dependency. -/
  | resolve (d : Dependency)
  /-- The injection of the members that `declaredBy` declares into a new object of `cls`. -/
  | inject (cls declaredBy : ClassPath)
  /-- Whether a dependency can be resolved. -/
  | canResolve (d : Dependency)
  /-- Whether a key is bound. -/
  | hasBinding (key : Key)
  /-- The instances for a dependency, as ones of type `ty`, asked for several times. -/
  | handle (ty : Ty) (d : Dependency) (times : Nat)
  /-- The numbers that describe the container. -/
  | stats
  /-- The configuration. -/
  | config
  /-- The bindings in force. -/
  | registry
  /-- The container in detail. -/
  | detail

/-- The objects of a class, asked for several times. -/
def Query.handleOf (cls : ClassPath) (times : Nat) : Query :=
  .handle (.component cls) (.injectable cls) times

/-- What is done to an attribute of a request or session. -/
inductive AttributeUse where
  /-- It is read. -/
  | read
  /-- It is set to a new value. -/
  | set (m : Making)
  /-- It is set to a new value unless it is there already. -/
  | setIfAbsent (m : Making)

/-- What is asked of the current request. -/
inductive RequestQuery where
  /-- The first value of a parameter. -/
  | parameter (name : String)
  /-- All parameters. -/
  | parameters
  /-- The session, which is created if there is none. -/
  | session
  /-- The session, if there is one. -/
  | existingSession
  /-- The status of the response, which may be set first, and the values of some headers after
  others were added. -/
  | response (status : Option UInt16) (added : List (String × String)) (names : List String)
  /-- An attribute. -/
  | useAttribute (key : Key) (use : AttributeUse)

/-- The response that a request is handled with. -/
inductive ResponseChoice where
  /-- The one that is stored with the request, or a new one if the request is new. -/
  | own
  /-- A new one. -/
  | another
  /-- The one that is stored with the request of a name, or its own if there is no such request. -/
  | storedWith (name : String)

/-- The request of a step. -/
structure RequestPlan where
  /-- The method. -/
  method : String
  /-- The path. -/
  path : String
  /-- The parameters, in order. -/
  parameters : List (String × String)
  /-- The name of the session that a new request belongs to. -/
  session : Option String
  /-- The name under which the request is stored. -/
  storedAs : Option String
  /-- The name of the stored request that is handled instead of a new one, if it exists. -/
  reused : Option String
  /-- The response. -/
  response : ResponseChoice := .own

/-- Something to do on a bench. -/
inductive Step where
  /-- Build a container, in the place of the one that has the name. -/
  | build (name : String) (plan : BuildPlan)
  /-- Ask a container. -/
  | ask (name : String) (q : Query)
  /-- Open or close a context. -/
  | setContext (name : String) (isOpen : Bool)
  /-- Handle a request by taking steps, which may end in a panic. -/
  | request (plan : RequestPlan) (steps : List Step) (panics : Bool)
  /-- Look at the current request. -/
  | current
  /-- Ask the current request. -/
  | inRequest (q : RequestQuery)
  /-- Use an attribute of a session that is known by name. -/
  | sessionAttribute (session : String) (key : Key) (use : AttributeUse)
  deriving Inhabited

/-! ### Answers -/

/-- Why a step comes to nothing. -/
inductive Failure where
  /-- There is no container of the name. -/
  | noContainer
  /-- There is no current request. -/
  | noRequest
  /-- The key is not bound. -/
  | noBinding
  /-- The step never comes to an end. -/
  | unending
  /-- The container reports an error. -/
  | configuration (e : ConfigurationError)
  /-- The start of an application reports an error. -/
  | infrastructure (e : InfrastructureError)
  deriving DecidableEq

/-- What a step comes to. -/
inductive Answer where
  /-- It failed. -/
  | failed (f : Failure)
  /-- It was done. -/
  | done
  /-- A truth value. -/
  | flag (b : Bool)
  /-- A text, which may be absent. -/
  | text (t : Option String)
  /-- An instance. -/
  | shown (x : Exhibit)
  /-- An instance in a line of text, with the name of its type. -/
  | typed (typeName text : String)
  /-- An object whose members were injected, up to the error that occurred, if any. -/
  | injected (error : Option ConfigurationError) (object : Exhibit)
  /-- The results of a handle for a key. -/
  | handle (key : Key) (results : List (Except ConfigurationError Exhibit))
  /-- A container was built. -/
  | built (stats : ContainerStats) (eager : Bool)
  /-- The numbers that describe a container. -/
  | stats (s : ContainerStats)
  /-- The configuration of a container. -/
  | config (c : ContainerConfig)
  /-- The bindings in force. -/
  | registry (r : Registry)
  /-- The current request and response, if there is one. -/
  | current (exchange : Option (String × String))
  /-- The status and some headers of a response. -/
  | response (status : Nat) (headers : List (Option String))
  /-- An attribute of a session, with the number of its attributes. -/
  | attributed (value : Option String) (count : Nat)
  /-- The answers of the steps of a request with the lines written up to each, whether the
  request ended in a panic, and whether there is a request afterwards. -/
  | request (inner : List (Answer × List String)) (panicked inRequest : Bool)

/-- The answer of a step, with the lines written up to it. -/
abbrev Report := Answer × List String

end Wiring
