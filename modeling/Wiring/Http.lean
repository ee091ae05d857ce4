import Wiring.Instance

/-!
# Requests, Responses and Sessions

The part of a web application that scoped bindings work with. Requests and sessions keep
instances as attributes under their keys; a request may belong to a session; a response has a
status and headers.

## Main statements

* `Request.withParameter`: values of one name are kept in order.
* `Response.header`: the first header of a name, without regard to the case of ASCII letters.
-/

namespace Wiring

/-- Instances kept under their keys. -/
abbrev Attributes := Table Key Instance

/-- Keep `i` under `key` unless an instance is kept there already, and give the kept one. -/
def Attributes.getOrInsert (a : Attributes) (key : Key) (i : Instance) : Instance × Attributes :=
  match a.get? key with
  | some kept => (kept, a)
  | none => (i, a.insert key i)

/-- A request. -/
structure Request where
  /-- The method of the request. -/
  method : String
  /-- The path asked for. -/
  path : String
  /-- The parameters. -/
  parameters : ParameterMap
  /-- The number of the session that the request belongs to, if there is one. -/
  session : Option Nat
  /-- The instances kept for the request. -/
  attributes : Attributes
  deriving Inhabited

namespace Request

/-- A request without parameters and session. -/
def new (method path : String) : Request := ⟨method, path, ∅, none, ∅⟩

/-- The request with one more parameter value. -/
def withParameter (r : Request) (name value : String) : Request :=
  let values := (r.parameters.get? name).getD []
  { r with parameters := r.parameters.insert name (values ++ [value]) }

/-- The first value of a parameter. -/
def parameter (r : Request) (name : String) : Option String :=
  (r.parameters.get? name).bind List.head?

end Request

/-- A response. -/
structure Response where
  /-- The status. -/
  status : UInt16
  /-- The headers in the order in which they were added. -/
  headers : List (String × String)
  deriving Inhabited

namespace Response

/-- A response that says that all is well. -/
def new : Response := ⟨200, []⟩

/-- The response with one more header. -/
def addHeader (r : Response) (name value : String) : Response :=
  { r with headers := r.headers ++ [(name, value)] }

/-- The value of the first header called `name`. -/
def header (r : Response) (name : String) : Option String :=
  (r.headers.find? fun h => h.1.toLower = name.toLower).map Prod.snd

end Response

/-- A session. -/
structure Session where
  /-- The instances kept for the session. -/
  attributes : Attributes
  deriving Inhabited

/-- A session that keeps nothing. -/
def Session.new : Session := ⟨∅⟩

/-- A request and the response to it, by their numbers. -/
structure Exchange where
  /-- The number of the request. -/
  request : Nat
  /-- The number of the response. -/
  response : Nat
  deriving DecidableEq

end Wiring
