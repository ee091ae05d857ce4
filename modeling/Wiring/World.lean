import Wiring.Http
import Wiring.Journal

/-!
# The World of a Container

Containers act on things that outlive them: objects and services, named contexts, requests,
responses and sessions. The `World` holds their state, the requests that are being handled and
the journal. Containers share one world.

## Conventions

Things are numbered by their place in the list of their kind, so a new thing always gets a
number that no other has. An object's state is the history of the calls that its members
accepted; its parts are made when a lifted member is first injected into them.

## Main statements

* `World.make`: making a value of any type for a given label.
* `World.partAlong`: the part of an object that a lifted member acts on.
* `World.sessionOf`: the session of a request, which is created when it is first asked for.
-/

namespace Wiring

/-- The state of an object. -/
structure Object where
  /-- The class of the object. -/
  cls : ClassPath
  /-- The calls that its members accepted, in order. -/
  history : List Call
  /-- The numbers of its parts, by their classes. -/
  parts : Table ClassPath Nat
  /-- How many times the object was called as a provider. -/
  supplied : Nat

/-- A thing with an identity. -/
inductive Thing where
  /-- An object. -/
  | object (o : Object)
  /-- A service; it has no state. -/
  | service

/-- A named context that keeps instances while it is open. -/
structure Context where
  /-- Whether the context may be used. -/
  isOpen : Bool
  /-- The instances kept. -/
  kept : Attributes

/-- A context as it is at first: open, and keeping nothing. -/
def Context.new : Context := ⟨true, ∅⟩

/-- Everything that containers act on. -/
structure World where
  /-- The objects and services, in the order in which they came to be. -/
  things : Array Thing
  /-- How many instances have been wrapped. -/
  wrapped : Nat
  /-- The named contexts that have been used. -/
  contexts : Table String Context
  /-- The requests. -/
  requests : Array Request
  /-- The responses. -/
  responses : Array Response
  /-- The sessions. -/
  sessions : Array Session
  /-- The requests that are being handled, the innermost first. -/
  current : List Exchange
  /-- What happened, in order. -/
  journal : Array Event

namespace World

/-- The world in which nothing has happened. -/
def new : World := ⟨#[], 0, ∅, #[], #[], #[], [], #[]⟩

/-! ### Journal and instances -/

/-- Enter an event in the journal. -/
def emit (w : World) (e : Event) : World := { w with journal := w.journal.push e }

/-- Write a notice to the log. -/
def log (w : World) (n : Notice) : World := w.emit (.logged n)

/-- Wrap a value. -/
def wrap (w : World) (v : Value) : Instance × World :=
  (⟨w.wrapped, v⟩, { w with wrapped := w.wrapped + 1 })

/-! ### Objects -/

/-- The state of an object, if the number is that of an object. -/
def object? (w : World) (id : Nat) : Option Object :=
  match w.things[id]? with
  | some (.object o) => some o
  | _ => none

/-- Change the state of an object. -/
def modifyObject (w : World) (id : Nat) (f : Object → Object) : World :=
  { w with
    things := w.things.modify id fun
      | .object o => .object (f o)
      | .service => .service }

/-- Add an object of class `cls` with the given history. -/
def addObject (w : World) (cls : ClassPath) (history : List Call) (parts : Table ClassPath Nat) :
    Nat × World :=
  (w.things.size, { w with things := w.things.push (.object ⟨cls, history, parts, 0⟩) })

/-- Make an object of class `cls` that no member has been injected into. -/
def makeObject (w : World) (cls : ClassPath) : Nat × World :=
  let (id, w) := w.addObject cls [] ∅
  (id, w.emit (.objectMade cls id))

/-- Make a service known as `label`. -/
def makeService (w : World) (label : String) : Nat × World :=
  let id := w.things.size
  (id, { w with things := w.things.push .service }.emit (.serviceMade label id))

/-- Record a call that a member of an object accepted. -/
def record (w : World) (id : Nat) (call : Call) : World :=
  w.modifyObject id fun o => { o with history := o.history ++ [call] }

/-- The part of class `cls` of an object, which is made if the object does not have it yet. -/
def partOf (w : World) (id : Nat) (cls : ClassPath) : Nat × World :=
  match (w.object? id).bind (·.parts.get? cls) with
  | some part => (part, w)
  | none =>
    let (part, w) := w.makeObject cls
    (part, w.modifyObject id fun o => { o with parts := o.parts.insert cls part })

/-- The part reached from an object through parts of the classes `path`. -/
def partAlong (w : World) (id : Nat) : List ClassPath → Nat × World
  | [] => (id, w)
  | cls :: path =>
    let (part, w) := w.partOf id cls
    w.partAlong part path

/-- Count a call of an object as a provider, and give the number of earlier calls. -/
def countSupply (w : World) (id : Nat) : Nat × World :=
  (((w.object? id).map Object.supplied).getD 0,
    w.modifyObject id fun o => { o with supplied := o.supplied + 1 })

/-! ### Requests, responses and sessions -/

/-- The request with a given number. -/
def request (w : World) (id : Nat) : Request := (w.requests[id]?).getD default

/-- The response with a given number. -/
def response (w : World) (id : Nat) : Response := (w.responses[id]?).getD default

/-- The session with a given number. -/
def session (w : World) (id : Nat) : Session := (w.sessions[id]?).getD default

/-- Add a request. -/
def addRequest (w : World) (r : Request) : Nat × World :=
  (w.requests.size, { w with requests := w.requests.push r })

/-- Add a response. -/
def addResponse (w : World) (r : Response) : Nat × World :=
  (w.responses.size, { w with responses := w.responses.push r })

/-- Add a session. -/
def addSession (w : World) : Nat × World :=
  (w.sessions.size, { w with sessions := w.sessions.push .new })

/-- Change a request. -/
def modifyRequest (w : World) (id : Nat) (f : Request → Request) : World :=
  { w with requests := w.requests.modify id f }

/-- Change a response. -/
def modifyResponse (w : World) (id : Nat) (f : Response → Response) : World :=
  { w with responses := w.responses.modify id f }

/-- Change a session. -/
def modifySession (w : World) (id : Nat) (f : Session → Session) : World :=
  { w with sessions := w.sessions.modify id f }

/-- The request that is being handled, with its response. -/
def currentExchange? (w : World) : Option Exchange := w.current.head?

/-- Begin to handle a request. -/
def enter (w : World) (e : Exchange) : World :=
  let r := w.request e.request
  let w := w.log (.enteringRequest r.method r.path)
  { w with current := e :: w.current }

/-- Stop handling the innermost request. -/
def leave (w : World) : World := { w with current := w.current.tail }

/-- The session of a request. A request that belongs to no session gets a new one. -/
def sessionOf (w : World) (request : Nat) : Nat × World :=
  match (w.request request).session with
  | some id => (id, w)
  | none =>
    let (id, w) := w.addSession
    (id, (w.modifyRequest request fun r => { r with session := some id }).log .sessionCreated)

/-- Where instances are kept between resolutions: for a request or for a session. -/
inductive Keeper where
  /-- A request. -/
  | request (id : Nat)
  /-- A session. -/
  | session (id : Nat)
  deriving DecidableEq

/-- The instances kept. -/
def attributes (w : World) : Keeper → Attributes
  | .request id => (w.request id).attributes
  | .session id => (w.session id).attributes

/-- Change the instances kept. -/
def modifyAttributes (w : World) (k : Keeper) (f : Attributes → Attributes) : World :=
  match k with
  | .request id => w.modifyRequest id fun r => { r with attributes := f r.attributes }
  | .session id => w.modifySession id fun s => { s with attributes := f s.attributes }

/-- Keep `i` under `key`, whatever was kept there. -/
def setAttribute (w : World) (k : Keeper) (key : Key) (i : Instance) : World :=
  w.modifyAttributes k (·.insert key i)

/-- Keep `i` under `key` unless an instance is kept there already, and give the kept one. -/
def attributeOrInsert (w : World) (k : Keeper) (key : Key) (i : Instance) : Instance × World :=
  let (kept, attributes) := (w.attributes k).getOrInsert key i
  (kept, w.modifyAttributes k fun _ => attributes)

/-! ### Contexts -/

/-- A named context. -/
def context (w : World) (name : String) : Context := (w.contexts.get? name).getD .new

/-- Open or close a context. Either way it keeps nothing afterwards. -/
def setContext (w : World) (name : String) (isOpen : Bool) : World :=
  { w with contexts := w.contexts.insert name ⟨isOpen, ∅⟩ }

/-- Keep `i` in a context. -/
def keepInContext (w : World) (name : String) (key : Key) (i : Instance) : World :=
  let c := w.context name
  { w with contexts := w.contexts.insert name { c with kept := c.kept.insert key i } }

/-! ### Values -/

/-- What a value looks like now. -/
def glimpse (w : World) : Value → Glimpse
  | .object cls id => .object cls id
  | .service iface label id => .service iface label id
  | .text s => .text s
  | .number n => .number n
  | .request id => let r := w.request id; .request r.method r.path
  | .response id => .response (w.response id).status
  | .session id => .session id
  | .parameters map => .parameters map

/-- A call with its arguments as they look now. -/
def call (w : World) (member : String) (arguments : List Instance) : Call :=
  ⟨member, arguments.map fun i => w.glimpse i.value⟩

/-- The number that the digits at the end of a label stand for, or zero if there are none or
they stand for more than 64 bits hold. -/
def trailingNumber (label : String) : UInt64 :=
  let digits := (label.toList.reverse.takeWhile Char.isDigit).reverse
  let n := digits.foldl (fun n c => 10 * n + (c.toNat - '0'.toNat)) 0
  if n < UInt64.size then UInt64.ofNat n else 0

/-- Make a value of type `ty` from a label. -/
def make (w : World) (ty : Ty) (label : String) : Value × World :=
  match ty with
  | .component cls => let (id, w) := w.makeObject cls; (.object cls id, w)
  | .interface iface => let (id, w) := w.makeService label; (.service iface label id, w)
  | .text => (.text label, w)
  | .number => (.number (trailingNumber label), w)
  | .request => let (id, w) := w.addRequest (.new "MADE" label); (.request id, w)
  | .response => let (id, w) := w.addResponse .new; (.response id, w)
  | .session => let (id, w) := w.addSession; (.session id, w)
  | .parameters => (.parameters (.ofList [("made", [label])]), w)

/-- Make and wrap a value of type `ty` from a label. -/
def makeInstance (w : World) (ty : Ty) (label : String) : Instance × World :=
  let (v, w) := w.make ty label
  w.wrap v

/-- Make and wrap the value that `m` describes. -/
def makeBy (w : World) (m : Making) : Instance × World := w.makeInstance m.ty m.label

theorem ty_make (w : World) (ty : Ty) (label : String) : (w.make ty label).1.ty = ty := by
  cases ty <;> rfl

theorem ty_makeInstance (w : World) (ty : Ty) (label : String) :
    (w.makeInstance ty label).1.ty = ty := ty_make w ty label

end World

end Wiring
