import Wiring.Member
import Wiring.Scope

/-!
# Bindings

A binding says for a key where its instances come from and where they are kept. The instance
may be given, supplied by a provider, or constructed by a class; a given object or provider can
also be deferred, which means that its own members are injected first, once, when the container
is built or when something needs the binding before that.

## Main statements

* `Source.name`, `Source.title`: how messages and detailed output write a source.
* `Source.isDeferred`: whether a source waits for the injection of its members.
-/

namespace Wiring

/-- The objects that belong to the current request. -/
inductive RequestPart where
  /-- The request itself. -/
  | request
  /-- The response to it. -/
  | response
  /-- Its session. -/
  | session
  /-- Its parameters. -/
  | parameters
  deriving DecidableEq

namespace RequestPart

/-- The path of the marker that qualifies the key of the request parameters. -/
def parametersMarker : String := "web_scopes::http::RequestParameters"

/-- The key that a part is bound under. -/
def key : RequestPart → Key
  | request => .ofTy .request
  | response => .ofTy .response
  | session => .ofTy .session
  | parameters => Key.qualifiedBy (.ofTy .parameters) (.marked parametersMarker)

end RequestPart

/-- The failures of a provider that fails with `e`, in its first `limit` calls or in all. -/
def failing (e : ConfigurationError) (limit : Option Nat) (n : Nat) :
    Option ConfigurationError :=
  if limit.all (n < ·) then some e else none

/-- The outcomes of calls whose values are numbered: the `n`-th call comes to a value made for
`label/n`, or it fails if `failure n` is an error. -/
def numbered (label : String) (failure : Nat → Option ConfigurationError) (n : Nat) :
    Except ConfigurationError String :=
  match failure n with
  | some e => .error e
  | none => .ok (label ++ "/" ++ toString n)

/-- A provider that needs no injection. -/
inductive Provider where
  /-- A provider of new values of type `ty`, known as `label`; its `n`-th call comes to a value made
  for the label `outcome n`, or to an error. -/
  | calls (ty : Ty) (label : String) (outcome : Nat → Except ConfigurationError String)
  /-- The provider of a part of the current request. -/
  | current (part : RequestPart)

/-- A provider of new values that are numbered. -/
def Provider.fresh (ty : Ty) (label : String) (failure : Nat → Option ConfigurationError) :
    Provider := .calls ty label (numbered label failure)

/-- The type of what a provider supplies. -/
def Provider.ty : Provider → Ty
  | calls ty _ _ => ty
  | current part => part.key.ty

/-- The object whose members are injected for a deferred binding. -/
inductive Subject where
  /-- The object numbered `id`, of class `cls`. -/
  | existing (cls : ClassPath) (id : Nat)
  /-- An object of class `cls` that is made when the binding is first needed. -/
  | new (cls : ClassPath)
  deriving DecidableEq

/-- The class of a subject. -/
def Subject.cls : Subject → ClassPath
  | existing cls _ => cls
  | new cls => cls

/-- What has to be done before a deferred binding can be used. -/
structure Deferral where
  /-- The object to inject. -/
  subject : Subject
  /-- How many times its members are injected. -/
  rounds : Nat
  /-- Whether a failed injection is passed over. -/
  forgiving : Bool
  deriving DecidableEq

/-- The injection of an object, once, with its errors reported. -/
def Deferral.once (cls : ClassPath) (id : Nat) : Deferral := ⟨.existing cls id, 1, false⟩

/-- Where the instances of a binding come from. -/
inductive Source where
  /-- The instance is given. -/
  | given (i : Instance)
  /-- The instance is an object whose members are injected first. -/
  | injected (d : Deferral)
  /-- A provider supplies the instance. -/
  | provider (p : Provider)
  /-- An object whose members are injected first supplies instances of type `supplied`. -/
  | injectedProvider (d : Deferral) (supplied : Ty)
  /-- An object of class `cls`, which the container is asked for, supplies an instance of type
  `supplied`. -/
  | providerType (provider : Dependency) (cls : ClassPath) (supplied : Ty)
  /-- The class constructs the instance. -/
  | constructor (cls : ClassPath)

namespace Source

/-- How messages write a source. -/
def name : Source → String
  | given _ => "instance"
  | injected _ => "injected-instance"
  | provider _ => "provider"
  | injectedProvider .. => "injected-provider"
  | providerType .. => "provider-type"
  | constructor _ => "constructor"

/-- How detailed output writes a source. -/
def title : Source → String
  | given _ => "Instance"
  | injected _ => "InjectedInstance"
  | provider _ => "Provider"
  | injectedProvider .. => "InjectedProvider"
  | providerType .. => "ProviderType"
  | constructor _ => "Constructor"

/-- What has to be done before the source can be used, if anything. -/
def deferral : Source → Option Deferral
  | injected d => some d
  | injectedProvider d _ => some d
  | _ => none

/-- Whether a source waits for the injection of its members. -/
def isDeferred (s : Source) : Bool := s.deferral.isSome

end Source

/-- For a key, where its instances come from and where they are kept. -/
structure Binding where
  /-- The key. -/
  key : Key
  /-- Where instances come from. -/
  source : Source
  /-- Where instances are kept. -/
  scope : Scope
  /-- Whether a singleton is to be created when the container is built. -/
  eager : Bool

end Wiring
