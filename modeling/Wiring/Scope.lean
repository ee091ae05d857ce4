import Wiring.Instance
import Wiring.Text.Quoted

/-!
# Scopes

A scope says how long an instance lives: it is created anew each time, or once for a container,
or an outer context such as the current request decides. A context is reached through an
`Accessor`, which is given the key and a way to create the instance.

## Main statements

* `Scope.lifetime`: the lifetime that a scope stands for.
* `Scope.title`: how detailed output writes a scope.
-/

namespace Wiring

/-- How long an instance lives. -/
inductive Lifetime where
  /-- Every resolution creates an instance. -/
  | unscoped
  /-- One instance lives as long as its container. -/
  | singleton
  /-- An outer context keeps the instance. -/
  | contextual
  deriving DecidableEq, Inhabited

/-- The name of a lifetime. -/
def Lifetime.name : Lifetime → String
  | unscoped => "unscoped"
  | singleton => "singleton"
  | contextual => "contextual"

/-- What the accessor of a named context does while the context is open. -/
inductive AccessRule where
  /-- Create an instance and pass it on. -/
  | pass
  /-- Create two instances, and pass the second on if both could be created. -/
  | twice
  /-- Create nothing and make the value `m` each time. -/
  | replace (m : Making)
  /-- Create an instance, and make the value `m` if that fails. -/
  | fallback (m : Making)
  /-- Give the instance that the context keeps under the key; create and keep one if there is
  none. -/
  | keep

/-- The way to the context that keeps instances. -/
inductive Accessor where
  /-- The current request. -/
  | request
  /-- The session of the current request. -/
  | session
  /-- The context called `name`. -/
  | named (name : String) (rule : AccessRule)

namespace Accessor

/-- The name of the request scope. -/
def requestName : String := "request"

/-- The name of the session scope. -/
def sessionName : String := "session"

/-- The name of the scope that an accessor gives access to. -/
def scopeName : Accessor → String
  | request => requestName
  | session => sessionName
  | named name _ => name

end Accessor

/-- Where instances are kept. -/
inductive Scope where
  /-- They are not kept. -/
  | unscoped
  /-- The container keeps one. -/
  | singleton
  /-- A context keeps them. -/
  | contextual (accessor : Accessor)

namespace Scope

/-- The lifetime that a scope stands for. -/
def lifetime : Scope → Lifetime
  | unscoped => .unscoped
  | singleton => .singleton
  | contextual _ => .contextual

/-- Whether the container keeps one instance. -/
def isSingleton : Scope → Bool
  | singleton => true
  | _ => false

/-- How detailed output writes a scope. -/
def title : Scope → String
  | unscoped => "Unscoped"
  | singleton => "Singleton"
  | contextual accessor => "Contextual(" ++ Text.quoted accessor.scopeName ++ ")"

theorem isSingleton_iff (s : Scope) : s.isSingleton = true ↔ s = .singleton := by
  cases s <;> simp [isSingleton]

end Scope

end Wiring
