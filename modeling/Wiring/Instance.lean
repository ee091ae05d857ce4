import Wiring.Error
import Wiring.Key
import Wiring.Table

/-!
# Instances

A `Value` is what gets injected. Objects, services and the objects of a web request are
referred to by number; their state is kept elsewhere. An `Instance` is a value that was handed
to the container: it carries the number of that occasion, so that two instances are the same
exactly when they stem from one wrapping, even when they hold equal texts.

## Main statements

* `Instance.cast`: using an instance as a value of a given type.
* `Instance.cast_eq_ok_iff`: it succeeds exactly at the type of the value.
-/

namespace Wiring

/-- Request parameters: each name with its values, in the order they came in. -/
abbrev ParameterMap := Table String (List String)

/-- An injected value. -/
inductive Value where
  /-- The object numbered `id`, of class `cls`. -/
  | object (cls : ClassPath) (id : Nat)
  /-- The service numbered `id`, an implementation of `iface` that is known as `label`. -/
  | service (iface : InterfacePath) (label : String) (id : Nat)
  /-- A text. -/
  | text (s : String)
  /-- A number of 64 bits. -/
  | number (n : UInt64)
  /-- The request numbered `id`. -/
  | request (id : Nat)
  /-- The response numbered `id`. -/
  | response (id : Nat)
  /-- The session numbered `id`. -/
  | session (id : Nat)
  /-- The parameters of a request. -/
  | parameters (map : ParameterMap)
  deriving DecidableEq

/-- The type of a value. -/
def Value.ty : Value → Ty
  | object cls _ => .component cls
  | service iface _ _ => .interface iface
  | text _ => .text
  | number _ => .number
  | request _ => .request
  | response _ => .response
  | session _ => .session
  | parameters _ => .parameters

/-- A value to make: its type and the label to make it from. -/
structure Making where
  /-- The type. -/
  ty : Ty
  /-- The label. -/
  label : String
  deriving DecidableEq

/-- A value together with the occasion on which it was wrapped. -/
structure Instance where
  /-- The number of the wrapping. -/
  address : Nat
  /-- The wrapped value. -/
  value : Value
  deriving DecidableEq

namespace Instance

/-- The type of the wrapped value. -/
def ty (i : Instance) : Ty := i.value.ty

/-- Whether the wrapped value is of type `ty`. -/
def is (i : Instance) (ty : Ty) : Bool := i.ty = ty

/-- Whether two instances stem from one wrapping. -/
def same (i j : Instance) : Bool := i.address = j.address

/-- Use an instance as one of type `ty`. -/
def cast (i : Instance) (ty : Ty) : Except ConfigurationError Instance :=
  if i.ty = ty then .ok i else .error (.typeMismatch ty.name i.ty.name)

theorem cast_self (i : Instance) : i.cast i.ty = .ok i := by simp [cast]

theorem cast_eq_ok_iff {i j : Instance} {ty : Ty} : i.cast ty = .ok j ↔ i.ty = ty ∧ j = i := by
  unfold cast
  split <;> simp_all [eq_comm]

end Instance

end Wiring
