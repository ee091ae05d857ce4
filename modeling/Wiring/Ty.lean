import Wiring.TypeName

/-!
# Types of Injected Values

The types a binding can be made for: injectable classes, interfaces, texts, numbers and the
objects of a web request. A class and an interface are known by the path of their declaration.

## Main statements

* `Ty.fullName`: the name with its path, for detailed output.
* `Ty.name`: the short name, for messages.
-/

namespace Wiring

/-- The path under which a class is declared. -/
abbrev ClassPath := String

/-- The path under which an interface is declared. -/
abbrev InterfacePath := String

/-- The type of an injected value. -/
inductive Ty where
  /-- An injectable class. -/
  | component (path : ClassPath)
  /-- An interface, which has implementations but cannot be constructed. -/
  | interface (path : InterfacePath)
  /-- A text. -/
  | text
  /-- A number of 64 bits. -/
  | number
  /-- The current request. -/
  | request
  /-- The response to the current request. -/
  | response
  /-- The session of the current request. -/
  | session
  /-- The parameters of the current request. -/
  | parameters
  deriving DecidableEq, Inhabited

namespace Ty

/-- The name of a type with its path. -/
def fullName : Ty → String
  | component path => path
  | interface path => "dyn " ++ path
  | text => "alloc::string::String"
  | number => "u64"
  | request => "web_scopes::http::HttpRequest"
  | response => "web_scopes::http::HttpResponse"
  | session => "web_scopes::http::HttpSession"
  | parameters =>
    "std::collections::hash::map::HashMap<alloc::string::String, " ++
      "alloc::vec::Vec<alloc::string::String>>"

/-- The name of a type without its path. -/
def name (ty : Ty) : String := TypeName.short ty.fullName

end Ty

/-- A type together with the name it is shown under. -/
structure NamedType where
  /-- The type itself. -/
  ty : Ty
  /-- The name with its path. -/
  fullName : String

namespace NamedType

/-- A type under its own name. -/
def ofTy (ty : Ty) : NamedType := ⟨ty, ty.fullName⟩

/-- The name without its path. -/
def name (t : NamedType) : String := TypeName.short t.fullName

/-- Two named types are the same when their types are: the name is for display only. -/
def same (a b : NamedType) : Bool := a.ty = b.ty

end NamedType

end Wiring
