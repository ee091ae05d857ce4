import Wiring.Arguments

/-!
# Members and Their Dependencies

A class tells the container what to inject by a table of members: a constructor, fields and
methods of its objects, and static fields and methods. Each member lists its dependencies and
may be optional. What a member does with its arguments is its `Action`: refuse them with an
error, or accept them; an accepted call is then recorded on the object it was made on.

A class that owns a part of another class can take over the members of the part. The lifted
members act on the part; the constructor of the part stays behind.

## Main statements

* `Dependency.justInTime`: a qualified dependency is never constructed just in time.
* `Member.lift`: the members of a part as members of its owner.
* `Member.lift_eq_none_iff`: exactly constructors cannot be lifted.
-/

namespace Wiring

/-! ### Dependencies -/

/-- Something a member asks the container for. -/
structure Dependency where
  /-- The key asked for. -/
  key : Key
  /-- Whether the class of the key may be constructed when the key is not bound. -/
  constructible : Bool
  deriving DecidableEq

namespace Dependency

/-- A dependency that only a binding can satisfy. -/
def ofKey (key : Key) : Dependency := ⟨key, false⟩

/-- A dependency on a type that only a binding can satisfy. -/
def ofTy (ty : Ty) : Dependency := ofKey (.ofTy ty)

/-- A dependency on a class that may be constructed when it is not bound. -/
def injectable (cls : ClassPath) : Dependency := ⟨.ofTy (.component cls), true⟩

/-- The dependency with its qualifier replaced. -/
def qualifiedBy (d : Dependency) (q : Qualifier) : Dependency :=
  { d with key := d.key.qualifiedBy q }

/-- The class a dependency was declared constructible with. -/
def declaredClass (d : Dependency) : Option ClassPath :=
  match d.key.ty with
  | .component cls => if d.constructible then some cls else none
  | _ => none

/-- The class to construct when the key is not bound. A qualified key is only ever satisfied
by its own binding. -/
def justInTime (d : Dependency) : Option ClassPath :=
  if d.key.isQualified then none else d.declaredClass

@[simp] theorem justInTime_injectable (cls : ClassPath) :
    (injectable cls).justInTime = some cls := rfl

@[simp] theorem justInTime_ofKey (key : Key) : (ofKey key).justInTime = none := by
  unfold justInTime declaredClass ofKey
  cases key.ty <;> simp

@[simp] theorem justInTime_qualifiedBy (d : Dependency) (q : Qualifier) :
    (d.qualifiedBy q).justInTime = none := rfl

/-- A class that may be constructed is that of the key. -/
theorem key_eq_of_justInTime {d : Dependency} {cls : ClassPath}
    (h : d.justInTime = some cls) : d.key = .ofTy (.component cls) := by
  obtain ⟨⟨ty, q⟩, constructible⟩ := d
  cases q <;> cases ty <;> cases constructible <;>
    simp_all [justInTime, declaredClass, Key.isQualified, Key.ofTy]

end Dependency

/-- Put `q` on the last dependency of a list. -/
def qualifyLast (q : Qualifier) : List Dependency → List Dependency
  | [] => []
  | [d] => [d.qualifiedBy q]
  | d :: ds => d :: qualifyLast q ds

/-! ### Members -/

/-- What a member does with its arguments: it reads some of them, and then accepts them or
fails. -/
abbrev Action := Arguments → Reading

/-- The action that reads arguments of the types `tys` and then fails with `failure`, if one
is given, or accepts what it read. -/
def Action.reading (tys : List Ty) (failure : Option ConfigurationError) : Action := fun a =>
  let r := a.readAll tys
  { r with error := r.error.or failure }

/-- The two forms of a member that is not a constructor. -/
inductive Form where
  /-- A field that is set. -/
  | field
  /-- A method that is called. -/
  | method
  deriving DecidableEq

/-- What a member belongs to. -/
inductive Role where
  /-- The constructor of a class. -/
  | constructor
  /-- A field or method of an object, or of a part of it that is reached through parts of the
  classes `path`. -/
  | instanceOf (form : Form) (path : List ClassPath)
  /-- A field or method of the class itself. -/
  | static (form : Form)
  deriving DecidableEq

/-- The kinds of members, in the order in which they are injected. -/
inductive MemberKind where
  /-- A constructor. -/
  | constructor
  /-- A field. -/
  | field
  /-- A method. -/
  | method
  deriving DecidableEq

namespace MemberKind

/-- The name of a kind. -/
def name : MemberKind → String
  | constructor => "constructor"
  | field => "field"
  | method => "method"

/-- The name of a kind in detailed output. -/
def title : MemberKind → String
  | constructor => "Constructor"
  | field => "Field"
  | method => "Method"

/-- The place of a kind in the order of injection. -/
def rank : MemberKind → Nat
  | constructor => 0
  | field => 1
  | method => 2

end MemberKind

/-- The kind of a form. -/
def Form.kind : Form → MemberKind
  | field => .field
  | method => .method

/-- The kind of a role. -/
def Role.kind : Role → MemberKind
  | constructor => .constructor
  | instanceOf form _ => form.kind
  | static form => form.kind

/-- A member of a class. -/
structure Member where
  /-- What the member belongs to. -/
  role : Role
  /-- The class that declares the member. -/
  owner : ClassPath
  /-- The name of the member. -/
  name : String
  /-- What the member is to be given, in order. -/
  dependencies : List Dependency
  /-- Whether the member is skipped when a dependency is not available. -/
  optional : Bool
  /-- What the member does with its arguments. -/
  action : Action

namespace Member

/-- The name that constructors go by. -/
def constructorName : String := "<init>"

/-- The kind of a member. -/
def kind (m : Member) : MemberKind := m.role.kind

/-- Whether a member belongs to the class itself. -/
def isStatic (m : Member) : Bool :=
  match m.role with
  | .static _ => true
  | _ => false

/-- Whether a member is a constructor. -/
def isConstructor (m : Member) : Bool :=
  match m.role with
  | .constructor => true
  | _ => false

/-- A constructor of `cls`. -/
def constructor (cls : ClassPath) (action : Action) : Member :=
  ⟨.constructor, cls, constructorName, [], false, action⟩

/-- A method of the objects of `cls`. -/
def method (cls : ClassPath) (name : String) (action : Action) : Member :=
  ⟨.instanceOf .method [], cls, name, [], false, action⟩

/-- A field of the objects of `cls`. Its first dependency is what it holds. -/
def field (cls : ClassPath) (name : String) (content : Dependency) : Member :=
  ⟨.instanceOf .field [], cls, name, [content], false, .reading [content.key.ty] none⟩

/-- A method of the class `cls` itself. -/
def staticMethod (cls : ClassPath) (name : String) (action : Action) : Member :=
  ⟨.static .method, cls, name, [], false, action⟩

/-- A field of the class `cls` itself. Its first dependency is what it holds. -/
def staticField (cls : ClassPath) (name : String) (content : Dependency) : Member :=
  ⟨.static .field, cls, name, [content], false, .reading [content.key.ty] none⟩

/-- The member with further dependencies. -/
def requiring (m : Member) (ds : List Dependency) : Member :=
  { m with dependencies := m.dependencies ++ ds }

/-- The member with its last dependency qualified, if it has one. -/
def qualifiedBy (m : Member) (q : Qualifier) : Member :=
  { m with dependencies := qualifyLast q m.dependencies }

/-- The member, marked as optional or required. -/
def withOptional (m : Member) (optional : Bool) : Member := { m with optional }

/-- A member of a part of class `inner` as a member of the owner of the part. -/
def lift (inner : ClassPath) (m : Member) : Option Member :=
  match m.role with
  | .constructor => none
  | .instanceOf form path => some { m with role := .instanceOf form (inner :: path) }
  | .static _ => some m

/-- Everything but constructors may be lifted. -/
theorem lift_eq_none_iff {inner : ClassPath} {m : Member} :
    m.lift inner = none ↔ m.isConstructor = true := by
  unfold lift isConstructor
  cases m.role <;> simp

/-- A lifted member is of the same kind. -/
theorem kind_of_lift {inner : ClassPath} {m n : Member} (h : m.lift inner = some n) :
    n.kind = m.kind := by
  unfold lift at h
  unfold kind
  split at h <;> simp_all
  · subst h; rfl

/-- A lifted member is static if it was. -/
theorem isStatic_of_lift {inner : ClassPath} {m n : Member} (h : m.lift inner = some n) :
    n.isStatic = m.isStatic := by
  unfold lift at h
  unfold isStatic
  split at h <;> simp_all
  · subst h; rfl

end Member

end Wiring
