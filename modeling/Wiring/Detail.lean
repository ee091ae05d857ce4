import Wiring.Container.Basic

/-!
# Detailed Output

Keys, members, bindings, catalogs and containers written out for those who debug an
application: records with their fields, full type names, and quoted texts.

## Main statements

* `Detail.record`, `Detail.tagged`, `Detail.listed`: how records, tagged values and lists look.
* `Key.detail`, `Member.detail`, `Binding.detail`, `Catalog.detail`, `Container.detail`: what
  the parts of an application look like.
-/

namespace Wiring

namespace Detail

/-- A record with its fields in order. -/
def record (name : String) (fields : List (String × String)) : String :=
  let shown := fields.map fun (field, value) => field ++ ": " ++ value
  name ++ " \x7b " ++ String.intercalate ", " shown ++ " \x7d"

/-- A value in parentheses behind its tag. -/
def tagged (tag value : String) : String := tag ++ "(" ++ value ++ ")"

/-- A list. -/
def listed (items : List String) : String := "[" ++ String.intercalate ", " items ++ "]"

/-- A value that may be absent. -/
def optional : Option String → String
  | some value => tagged "Some" value
  | none => "None"

/-- A truth value. -/
def flag (b : Bool) : String := if b then "true" else "false"

/-- A type by its full name. -/
def typeNamed (fullName : String) : String :=
  record "TypeInfo" [("id", "TypeId(_)"), ("name", Text.quoted fullName)]

/-- A class as something that can be constructed. -/
def descriptor (cls : ClassPath) : String := tagged "TypeDescriptor" (Text.quoted cls)

end Detail

open Detail

/-- A qualifier in detail. -/
def Qualifier.detail : Qualifier → String
  | named name => tagged "Named" (Text.quoted name)
  | marked path => tagged "Annotation" (typeNamed path)

/-- A key in detail. -/
def Key.detail (key : Key) : String :=
  record "Key"
    [("type_info", typeNamed key.ty.fullName),
     ("qualifier", optional (key.qualifier.map Qualifier.detail))]

/-- An instance in detail: its type. -/
def Instance.detail (i : Instance) : String :=
  record "Instance" [("type", Text.quoted i.ty.fullName)]

/-- A dependency in detail. -/
def Dependency.detail (d : Dependency) : String :=
  record "Dependency"
    [("key", d.key.detail), ("just_in_time", optional (d.declaredClass.map descriptor))]

/-- The fields of a member that all its descriptions share. -/
def Member.detailFields (m : Member) : List (String × String) :=
  [("kind", m.kind.title),
   ("name", Text.quoted m.name),
   ("dependencies", listed (m.dependencies.map Dependency.detail)),
   ("optional", flag m.optional)]

/-- A member in detail, as its class declares it. -/
def Member.detail (m : Member) : String := record "MemberDescriptor" m.detailFields

/-- A member in detail, as the container sees it. -/
def Member.rawDetail (m : Member) : String :=
  record "RawMember" (m.detailFields ++ [("static", flag m.isStatic)])

/-- A source in detail. -/
def Source.detail : Source → String
  | given i => tagged "Instance" i.detail
  | .providerType dependency _ _ => record "ProviderType" [("provider", dependency.key.detail)]
  | constructor cls => tagged "Constructor" (descriptor cls)
  | s => s.title

/-- A binding in detail, as it was defined. -/
def Binding.definitionDetail (b : Binding) : String :=
  record "BindingDefinition"
    [("key", b.key.detail), ("source", b.source.detail), ("scope", b.scope.title),
     ("eager", flag b.eager)]

/-- A binding in detail, as it is in force. -/
def Binding.detail (b : Binding) : String :=
  record "Binding"
    [("key", b.key.detail), ("source", Text.quoted b.source.name), ("scope", b.scope.title),
     ("eager", flag b.eager)]

/-- A catalog in detail. -/
def Catalog.detail (c : Catalog) : String :=
  record "TypeCatalog"
    [("type_info", typeNamed c.cls),
     ("constructible", flag c.constructor.isSome),
     ("instance_points", listed (c.instancePoints.map fun m => Text.quoted m.name)),
     ("static_points", toString c.staticPoints.length)]

/-- A configuration in detail. -/
def ContainerConfig.detail (c : ContainerConfig) : String :=
  record "ContainerConfig"
    [("stage", c.stage.title),
     ("eager_singletons", optional (c.eagerSingletons.map flag)),
     ("jit_bindings", flag c.jitBindings)]

/-- The numbers that describe a container, in detail. -/
def ContainerStats.detail (s : ContainerStats) : String :=
  record "ContainerStats"
    [("registered_bindings", toString s.bindings),
     ("singleton_bindings", toString s.singletons),
     ("instantiated_singletons", toString s.created),
     ("static_targets", toString s.staticTargets),
     ("cached_catalogs", toString s.catalogs)]

/-- A container in detail. -/
def Container.detail (c : Container) (m : Memory) : String :=
  record "Container" [("config", c.config.detail), ("stats", (c.stats m).detail)]

end Wiring
