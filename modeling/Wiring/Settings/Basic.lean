import Wiring.Json.Basic
import Wiring.Stage

/-!
# Settings

What can be set about an application: how its container works and how it logs. Both parts have
defaults, and each has presets for development and production.

## Main statements

* `ContainerConfig.eager`: whether singletons are created ahead of time, by an explicit choice
  or else by the stage.
* `BootstrapSettings.toJson`: the settings as they are reported.
-/

namespace Wiring

/-- How a container works. -/
structure ContainerConfig where
  /-- The stage the application runs in. -/
  stage : Stage
  /-- Whether singletons are created ahead of time, if this is not left to the stage. -/
  eagerSingletons : Option Bool
  /-- Whether classes that are not bound may be constructed just in time. -/
  jitBindings : Bool
  deriving DecidableEq

namespace ContainerConfig

/-- The configuration in which nothing is set. -/
def standard : ContainerConfig := ⟨.development, none, true⟩

/-- The configuration for production. -/
def production : ContainerConfig := { standard with stage := .production }

/-- Whether singletons are created ahead of time. -/
def eager (c : ContainerConfig) : Bool := c.eagerSingletons.getD (c.stage = .production)

/-- The configuration as it is reported. -/
def toJson (c : ContainerConfig) : Json :=
  .ofFields
    [("eager_singletons", match c.eagerSingletons with | some b => .bool b | none => .null),
     ("jit_bindings", .bool c.jitBindings),
     ("stage", .str c.stage.name)]

end ContainerConfig

/-- How an application logs. -/
structure LoggingConfig where
  /-- The filter directives that say what is logged. -/
  level : String
  /-- Whether a line names the module it comes from. -/
  showTarget : Bool
  /-- Whether a line names the thread. -/
  showThreadIds : Bool
  /-- Whether a line names the source file. -/
  showFile : Bool
  /-- Whether a line names the source line. -/
  showLineNumber : Bool
  /-- Whether lines are written as JSON. -/
  jsonFormat : Bool
  deriving DecidableEq

namespace LoggingConfig

/-- The configuration in which nothing is set. -/
def standard : LoggingConfig := ⟨"info", true, false, false, false, false⟩

/-- The configuration for development: everything is shown. -/
def development : LoggingConfig := ⟨"debug", true, true, true, true, false⟩

/-- The configuration for production: few details, as JSON. -/
def production : LoggingConfig := ⟨"info", false, false, false, false, true⟩

/-- The configuration as it is reported. -/
def toJson (c : LoggingConfig) : Json :=
  .ofFields
    [("json_format", .bool c.jsonFormat),
     ("level", .str c.level),
     ("show_file", .bool c.showFile),
     ("show_line_number", .bool c.showLineNumber),
     ("show_target", .bool c.showTarget),
     ("show_thread_ids", .bool c.showThreadIds)]

end LoggingConfig

/-- Everything that can be set about an application. -/
structure BootstrapSettings where
  /-- How its container works. -/
  container : ContainerConfig
  /-- How it logs. -/
  logging : LoggingConfig
  deriving DecidableEq

namespace BootstrapSettings

/-- The settings in which nothing is set. -/
def standard : BootstrapSettings := ⟨.standard, .standard⟩

/-- The settings as they are reported. -/
def toJson (s : BootstrapSettings) : Json :=
  .ofFields [("container", s.container.toJson), ("logging", s.logging.toJson)]

/-- The settings as they are reported, together with the choice about singletons that follows
from them. -/
def report (s : BootstrapSettings) : Json :=
  .ofFields [("eager", .bool s.container.eager), ("settings", s.toJson)]

end BootstrapSettings

end Wiring
