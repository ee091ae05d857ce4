import Wiring.Document
import Wiring.Settings.Basic

/-!
# Settings from Documents

The settings that the content of a settings file stands for. What the file does not mention has
its default; what it mentions must be of the right kind; other entries are left alone. The
formats of settings files differ in small ways, which a `FileFormat` lists.

## Main statements

* `BootstrapSettings.ofDocument?`: the settings of a document.
* `BootstrapSettings.ofDocument?_empty`: a file that mentions nothing leaves the defaults.
-/

namespace Wiring

/-- How settings are written in files of a format. -/
structure FileFormat where
  /-- Whether a record that is written as a list may have surplus items. -/
  surplus : Bool
  /-- Whether a value says that there is nothing to say. -/
  isUnit : Document → Bool

namespace FileFormat

/-- Settings in TOML: a list may be too long, and an empty table or list says nothing. -/
def toml : FileFormat where
  surplus := true
  isUnit
    | .table [] | .list [] => true
    | _ => false

/-- Settings in JSON: a list may not be too long, and the null value says nothing. -/
def json : FileFormat where
  surplus := false
  isUnit
    | .null => true
    | _ => false

end FileFormat

/-- What `read` makes of a value, or `standard` if there is none. -/
def valueOr {α : Type} (standard : α) (read : Document → Option α) : Option Document → Option α
  | none => some standard
  | some d => read d

/-- A truth value. -/
def Document.flag? : Document → Option Bool
  | flag b => some b
  | _ => none

/-- A truth value, or none. -/
def Document.optionalFlag? : Document → Option (Option Bool)
  | null => some none
  | d => d.flag?.map some

/-- A text. -/
def Document.text? : Document → Option String
  | text s => s
  | _ => none

/-- A stage: its name, or the name with nothing to say about it. -/
def Stage.ofDocument? (format : FileFormat) : Document → Option Stage
  | .text s => s.bind Stage.ofName?
  | .table [(name, d)] => if format.isUnit d then name.bind Stage.ofName? else none
  | _ => none

/-- The configuration of a container. -/
def ContainerConfig.ofDocument? (format : FileFormat) (d : Document) :
    Option ContainerConfig := do
  let fields ← d.record? format.surplus ["stage", "eager_singletons", "jit_bindings"]
  return {
    stage := ← valueOr standard.stage (Stage.ofDocument? format) (fields.get? "stage")
    eagerSingletons :=
      ← valueOr standard.eagerSingletons Document.optionalFlag? (fields.get? "eager_singletons")
    jitBindings := ← valueOr standard.jitBindings Document.flag? (fields.get? "jit_bindings") }

/-- The configuration of the log. -/
def LoggingConfig.ofDocument? (format : FileFormat) (d : Document) : Option LoggingConfig := do
  let fields ← d.record? format.surplus
    ["level", "show_target", "show_thread_ids", "show_file", "show_line_number", "json_format"]
  let flag (name : String) (standard : Bool) : Option Bool :=
    valueOr standard Document.flag? (fields.get? name)
  return {
    level := ← valueOr standard.level Document.text? (fields.get? "level")
    showTarget := ← flag "show_target" standard.showTarget
    showThreadIds := ← flag "show_thread_ids" standard.showThreadIds
    showFile := ← flag "show_file" standard.showFile
    showLineNumber := ← flag "show_line_number" standard.showLineNumber
    jsonFormat := ← flag "json_format" standard.jsonFormat }

/-- The settings that a document stands for. -/
def BootstrapSettings.ofDocument? (format : FileFormat) (d : Document) :
    Option BootstrapSettings := do
  let fields ← d.record? format.surplus ["container", "logging"]
  return {
    container :=
      ← valueOr standard.container (ContainerConfig.ofDocument? format) (fields.get? "container")
    logging :=
      ← valueOr standard.logging (LoggingConfig.ofDocument? format) (fields.get? "logging") }

theorem BootstrapSettings.ofDocument?_empty (format : FileFormat) :
    ofDocument? format (.table []) = some standard := rfl

end Wiring
