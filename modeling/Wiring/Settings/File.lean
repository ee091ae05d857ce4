import Wiring.Json.Reader
import Wiring.Journal
import Wiring.Settings.Reader
import Wiring.Toml.Reader

/-!
# Settings Files

A settings file is read in three steps: its text, its format, which the ending of its name
tells, and its content. Each step has its error, and the first one that fails counts.

## Main statements

* `SettingsFile.format`: the format that the ending of a name stands for.
* `SettingsFile.load`: the settings in a file.
-/

namespace Wiring

/-- A settings file. -/
structure SettingsFile where
  /-- The name of the file. -/
  name : String
  /-- The bytes in it, if the file exists. -/
  bytes : Option ByteArray

/-- The formats of settings files. -/
inductive SettingsFormat where
  /-- TOML. -/
  | toml
  /-- JSON. -/
  | json
  deriving DecidableEq

namespace SettingsFormat

/-- The name of a format in messages. -/
def name : SettingsFormat → String
  | toml => "TOML"
  | json => "JSON"

/-- The settings that a text in some format stands for. -/
def read? (text : String) : SettingsFormat → Option BootstrapSettings
  | toml => (Toml.ofText? text).bind (BootstrapSettings.ofDocument? .toml)
  | json => (Json.ofText? text).bind fun v => BootstrapSettings.ofDocument? .json v.toDocument

end SettingsFormat

namespace SettingsFile

/-- The text in a file, if the file exists and holds text. -/
def text? (f : SettingsFile) : Option String := f.bytes.bind String.fromUTF8?

/-- The last part of a name between slashes, in which the place itself, written as a dot, does
not count. It is empty if there is none. -/
def lastPart (name : String) : List Char :=
  let parts := (name.toList.splitOn '/').filter fun part => part ≠ [] ∧ part ≠ ['.']
  parts.getLast?.getD []

/-- The ending of a name: what follows the last dot of its last part. A dot that begins the part
does not begin an ending, and neither does one of the two that stand for the place above. -/
def ending (name : String) : String :=
  let part := lastPart name
  let last := part.reverse.takeWhile (· ≠ '.')
  if part = ['.', '.'] ∨ part.length ≤ last.length + 1 then "" else String.ofList last.reverse

/-- The format that the ending of a name stands for. -/
def format : String → Option SettingsFormat
  | "toml" => some .toml
  | "json" => some .json
  | _ => none

/-- The settings in a file, or why there are none. -/
def load (f : SettingsFile) : Except InfrastructureError BootstrapSettings :=
  match f.text? with
  | none => .error (.configLoad ("无法读取配置文件 " ++ f.name))
  | some text =>
    match format (ending f.name) with
    | none =>
      .error (.configLoad ("不支持的配置文件格式 '" ++ ending f.name ++ "': " ++ f.name))
    | some format =>
      match format.read? text with
      | none => .error (.configLoad (format.name ++ " 配置解析失败 " ++ f.name))
      | some settings => .ok settings

/-- What is noted when a file was loaded. -/
def loadedNotice (f : SettingsFile) : Notice := .settingsLoaded f.name

end SettingsFile

end Wiring
