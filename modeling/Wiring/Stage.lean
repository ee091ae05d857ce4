import Wiring.Text.Blank

/-!
# Stages

The stage an application runs in. In production every singleton is created while the container
is built; in development each is created when it is first needed.

## Main statements

* `Stage.parse`: reading a stage from a word, without regard to case and outer blanks.
* `Stage.ofName?_name`: a stage is read back from its name.
-/

namespace Wiring

/-- The stage an application runs in. -/
inductive Stage where
  /-- Singletons are created when needed. -/
  | development
  /-- Singletons are created ahead of time. -/
  | production
  deriving DecidableEq, Inhabited

namespace Stage

/-- The name of a stage in settings. -/
def name : Stage → String
  | development => "development"
  | production => "production"

/-- The name of a stage in detailed output. -/
def title : Stage → String
  | development => "Development"
  | production => "Production"

/-- The stage of a settings name, written exactly. -/
def ofName? : String → Option Stage
  | "development" => some development
  | "production" => some production
  | _ => none

/-- Read a stage from a word. Blanks around it and the case of ASCII letters do not matter, and
both stages have a short form. The error names the word as it was compared. -/
def parse (word : String) : Except String Stage :=
  match (Text.trim word).toLower with
  | "development" => .ok development
  | "dev" => .ok development
  | "production" => .ok production
  | "prod" => .ok production
  | other => .error ("未知的容器阶段: " ++ other)

theorem ofName?_name (s : Stage) : ofName? s.name = some s := by
  cases s <;> rfl

end Stage

end Wiring
