import Wiring.Journal

/-!
# Overriding Settings by Variables

Four settings can be changed by variables, for example those of the environment. The name of
such a variable begins with `Variable.nameStart`; other variables are none of our business, and
a variable whose name goes on in an unknown way is only noted in the log. Variables are applied
in order, up to the first whose value cannot be read.

## Main statements

* `BootstrapSettings.override`: the effect of one variable.
* `BootstrapSettings.overrideAll`: the effect of several.
* `BootstrapSettings.overrideAll_append`: applying variables goes on from what was applied.
-/

namespace Wiring

/-- A setting that a variable can change. -/
inductive Variable where
  /-- The stage of the container. -/
  | stage
  /-- The choice about singletons. -/
  | eagerSingletons
  /-- The permission to construct classes that are not bound. -/
  | jitBindings
  /-- The filter directives of the log. -/
  | logLevel
  deriving DecidableEq

namespace Variable

/-- What the names of variables begin with. -/
def nameStart : String := "LORN_INJECT_"

/-- The variable whose name goes on with the given text. -/
def ofRest? : String → Option Variable
  | "STAGE" => some stage
  | "EAGER_SINGLETONS" => some eagerSingletons
  | "JIT_BINDINGS" => some jitBindings
  | "LOG_LEVEL" => some logLevel
  | _ => none

/-- What follows the beginning of the name of a variable, if it begins as it should. -/
def rest? (name : String) : Option String :=
  (nameStart.toList.isPrefixOf? name.toList).map String.ofList

/-- Read a truth value. Blanks around it and the case of ASCII letters do not matter. The error
names the variable, and the value as it was compared. -/
def readFlag (name value : String) : Except String Bool :=
  match (Text.trim value).toLower with
  | "true" | "1" | "yes" | "on" => .ok true
  | "false" | "0" | "no" | "off" => .ok false
  | other => .error (name ++ " 不是有效的布尔值: " ++ other)

end Variable

namespace BootstrapSettings

/-- The settings with another configuration of the container. -/
def withContainer (s : BootstrapSettings) (f : ContainerConfig → ContainerConfig) :
    BootstrapSettings := { s with container := f s.container }

/-- The settings after a variable called `name` was set to `value`, or why this value cannot be
read. -/
def assign (s : BootstrapSettings) (name value : String) :
    Variable → Except String BootstrapSettings
  | .stage => (Stage.parse value).map fun stage => s.withContainer ({ · with stage })
  | .eagerSingletons => (Variable.readFlag name value).map fun b =>
      s.withContainer ({ · with eagerSingletons := some b })
  | .jitBindings => (Variable.readFlag name value).map fun jitBindings =>
      s.withContainer ({ · with jitBindings })
  | .logLevel => .ok { s with logging := { s.logging with level := value } }

/-- What a variable does to the settings, and what is noted about it. -/
def override (s : BootstrapSettings) (name value : String) :
    Except InfrastructureError (BootstrapSettings × List Notice) :=
  match Variable.rest? name with
  | none => .ok (s, [])
  | some rest =>
    match Variable.ofRest? rest with
    | none => .ok (s, [.unknownVariable name])
    | some v =>
      match s.assign name value v with
      | .error message => .error (.configLoad message)
      | .ok s' => .ok (s', [.variableApplied name value])

/-- The outcome of applying variables. -/
structure Overridden where
  /-- The settings as far as they were changed. -/
  settings : BootstrapSettings
  /-- What is noted about the variables that were applied. -/
  notices : List Notice
  /-- What is wrong with the first variable that could not be applied. -/
  error : Option InfrastructureError

/-- Apply variables in order, up to the first whose value cannot be read. -/
def overrideAll (s : BootstrapSettings) : List (String × String) → Overridden
  | [] => ⟨s, [], none⟩
  | (name, value) :: rest =>
    match s.override name value with
    | .error e => ⟨s, [], some e⟩
    | .ok (s', notices) =>
      let after := s'.overrideAll rest
      { after with notices := notices ++ after.notices }

/-- Apply the variables of an environment, in the order of their names. -/
def overrideByEnvironment (s : BootstrapSettings) (environment : List (String × String)) :
    Overridden :=
  s.overrideAll (environment.mergeSort fun a b => !(b.1 < a.1))

@[simp] theorem overrideAll_nil (s : BootstrapSettings) : s.overrideAll [] = ⟨s, [], none⟩ := rfl

theorem overrideAll_append (s : BootstrapSettings) (vs us : List (String × String)) :
    s.overrideAll (vs ++ us) =
      match s.overrideAll vs with
      | ⟨s', notices, some e⟩ => ⟨s', notices, some e⟩
      | ⟨s', notices, none⟩ =>
        { s'.overrideAll us with notices := notices ++ (s'.overrideAll us).notices } := by
  induction vs generalizing s with
  | nil => simp
  | cons v vs ih =>
    obtain ⟨name, value⟩ := v
    rw [List.cons_append, overrideAll, overrideAll]
    rcases s.override name value with e | ⟨s', notices⟩
    · rfl
    · simp only [ih]
      rcases s'.overrideAll vs with ⟨s'', more, _ | e⟩ <;> simp

end BootstrapSettings

end Wiring
