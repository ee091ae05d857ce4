import Wiring.Settings.File
import Wiring.Settings.Override

/-!
# Sources of Settings

Settings come from a file, or have their defaults without one; then variables are applied, and
then those of the environment. A file that cannot be loaded leaves no settings; a variable that
cannot be applied leaves the settings as far as they were changed.

## Main statements

* `BootstrapSettings.ofSources`: the settings of some sources.
* `Overridden.andThen_settings`: what comes after an error is not applied.
-/

namespace Wiring.BootstrapSettings

/-- Go on changing settings, unless there was an error. -/
def Overridden.andThen (o : Overridden) (f : BootstrapSettings → Overridden) : Overridden :=
  match o.error with
  | some _ => o
  | none => { f o.settings with notices := o.notices ++ (f o.settings).notices }

/-- The settings in a file, if there is one, or the defaults. -/
def ofFile? : Option SettingsFile → Except InfrastructureError Overridden
  | none => .ok ⟨standard, [], none⟩
  | some f => f.load.map fun settings => ⟨settings, [f.loadedNotice], none⟩

/-- The settings in a file, if there is one, after variables and then the environment, if there
is one, were applied. -/
def ofSources (file : Option SettingsFile) (changes : List (String × String))
    (environment : Option (List (String × String))) : Except InfrastructureError Overridden :=
  (ofFile? file).map fun loaded =>
    let changed := loaded.andThen fun s => s.overrideAll changes
    match environment with
    | none => changed
    | some environment => changed.andThen fun s => s.overrideByEnvironment environment

theorem Overridden.andThen_settings {o : Overridden} {e : InfrastructureError}
    (f : BootstrapSettings → Overridden) (h : o.error = some e) : o.andThen f = o := by
  simp [andThen, h]

end Wiring.BootstrapSettings
