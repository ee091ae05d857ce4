import Wiring.Container.Builder
import Wiring.LogFilter
import Wiring.Settings.File
import Wiring.Settings.Override

/-!
# Starting an Application

An application is started in a fixed order: settings are read from a file and overridden by
variables, logging is set up, modules are installed and the container is built. Settings that
cannot be read end the start; logging that cannot be set up is only noted in the log.

## Main statements

* `Launch.readFile`, `Launch.readEnvironment`: where settings come from.
* `Launch.notices`: what is noted before the container is built.
* `Launch.build`: the container of an application.
-/

namespace Wiring

/-- The start of an application, before its container is built. -/
structure Launch where
  /-- The settings. -/
  settings : BootstrapSettings
  /-- Whether logging is to be set up. -/
  logs : Bool
  /-- The modules to install, in order. -/
  modules : List (List Statement)

namespace Launch

/-- The start with given settings, without logging and modules. -/
def ofSettings (settings : BootstrapSettings) : Launch := ⟨settings, false, []⟩

/-- Take the settings from a file. -/
def readFile (l : Launch) (f : SettingsFile) (w : World) :
    Except InfrastructureError Launch × World :=
  match f.load with
  | .error e => (.error e, w)
  | .ok settings => (.ok { l with settings }, w.log f.loadedNotice)

/-- Override the settings by the variables of an environment. -/
def readEnvironment (l : Launch) (environment : List (String × String)) (w : World) :
    Except InfrastructureError Launch × World :=
  let o := l.settings.overrideByEnvironment environment
  let w := o.notices.foldl World.log w
  match o.error with
  | some e => (.error e, w)
  | none => (.ok { l with settings := o.settings }, w)

/-- Set up logging as the settings say. -/
def enableLogging (l : Launch) : Launch := { l with logs := true }

/-- Set up logging in a given way. -/
def withLogging (l : Launch) (logging : LoggingConfig) : Launch :=
  { l with settings := { l.settings with logging }, logs := true }

/-- Install modules in order, behind those installed before. -/
def install (l : Launch) (modules : List (List Statement)) : Launch :=
  { l with modules := l.modules ++ modules }

/-- What is noted about setting up the log. -/
def setupNotice (l : Launch) (refusal : Option String) : Notice :=
  match l.settings.logging.setUp refusal with
  | .error e => .loggingFailed e
  | .ok () => .loggingReady

/-- What is noted before the container is built. -/
def notices (l : Launch) (refusal : Option String) : List Notice :=
  (if l.logs then [l.setupNotice refusal] else []) ++
    [.starting l.settings.container.stage l.modules.length]

/-- Build the container of the application. The log may be refused for some reason. -/
def build (l : Launch) (refusal : Option String) (classes : ClassTable) (w : World) :
    BuildResult InfrastructureError :=
  let w := (l.notices refusal).foldl World.log w
  let (b, w) := (Builder.ofConfig l.settings.container).installAll l.modules w
  (b.build classes w).map fun
    | (.error e, w) => (.error (.configuration e), w)
    | (.ok c, w) => (.ok c, w.log .started)

end Launch

end Wiring
