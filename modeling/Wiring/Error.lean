/-!
# Errors

A `ConfigurationError` says why a container could not be built or an instance could not be
supplied. Three of its cases wrap the error of one step of a build and say which step it was.
An `InfrastructureError` is what starting an application reports: a configuration error, a
settings error or a failed start.

## Main statements

* `ConfigurationError.message`: the one text of each error.
* `ConfigurationError.depth`: how many errors an error wraps.
* `ConfigurationError.isWrapper`: whether an error belongs to a step of a build.
-/

namespace Wiring

/-- Why an injection failed. Keys, types and members are given by the texts that name them. -/
inductive ConfigurationError where
  /-- A constructor was declared optional. -/
  | optionalConstructor (typeName : String)
  /-- A class declares several constructors. -/
  | multipleConstructors (typeName : String) (count : Nat)
  /-- A member requires a key that nothing can supply. -/
  | missingBinding (key : String) (requiredBy : String)
  /-- A key is not bound and its type cannot be constructed. -/
  | noConstructor (key : String) (typeName : String)
  /-- A value has another type than the one asked for. -/
  | typeMismatch (expected : String) (actual : String)
  /-- A member reads more arguments than it was given. -/
  | missingArgument (member : String) (expected : Nat)
  /-- A scoped key was asked for outside of its scope. -/
  | outOfScope (key : String) (scope : String)
  /-- A provider failed. -/
  | providerFailed (key : String) (message : String)
  /-- A deferred binding failed before and cannot be used. -/
  | bindingUnavailable (key : String) (message : String)
  /-- A build failed while it injected the members of a deferred binding. -/
  | memberInjection (typeName : String) (source : ConfigurationError)
  /-- A build failed while it injected the static members of a class. -/
  | staticInjection (typeName : String) (source : ConfigurationError)
  /-- A build failed while it created a singleton ahead of time. -/
  | eagerSingleton (key : String) (source : ConfigurationError)
  deriving DecidableEq, Inhabited

namespace ConfigurationError

/-- The text of an error. -/
def message : ConfigurationError → String
  | optionalConstructor typeName =>
    "optional injection is not allowed on constructors: " ++ typeName
  | multipleConstructors typeName count =>
    typeName ++ " declares " ++ toString count ++
      " injectable constructors, at most one is allowed"
  | missingBinding key requiredBy => "no binding for " ++ key ++ ", required by " ++ requiredBy
  | noConstructor key typeName =>
    "no binding for " ++ key ++ " and " ++ typeName ++ " cannot be constructed implicitly"
  | typeMismatch expected actual =>
    "expected an instance of " ++ expected ++ ", got " ++ actual
  | missingArgument member expected =>
    member ++ " expects at least " ++ toString expected ++ " arguments"
  | outOfScope key scope => "cannot access " ++ key ++ " outside of a " ++ scope ++ " scope"
  | providerFailed key message => "provider for " ++ key ++ " failed: " ++ message
  | bindingUnavailable key message => "binding for " ++ key ++ " is unavailable: " ++ message
  | memberInjection typeName source =>
    "member injection of " ++ typeName ++ " failed: " ++ source.message
  | staticInjection typeName source =>
    "static injection of " ++ typeName ++ " failed: " ++ source.message
  | eagerSingleton key source =>
    "eager singleton " ++ key ++ " could not be created: " ++ source.message

/-- The number of errors wrapped in one another below an error. -/
def depth : ConfigurationError → Nat
  | memberInjection _ source => source.depth + 1
  | staticInjection _ source => source.depth + 1
  | eagerSingleton _ source => source.depth + 1
  | _ => 0

/-- Whether an error names a step of a build and wraps what went wrong in it. -/
def isWrapper : ConfigurationError → Bool
  | memberInjection .. => true
  | staticInjection .. => true
  | eagerSingleton .. => true
  | _ => false

theorem isWrapper_iff_depth_pos (e : ConfigurationError) : e.isWrapper = true ↔ 0 < e.depth := by
  cases e <;> simp [isWrapper, depth]

end ConfigurationError

/-- Why an application did not start. -/
inductive InfrastructureError where
  /-- The container could not be built. -/
  | configuration (source : ConfigurationError)
  /-- The settings could not be read. -/
  | configLoad (message : String)
  /-- Something else needed for the start failed. -/
  | bootstrapFailed (message : String)
  deriving DecidableEq

/-- The text of an error. -/
def InfrastructureError.message : InfrastructureError → String
  | configuration source => "注入配置错误: " ++ source.message
  | configLoad message => "配置加载失败: " ++ message
  | bootstrapFailed message => "基础设施启动失败: " ++ message

end Wiring
