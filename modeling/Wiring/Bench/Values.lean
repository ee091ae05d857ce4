import Wiring.Bench.Basic

/-!
# Trials of Values

Instances and arguments can be tried out by themselves: using instances as ones of other types,
comparing them, and reading arguments one by one.

## Main statements

* `Bench.captions`: how results are shown in lines of text.
* `Bench.readArguments`: the results of reading arguments.
* `Bench.compare`: how instances relate to types and to each other.
-/

namespace Wiring.Bench

/-- How the results of a list are shown in lines of text. -/
def captions : List (Except ConfigurationError Instance) →
    Trial (List (Except ConfigurationError String))
  | [] => return []
  | .error e :: rest => return .error e :: (← captions rest)
  | .ok i :: rest => do
    let text ← caption i.value
    return .ok text :: (← captions rest)

/-- The results of reading arguments of given types from new values, one after the other. -/
def readArguments (member : String) (values : List Making) (tys : List Ty) :
    Trial (List (Except ConfigurationError String)) := do
  let values ← makeAll values
  captions ((Arguments.ofList member values).nextEach tys)

/-- How an instance relates to types and to other instances. -/
structure Comparison where
  /-- The instance. -/
  subject : Instance
  /-- For each type, whether the instance is of the type and what using it as such comes to. -/
  casts : List (Bool × Except ConfigurationError String)
  /-- Whether the instance is the same as itself. -/
  sameAsItself : Bool
  /-- For each instance, whether it is the same. -/
  sameAs : List Bool

/-- How an instance relates to types and to other instances. -/
def compareOne (all : List Instance) (tys : List Ty) (i : Instance) : Trial Comparison := do
  let texts ← captions (tys.map i.cast)
  return ⟨i, (tys.map i.is).zip texts, i.same i, all.map i.same⟩

/-- How each of some instances relates to types and to all instances. -/
def compareEach (all : List Instance) (tys : List Ty) : List Instance → Trial (List Comparison)
  | [] => return []
  | i :: rest => do
    let comparison ← compareOne all tys i
    return comparison :: (← compareEach all tys rest)

/-- How new instances relate to types and to each other. -/
def compare (values : List Making) (tys : List Ty) : Trial (List Comparison) := do
  let all ← makeAll values
  compareEach all tys all

end Wiring.Bench
