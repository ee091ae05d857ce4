import Wiring.Instance

/-!
# Arguments of a Member

The container hands a member its arguments as a list of instances in the order of the
declared dependencies. The member reads them one by one, each as a value of the type it
expects. Every read counts, also one that fails, so a wrong or surplus read never shifts
the values that later reads receive.

## Main statements

* `Arguments.next`: reading one argument.
* `Arguments.readAll`: reading arguments of given types, up to the first failure. The
  `Reading` holds what was read before it.
* `Arguments.readAll_nil`, `Arguments.readAll_cons`: how reading several goes step by step.
-/

namespace Wiring

/-- The arguments of a member, some of which may have been read. -/
structure Arguments where
  /-- The member, as it is named in errors. -/
  member : String
  /-- The arguments that have not been read. -/
  rest : List Instance
  /-- The number of reads so far. -/
  taken : Nat

/-- What came of reading arguments. -/
structure Reading where
  /-- The arguments that were read, in order. -/
  values : List Instance
  /-- The error that ended the reading, or what was done with the arguments, if there is one. -/
  error : Option ConfigurationError

namespace Reading

/-- Nothing was read. -/
def nothing : Reading := ⟨[], none⟩

/-- Nothing could be read. -/
def failed (e : ConfigurationError) : Reading := ⟨[], some e⟩

/-- The reading that goes on after `i` was read. -/
def after (i : Instance) (r : Reading) : Reading := { r with values := i :: r.values }

end Reading

namespace Arguments

/-- The arguments of `member`, none of them read. -/
def ofList (member : String) (values : List Instance) : Arguments := ⟨member, values, 0⟩

/-- Read the next argument as a value of type `ty`. -/
def next (a : Arguments) (ty : Ty) : Except ConfigurationError Instance × Arguments :=
  let taken := a.taken + 1
  match a.rest with
  | [] => (.error (.missingArgument a.member taken), { a with taken })
  | i :: rest => (i.cast ty, { a with rest, taken })

/-- The answers of reading one argument after the other, whether the reads succeed or not. -/
def nextEach (a : Arguments) : List Ty → List (Except ConfigurationError Instance)
  | [] => []
  | ty :: tys => (a.next ty).1 :: (a.next ty).2.nextEach tys

/-- Read arguments of the types `tys`, up to the first read that fails. -/
def readAll (a : Arguments) : List Ty → Reading
  | [] => .nothing
  | ty :: tys =>
    match a.next ty with
    | (.error e, _) => .failed e
    | (.ok i, b) => (b.readAll tys).after i

@[simp] theorem readAll_nil (a : Arguments) : a.readAll [] = .nothing := rfl

theorem readAll_cons (a : Arguments) (ty : Ty) (tys : List Ty) :
    a.readAll (ty :: tys) =
      match (a.next ty).1 with
      | .error e => .failed e
      | .ok i => ((a.next ty).2.readAll tys).after i := by
  rw [readAll]
  rcases a.next ty with ⟨e | i, b⟩ <;> rfl

end Arguments

end Wiring
