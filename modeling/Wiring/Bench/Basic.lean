import Wiring.Bootstrap
import Wiring.Container.Access

/-!
# The Bench

A `Bench` is where containers are tried out: it holds running containers, requests and sessions
under names of their own, and the world that all of them share. What happens on a bench is
written out line by line, and values are shown as texts.

## Conventions

Events are written before the value that an operation comes to, so that a session which occurs
in both gets its number from the event.

## Main statements

* `Bench.write`: writing out what happened.
* `Bench.write_write`: nothing is written twice.
* `Bench.exhibit`: how a value is shown.
-/

namespace Wiring

/-- A place to try out containers. -/
structure Bench where
  /-- The declared classes. -/
  classes : ClassTable
  /-- How far down the log is written out, if at all. -/
  threshold : Option Severity
  /-- The running containers, by their names. -/
  containers : Table String RunningContainer
  /-- Requests with their responses, by their names. -/
  exchanges : Table String Exchange
  /-- Sessions, by their names. -/
  sessions : Table String Nat
  /-- What the containers act on. -/
  world : World
  /-- How many events have been written out. -/
  written : Nat
  /-- The lines that have not been taken. -/
  lines : List String
  /-- The numbers of the sessions shown so far. -/
  numbering : Numbering

/-- A value as it is shown. -/
inductive Exhibit where
  /-- A value without a history. -/
  | plain (text : String)
  /-- An object with the calls that its members accepted. -/
  | object (text : String) (history : List String)

/-- Something done on a bench. -/
abbrev Trial := StateM Bench

namespace Bench

/-- A bench on which nothing has happened. -/
def new (classes : ClassTable) (threshold : Option Severity) : Bench :=
  ⟨classes, threshold, ∅, ∅, ∅, .new, 0, [], .empty⟩

/-- Write out what happened since the last time. -/
def write (b : Bench) : Bench :=
  let events := b.world.journal.toList.drop b.written
  let (lines, numbering) := Event.renderAll b.threshold b.numbering events
  { b with written := b.world.journal.size, lines := b.lines ++ lines, numbering }

/-- How a value is shown in a line of text. -/
def caption (v : Value) : Trial String := fun b =>
  let b := b.write
  let g := b.world.glimpse v
  let numbering := g.sessions.foldl Numbering.note b.numbering
  (g.render numbering, { b with numbering })

/-- The calls that the members of an object accepted, in order. -/
def history (b : Bench) (id : Nat) : List String :=
  (((b.world.object? id).map Object.history).getD []).map (Call.render b.numbering)

/-- How a value is shown. -/
def exhibit (v : Value) : Trial Exhibit := do
  let text ← caption v
  match v with
  | .object _ id => return .object text ((← get).history id)
  | _ => return .plain text

/-- Take the lines that were written out, and those that are still to be written. -/
def takeLines : Trial (List String) := fun b =>
  let b := b.write
  (b.lines, { b with lines := [] })

/-- Act on the world. -/
def act {α : Type} (f : World → α × World) : Trial α := fun b =>
  let (a, world) := f b.world
  (a, { b with world })

/-- Change the world. -/
def change (f : World → World) : Trial Unit := fun b => ((), { b with world := f b.world })

/-- Make the values of a list, in order. -/
def makeAll : List Making → Trial (List Instance)
  | [] => return []
  | m :: ms => do
    let i ← act (·.makeBy m)
    return i :: (← makeAll ms)

theorem write_write (b : Bench) : b.write.write = b.write := by
  have h : b.world.journal.toList.drop b.world.journal.size = [] :=
    List.drop_of_length_le (by simp)
  simp [write, h, Event.renderAll]

end Bench

end Wiring
