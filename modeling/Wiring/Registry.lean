import Wiring.Journal

/-!
# Registries

A `Registry` holds the binding in force for each key. Registering a key again replaces its
binding and leaves the key in its place, so bindings are visited in the order in which their
keys first came in.

## Main statements

* `Registry.lookup_register`: looking up after a registration.
* `Registry.keys_register`: keys keep the order of their first registration.
* `Registry.key_of_lookup`: what is found under a key is a binding for that key.
-/

namespace Wiring

/-- The bindings in force, in the order in which their keys were first registered. -/
structure Registry where
  /-- The bindings by their keys. -/
  table : Table Key Binding
  /-- Each binding is listed under its own key. -/
  keyed : ∀ e ∈ table.entries, e.2.key = e.1

namespace Registry

/-- The registry without bindings. -/
def empty : Registry := ⟨∅, fun _ h => nomatch h⟩

/-- Register a binding; it replaces an earlier one for the same key. -/
def register (r : Registry) (b : Binding) : Registry :=
  ⟨r.table.insert b.key b, fun e h => by
    rcases Table.mem_put h with rfl | h
    · rfl
    · exact r.keyed e h⟩

/-- The registry of a list of definitions, later ones replacing earlier ones. -/
def ofDefinitions (bs : List Binding) : Registry := bs.foldl register empty

/-- The binding in force for a key. -/
def lookup (r : Registry) (key : Key) : Option Binding := r.table.get? key

/-- Whether a key is bound. -/
def contains (r : Registry) (key : Key) : Bool := r.table.contains key

/-- The bound keys, in the order of their first registration. -/
def keys (r : Registry) : List Key := r.table.keys

/-- The bindings in force, in the order in which their keys were first registered. -/
def toList (r : Registry) : List Binding := r.table.values

/-- The number of bound keys. -/
def size (r : Registry) : Nat := r.table.size

/-- Whether nothing is bound. -/
def isEmpty (r : Registry) : Bool := r.table.isEmpty

/-- The notices that a registration gives rise to. -/
def noticesOf (r : Registry) (b : Binding) : List Notice :=
  .registered b.key b.source b.scope :: if r.contains b.key then [.overridden b.key] else []

@[simp] theorem lookup_empty (key : Key) : empty.lookup key = none := rfl

/-- A binding that is registered is the one in force for its key. -/
theorem lookup_register (r : Registry) (b : Binding) (key : Key) :
    (r.register b).lookup key = if b.key = key then some b else r.lookup key :=
  r.table.get?_insert b.key key b

/-- A new key is listed last. -/
theorem keys_register (r : Registry) (b : Binding) :
    (r.register b).keys = if b.key ∈ r.keys then r.keys else r.keys ++ [b.key] :=
  r.table.keys_insert b.key b

/-- A key is contained if it is bound. -/
theorem contains_eq_isSome_lookup (r : Registry) (key : Key) :
    r.contains key = (r.lookup key).isSome := rfl

/-- Nothing is found for a key that is not bound. -/
theorem lookup_of_contains {r : Registry} {key : Key} (h : r.contains key = false) :
    r.lookup key = none := by
  rwa [contains_eq_isSome_lookup, Option.isSome_eq_false_iff, Option.isNone_iff_eq_none] at h

/-- The keys that are contained are those that are listed. -/
theorem contains_iff (r : Registry) (key : Key) : r.contains key = true ↔ key ∈ r.keys :=
  r.table.contains_iff key

/-- A binding is found under its key. -/
theorem key_of_lookup {r : Registry} {key : Key} {b : Binding} (h : r.lookup key = some b) :
    b.key = key :=
  r.keyed (key, b) (Table.mem_of_find h)

/-- The keys that are listed are those of the bindings. -/
theorem keys_eq_map_key (r : Registry) : r.keys = r.toList.map Binding.key := by
  unfold keys toList Table.keys Table.values
  rw [List.map_map]
  exact List.map_congr_left fun e he => (r.keyed e he).symm

end Registry

end Wiring
