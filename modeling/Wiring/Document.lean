import Wiring.Table

/-!
# Documents

What a settings file comes down to, whatever its format: truth values, texts, lists and tables.
Values that no setting is made of, such as numbers, are only known to be there.

A record with named fields may be written as a table, or as a list of its fields in order.

## Main statements

* `Document.record?`: the fields of a record.
* `Document.record?_table`: fields that are not asked for do not matter.
-/

namespace Wiring

/-- The content of a settings file. -/
inductive Document where
  /-- No value. -/
  | null
  /-- A truth value. -/
  | flag (b : Bool)
  /-- A text. A string that does not make up a text has none. -/
  | text (s : Option String)
  /-- A value of another kind. -/
  | other
  /-- A list. -/
  | list (items : List Document)
  /-- A table, with its entries in order. -/
  | table (entries : List (Option String × Document))

namespace Document

/-- The values given for a field, in order. -/
def valuesOf (entries : List (Option String × Document)) (name : String) : List Document :=
  (entries.filter (·.1 = some name)).map Prod.snd

/-- The value of each field that is given, unless one is given twice. -/
def fieldsOf (entries : List (Option String × Document)) :
    List String → Option (List (String × Document))
  | [] => some []
  | name :: names =>
    match valuesOf entries name with
    | [] => fieldsOf entries names
    | [d] => (fieldsOf entries names).map ((name, d) :: ·)
    | _ => none

/-- The fields of a record with fields called `names`, from a table, or from a list of the fields
in order. Some fields may be missing. A table may have further entries, as long as they have
names; a list may have further items if `surplus` says so. -/
def record? (surplus : Bool) (names : List String) : Document → Option (Table String Document)
  | table entries =>
    if entries.all (·.1.isSome) then (fieldsOf entries names).map .ofList else none
  | list items =>
    if surplus || items.length ≤ names.length then some (.ofList (names.zip items)) else none
  | _ => none

theorem fieldsOf_filter (p : Option String → Bool) (entries : List (Option String × Document))
    (names : List String) (h : ∀ name ∈ names, p (some name) = true) :
    fieldsOf (entries.filter fun e => p e.1) names = fieldsOf entries names := by
  induction names with
  | nil => rfl
  | cons name names ih =>
    have hname : valuesOf (entries.filter fun e => p e.1) name = valuesOf entries name := by
      unfold valuesOf
      rw [List.filter_filter]
      congr 1
      refine List.filter_congr fun e _ => ?_
      by_cases he : e.1 = some name
      · simp [he, h name (by simp)]
      · simp [he]
    rw [fieldsOf, fieldsOf, hname, ih fun n hn => h n (by simp [hn])]

/-- A table stands for the same record as the table without the entries that are no fields. -/
theorem record?_table (surplus : Bool) (names : List String)
    (entries : List (Option String × Document)) (h : entries.all (·.1.isSome) = true) :
    record? surplus names (table entries) =
      record? surplus names (table (entries.filter fun e => e.1.any (· ∈ names))) := by
  have hkept : (entries.filter fun e => e.1.any (· ∈ names)).all (·.1.isSome) = true := by
    rw [List.all_eq_true] at h ⊢
    exact fun e he => h e ((List.mem_filter.1 he).1)
  rw [record?, record?, if_pos h, if_pos hkept,
    fieldsOf_filter (fun name => name.any (· ∈ names)) entries names (by simp)]

end Document

end Wiring
