import Wiring.Journal

/-!
# Class Tables

A class table says for each injectable class which members it declares and what its objects
supply when they are used as providers. A class that is not listed declares nothing.

A class may be outlined with entries that stand for all members of another class, of which it
owns a part. `Outline.toTable` writes such entries out as lifted members. Reading the members
of an outlined class reads the tables of the classes whose members it takes over; the table
keeps their list, in the order in which they are read.

## Main statements

* `Outline.toTable`: the class table of an outline.
* `Outline.written_eq`: writing out a list of entries goes entry by entry.
-/

namespace Wiring

/-- What the objects of a class supply when they are used as providers. -/
inductive Supply where
  /-- A new value for each call; the `n`-th call of the object of class `cls` that is numbered `id`
  comes to a value made for the label `outcome cls id n`, or to an error. -/
  | calls (outcome : ClassPath → Nat → Nat → Except ConfigurationError String)
  /-- A copy of the part of class `part`. -/
  | copyOf (part : ClassPath)

/-- A new value for each call, numbered; the `n`-th call fails if `failure n` is an error. -/
def Supply.fresh (failure : Nat → Option ConfigurationError) : Supply :=
  .calls fun cls id => numbered (objectText cls id) failure

/-- What is declared about a class. -/
structure ClassDecl where
  /-- The members in the order of their declaration. -/
  members : List Member
  /-- The other classes whose tables are read along with the own one, in order. -/
  consulted : List ClassPath
  /-- What the objects of the class supply. -/
  supply : Supply

/-- The declaration of a class that declares nothing. -/
def ClassDecl.none : ClassDecl := ⟨[], [], .fresh fun _ => Option.none⟩

/-- The declared classes. -/
abbrev ClassTable := Table ClassPath ClassDecl

/-- What is declared about `cls`. -/
def ClassTable.decl (t : ClassTable) (cls : ClassPath) : ClassDecl :=
  (t.get? cls).getD .none

/-- The members declared by `cls`. -/
def ClassTable.members (t : ClassTable) (cls : ClassPath) : List Member := (t.decl cls).members

/-- What holds of the declaration that declares nothing and of all that are listed holds of the
declaration of each class. -/
theorem ClassTable.decl_ofList {P : ClassPath → ClassDecl → Prop}
    {es : List (ClassPath × ClassDecl)} (hnone : ∀ cls, P cls .none) (h : ∀ e ∈ es, P e.1 e.2)
    (cls : ClassPath) : P cls (ClassTable.decl (.ofList es) cls) := by
  unfold decl
  cases hget : (Table.ofList es).get? cls with
  | none => exact hnone cls
  | some decl => exact h (cls, decl) (Table.mem_ofList (Table.mem_of_find hget))

/-! ### Outlines -/

/-- An entry in the outline of a class. -/
inductive OutlineEntry where
  /-- A member of the class. -/
  | member (m : Member)
  /-- The members of `inner`, of which objects of the class own a part. -/
  | lifted (inner : ClassPath)

/-- Classes given by their entries. -/
abbrev Outline := Table ClassPath (List OutlineEntry × Supply)

namespace Outline

/-- The entries of a class. -/
def entriesOf (o : Outline) (cls : ClassPath) : List OutlineEntry :=
  ((o.get? cls).map Prod.fst).getD []

/-- The classes consulted for a list of entries and the members it stands for. Entries that
stand for another class are written out with `inner`. -/
def written (inner : ClassPath → List ClassPath × List Member) :
    List OutlineEntry → List ClassPath × List Member
  | [] => ([], [])
  | .member m :: rest =>
    let (asked, members) := written inner rest
    (asked, m :: members)
  | .lifted cls :: rest =>
    let (asked, members) := written inner rest
    let (innerAsked, innerMembers) := inner cls
    (cls :: (innerAsked ++ asked), innerMembers.filterMap (Member.lift cls) ++ members)

/-- The classes consulted for `cls`, and its members, with parts of parts written out up to a
depth of `depth`. -/
def expand (o : Outline) : Nat → ClassPath → List ClassPath × List Member
  | 0, _ => ([], [])
  | depth + 1, cls => written (o.expand depth) (o.entriesOf cls)

/-- The class table of an outline. Parts nest no deeper than there are classes, as no class
can own a part of itself. -/
def toTable (o : Outline) : ClassTable :=
  .ofList <| o.entries.map fun (cls, _, supply) =>
    let (consulted, members) := o.expand (o.size + 1) cls
    (cls, ⟨members, consulted, supply⟩)

theorem written_eq (inner : ClassPath → List ClassPath × List Member)
    (es : List OutlineEntry) :
    written inner es =
      (es.flatMap fun
        | .member _ => []
        | .lifted cls => cls :: (inner cls).1,
       es.flatMap fun
        | .member m => [m]
        | .lifted cls => (inner cls).2.filterMap (Member.lift cls)) := by
  induction es with
  | nil => rfl
  | cons e es ih => cases e <;> simp [written, ih]

end Outline

end Wiring
