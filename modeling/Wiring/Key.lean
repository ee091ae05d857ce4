import Wiring.Ty

/-!
# Binding Keys

A key names what is asked for: a type and, when several bindings of one type are needed, a
qualifier that tells them apart. A qualifier is a name or a marker type. Keys are compared as
values, so a qualified key never stands for the unqualified one.

## Main statements

* `Key.text`: how messages write a key.
* `Key.qualifiedBy`: qualifying a key replaces the qualifier it had.
-/

namespace Wiring

/-- What tells two bindings of one type apart. -/
inductive Qualifier where
  /-- A name. -/
  | named (name : String)
  /-- A marker type, known by its path. -/
  | marked (path : String)
  deriving DecidableEq

/-- How messages write a qualifier. -/
def Qualifier.text : Qualifier → String
  | named name => "@Named(\"" ++ name ++ "\")"
  | marked path => "@" ++ TypeName.short path

/-- What a binding is registered under: a type and an optional qualifier. -/
structure Key where
  /-- The type asked for. -/
  ty : Ty
  /-- The qualifier, if there is one. -/
  qualifier : Option Qualifier
  deriving DecidableEq

namespace Key

/-- The unqualified key of a type. -/
def ofTy (ty : Ty) : Key := ⟨ty, none⟩

/-- The key with its qualifier replaced. -/
def qualifiedBy (key : Key) (q : Qualifier) : Key := { key with qualifier := some q }

/-- The key with the qualifiers put on one after the other; the last one stays. -/
def qualifiedByAll (key : Key) (qs : List Qualifier) : Key := qs.foldl qualifiedBy key

/-- The key of type `ty` that carries the qualifier of `key`. -/
def retyped (key : Key) (ty : Ty) : Key := { key with ty }

/-- Whether the key carries a qualifier. -/
def isQualified (key : Key) : Bool := key.qualifier.isSome

/-- How messages write a key. -/
def text (key : Key) : String :=
  match key.qualifier with
  | some q => "Key[" ++ q.text ++ " " ++ key.ty.name ++ "]"
  | none => "Key[" ++ key.ty.name ++ "]"

/-- The number of different keys in a list. -/
def distinctCount (keys : List Key) : Nat := keys.eraseDups.length

@[simp] theorem isQualified_ofTy (ty : Ty) : (ofTy ty).isQualified = false := rfl

@[simp] theorem isQualified_qualifiedBy (key : Key) (q : Qualifier) :
    (key.qualifiedBy q).isQualified = true := rfl

theorem eq_ofTy_of_not_isQualified {key : Key} (h : key.isQualified = false) :
    key = ofTy key.ty := by
  obtain ⟨ty, q⟩ := key
  cases q with
  | none => rfl
  | some q => simp [isQualified] at h

theorem qualifiedByAll_append_singleton (key : Key) (qs : List Qualifier) (q : Qualifier) :
    key.qualifiedByAll (qs ++ [q]) = key.qualifiedBy q := by
  have hty : ∀ (qs : List Qualifier) (k : Key), (k.qualifiedByAll qs).ty = k.ty := by
    intro qs
    induction qs with
    | nil => intro k; rfl
    | cons r rs ih => intro k; exact ih (k.qualifiedBy r)
  have h := hty qs key
  simp only [qualifiedByAll, List.foldl_append, List.foldl_cons, List.foldl_nil] at h ⊢
  simp [qualifiedBy, h]

end Key

end Wiring
