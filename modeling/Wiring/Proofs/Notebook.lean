import Wiring.Container.Availability

/-!
# Catalogs in Use

A container keeps the catalogs that it built, and builds a catalog anew as long as it has none
for the class. This module says which catalog that comes to: `Notebook.look` is the catalog that
a notebook gives for a class, and looking for a catalog never changes what it gives.

A notebook is *faithful* when it keeps nothing but catalogs of the class table. Then it gives for
each class the catalog of its member table, `ClassTable.catalog`, whatever it keeps. A container
starts with a faithful notebook.

## Main statements

* `catalogOf_fst`, `look_catalogOf`: looking for a catalog gives it and leaves the others.
* `Notebook.Faithful.look_eq`: what a faithful notebook gives.
* `Notebook.Faithful.catalogOf`: a faithful notebook stays faithful.
* `Notebook.all_fst`, `Notebook.firstFailing_fst`: questions whose answers do not depend on what
  is kept.
-/

namespace Wiring

/-- The catalog of a class, or the error that its member table has none. -/
def ClassTable.catalog (t : ClassTable) (cls : ClassPath) : Except ConfigurationError Catalog :=
  Catalog.build cls (t.members cls)

namespace Notebook

/-- The catalog that a notebook gives for a class: the kept one, or the one of its member
table. -/
def look (nb : Notebook) (t : ClassTable) (cls : ClassPath) : Except ConfigurationError Catalog :=
  match nb.catalogs.get? cls with
  | some cat => .ok cat
  | none => t.catalog cls

/-- A notebook keeps only catalogs of the class table. -/
def Faithful (nb : Notebook) (t : ClassTable) : Prop :=
  ∀ cls cat, nb.catalogs.get? cls = some cat → t.catalog cls = .ok cat

/-- A faithful notebook gives the catalogs of the class table. -/
theorem Faithful.look_eq {nb : Notebook} {t : ClassTable} (h : nb.Faithful t) :
    nb.look t = t.catalog := by
  funext cls
  unfold look
  cases hk : nb.catalogs.get? cls with
  | none => rfl
  | some cat => exact (h cls cat hk).symm

/-- A notebook that gives the catalogs of the class table is faithful. -/
theorem faithful_of_look_eq {nb : Notebook} {t : ClassTable} (h : nb.look t = t.catalog) :
    nb.Faithful t := by
  intro cls cat hk
  have hl : nb.look t cls = .ok cat := by simp [look, hk]
  rw [← hl, h]

theorem faithful_iff (nb : Notebook) (t : ClassTable) : nb.Faithful t ↔ nb.look t = t.catalog :=
  ⟨Faithful.look_eq, faithful_of_look_eq⟩

end Notebook

/-- Reading member tables leaves the kept catalogs alone. -/
theorem ClassTable.catalogs_consult (t : ClassTable) (cls : ClassPath) (nb : Notebook) :
    (t.consult cls nb).catalogs = nb.catalogs := by
  have h : ∀ (l : List ClassPath) (nb : Notebook),
      (l.foldl (fun nb c => nb.emit (.membersRead c)) nb).catalogs = nb.catalogs := by
    intro l
    induction l with
    | nil => intro nb; rfl
    | cons c l ih => intro nb; exact ih _
  exact h _ nb

/-- Looking for a catalog gives the one that is in use. -/
theorem catalogOf_fst (t : ClassTable) (cls : ClassPath) (nb : Notebook) :
    (catalogOf t cls nb).1 = nb.look t cls := by
  unfold catalogOf Notebook.look
  cases hk : nb.catalogs.get? cls with
  | some cat => rfl
  | none =>
    simp only [ClassTable.newCatalog, ClassTable.catalog]
    cases Catalog.build cls (t.members cls) <;> rfl

/-- Looking for a catalog does not change which catalogs are in use. -/
theorem look_catalogOf (t : ClassTable) (cls : ClassPath) (nb : Notebook) :
    (catalogOf t cls nb).2.look t = nb.look t := by
  unfold catalogOf
  cases hk : nb.catalogs.get? cls with
  | some cat => rfl
  | none =>
    simp only [ClassTable.newCatalog]
    cases hb : Catalog.build cls (t.members cls) with
    | error e =>
      funext other
      simp [Notebook.look, t.catalogs_consult]
    | ok cat =>
      funext other
      simp only [Notebook.look, Notebook.log, Notebook.emit, t.catalogs_consult,
        Table.get?_insert]
      by_cases ho : cls = other
      · subst ho
        simp [hk, ClassTable.catalog, hb]
      · simp [ho]

/-- A faithful notebook stays faithful when a catalog is looked for. -/
theorem Notebook.Faithful.catalogOf {t : ClassTable} {nb : Notebook} (h : nb.Faithful t)
    (cls : ClassPath) : (catalogOf t cls nb).2.Faithful t := by
  rw [faithful_iff, look_catalogOf]
  exact h.look_eq

namespace Notebook

/-! ### Questions about several things -/

variable {α : Type}

/-- A question whose answer for each element depends only on the catalogs in use, and which
leaves those as they are, may be asked of a whole list. -/
theorem all_fst {f : α → Notebook → Bool × Notebook} {p : α → Bool} {t : ClassTable}
    {look : ClassPath → Except ConfigurationError Catalog} {as : List α}
    (hf : ∀ a ∈ as, ∀ nb : Notebook, nb.look t = look →
      (f a nb).1 = p a ∧ (f a nb).2.look t = look)
    {nb : Notebook} (hnb : nb.look t = look) :
    (Notebook.all f as nb).1 = as.all p ∧ (Notebook.all f as nb).2.look t = look := by
  induction as generalizing nb with
  | nil => exact ⟨rfl, hnb⟩
  | cons a as ih =>
    obtain ⟨h1, h2⟩ := hf a (by simp) nb hnb
    rcases hr : f a nb with ⟨b, nb'⟩
    rw [hr] at h1 h2
    cases b with
    | false => simp [Notebook.all, hr, ← h1, h2]
    | true =>
      simp only [Notebook.all, hr, List.all_cons, ← h1, Bool.true_and]
      exact ih (fun a' ha' => hf a' (by simp [ha'])) h2

/-- The same for the search of the first element for which the answer is no. -/
theorem firstFailing_fst {f : α → Notebook → Bool × Notebook} {p : α → Bool} {t : ClassTable}
    {look : ClassPath → Except ConfigurationError Catalog} {as : List α}
    (hf : ∀ a ∈ as, ∀ nb : Notebook, nb.look t = look →
      (f a nb).1 = p a ∧ (f a nb).2.look t = look)
    {nb : Notebook} (hnb : nb.look t = look) :
    (firstFailing f as nb).1 = as.find? (!p ·) ∧ (firstFailing f as nb).2.look t = look := by
  induction as generalizing nb with
  | nil => exact ⟨rfl, hnb⟩
  | cons a as ih =>
    obtain ⟨h1, h2⟩ := hf a (by simp) nb hnb
    rcases hr : f a nb with ⟨b, nb'⟩
    rw [hr] at h1 h2
    cases b with
    | false => simp [firstFailing, hr, ← h1, h2]
    | true =>
      simp only [firstFailing, hr, List.find?_cons, ← h1, Bool.not_true]
      exact ih (fun a' ha' => hf a' (by simp [ha'])) h2

end Notebook

/-! ### States -/

/-- A container keeps only catalogs of its class table. -/
def State.Faithful (s : State) (c : Container) : Prop := s.notebook.Faithful c.classes

/-- A new container is faithful, as it keeps no catalogs. -/
theorem Container.faithful_initial (c : Container) (w : World) :
    State.Faithful ⟨c.initialMemory, w⟩ c := by
  intro cls cat h
  simp [State.notebook, Container.initialMemory, Memory.ofRegistry, Memory.empty,
    EmptyCollection.emptyCollection] at h

end Wiring
