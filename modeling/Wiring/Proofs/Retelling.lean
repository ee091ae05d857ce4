import Wiring.Proofs.Library

/-!
# The Journal Is Written and Never Read

A container writes to the journal all the time, and never looks at it. So what was written before
makes no difference: from two states that differ in nothing else, a container comes to the same
results, remembers the same, does the same to the world, and writes the same to the journal from
then on.

## Main statements

* `Notebook.Blind`: looking for catalogs without looking at the journal.
* `State.Retells`: two states that differ only in what the journals begin with.
* `Container.retells_operate`: this stays so by all operations, which come to the same.
-/

namespace Wiring

/-! ### Notebooks -/

namespace ClassTable

/-- What is entered in the journal when the member table of a class is read. -/
def readings (t : ClassTable) (cls : ClassPath) : List Event :=
  (cls :: (t.decl cls).consulted).map .membersRead

theorem consult_eq (t : ClassTable) (cls : ClassPath) (nb : Notebook) :
    t.consult cls nb = { nb with journal := nb.journal ++ (t.readings cls).toArray } := by
  have hfold : ∀ (l : List ClassPath) (nb : Notebook),
      l.foldl (fun nb c => nb.emit (.membersRead c)) nb =
        { nb with journal := nb.journal ++ (l.map Event.membersRead).toArray } := by
    intro l
    induction l with
    | nil => exact fun nb => by simp
    | cons c l ih =>
      intro nb
      rw [List.foldl_cons, ih]
      simp [Notebook.emit]
  exact hfold _ nb

end ClassTable

namespace Notebook

/-- The notebook with a journal that begins with `j`. -/
def before (nb : Notebook) (j : Array Event) : Notebook := { nb with journal := j ++ nb.journal }

/-- The function does not look at the journal, and only adds to it. -/
def Blind {α : Type} (f : Notebook → α × Notebook) : Prop :=
  ∀ nb j, f (nb.before j) = ((f nb).1, (f nb).2.before j)

theorem emit_before (nb : Notebook) (j : Array Event) (e : Event) :
    (nb.before j).emit e = (nb.emit e).before j := by
  simp only [emit, before, Array.append_push]

theorem consult_before (t : ClassTable) (cls : ClassPath) (nb : Notebook) (j : Array Event) :
    t.consult cls (nb.before j) = (t.consult cls nb).before j := by
  simp only [ClassTable.consult_eq, before, Array.append_assoc]

theorem blind_catalogOf (t : ClassTable) (cls : ClassPath) : Blind (catalogOf t cls) := by
  intro nb j
  have hkept : (nb.before j).catalogs = nb.catalogs := rfl
  unfold catalogOf
  rw [hkept]
  cases nb.catalogs.get? cls with
  | some cat => rfl
  | none =>
    simp only [ClassTable.newCatalog, consult_before]
    cases Catalog.build cls (t.members cls) with
    | error e => rfl
    | ok cat =>
      simp only [log, emit_before]
      rfl

end Notebook

/-! ### States -/

/-- Two states differ only in what their journals begin with. -/
structure State.Retells (j k : Array Event) (s t : State) : Prop where
  /-- The same is remembered. -/
  memory : s.memory = t.memory
  /-- The worlds are the same but for the beginnings of their journals. -/
  world : ∃ w : World, s.world = w.before j ∧ t.world = w.before k

variable {j k : Array Event} {lockstep : Prop} {α : Type}

theorem likeness_retells (j k : Array Event) : Likeness (State.Retells j k) where
  world {α f} hf s t h := by
    obtain ⟨w, hs, ht⟩ := h.world
    rw [hs, ht, hf, hf]
    exact ⟨rfl, h.memory, _, rfl, rfl⟩

/-- The states remember the same under each key. -/
theorem shares_retells (j k : Array Event) (key : Key) : Shares (State.Retells j k) key where
  slot h := by rw [h.memory]
  setSlot _ h := ⟨by rw [h.memory], h.world⟩
  readiness h := by rw [h.memory]
  setReadiness _ h := ⟨by rw [h.memory], h.world⟩
  callCount h := by rw [h.memory]
  countCall h := ⟨by rw [h.memory], h.world⟩

/-- Questions that are answered without looking at the journal have the same answers. -/
theorem Notebook.Blind.matches {f : Notebook → α × Notebook} (hf : Blind f) :
    Matches (State.Retells j k) f f := by
  intro s t h
  obtain ⟨w, hs, ht⟩ := h.world
  have hbefore : ∀ (u : State) (i : Array Event), u.world = w.before i →
      u.notebook = (Notebook.mk u.memory.catalogs w.journal).before i := fun u i hu => by
    rw [State.notebook, hu]
    rfl
  rw [hbefore s j hs, hbefore t k ht, h.memory, hf, hf]
  refine ⟨rfl, ?_, { w with journal := (f ⟨t.memory.catalogs, w.journal⟩).2.journal }, ?_, ?_⟩
  · simp only [State.withNotebook, h.memory]
    rfl
  · simp only [State.withNotebook, hs]
    rfl
  · simp only [State.withNotebook, ht]
    rfl

namespace Container

variable (c : Container)

/-- A container finds the same catalogs. -/
theorem agree_retells (j k : Array Event) :
    Library.Agree (State.Retells j k) c (catalogOf c.classes) (catalogOf c.classes) where
  like := likeness_retells j k
  shares := shares_retells j k
  find cls := (Notebook.blind_catalogOf c.classes cls).matches
  built {s t} h := by
    have hstats : c.stats s.memory = c.stats t.memory := by rw [h.memory]
    rw [hstats]
    exact (likeness_retells j k).world_change (World.blindChange_emit _) h

/-- A container is built in the same way. -/
theorem retells_start : Follows lockstep (State.Retells j k) c.start c.start := by
  rw [← c.start_library]
  exact (c.agree_retells j k).start

/-- Whatever is done with a container comes to the same. -/
theorem retells_operate (ops : List Operation) :
    Follows lockstep (State.Retells j k) (c.operate ops) (c.operate ops) := by
  rw [← c.operate_library ops]
  exact (c.agree_retells j k).follows_operate ops

end Container

end Wiring
