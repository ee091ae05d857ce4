import Wiring.Proofs.Entries

/-!
# What a Run Comes To on Its Way

A run that resolves one thing does so by resolving others. `Run.Reaches` says that a run comes to do
another in some state, in the middle of whatever it is doing: between the arguments of a
constructor, say, which is needed for the members of an object, which a provider is asked for, which
a singleton is made with. If the other run fails there, then so does the whole one. It fails with
the same error, and all that it still does is to take back what it had begun and to note the error.

## Conventions

There is no way through a run whose error is not passed on: through the accessor of a context that
puts another instance in the place of one that could not be created, and through a deferred binding
that passes over a failed injection.

## Main statements

* `Run.Reaches`: a run comes to do another.
* `Run.Reaches.fails`: if the other fails, so does the run, and it leaves no slot busy.
-/

namespace Wiring

/-- The error that an event tells of, if it tells that something failed. -/
def Event.failure? : Event → Option ConfigurationError
  | supplied _ (.error e) | resolved _ (.error e) | forced _ (.error e) => some e
  | _ => none

/-- From `s` the run `x` comes to do `y` in state `t`. By then it has begun to fill the slots of
`keys`, the outermost first. -/
inductive Run.Reaches {β : Type} (y : Run β) (t : State) :
    {α : Type} → Run α → State → List Key → Prop where
  /-- This is what is done. -/
  | here : Reaches y t y t []
  /-- It is done by the first of two runs. -/
  | first {α γ : Type} {x : Run α} {f : α → Run γ} {s : State} {keys : List Key} :
    Reaches y t x s keys → Reaches y t (x.andThen f) s keys
  /-- It is done after a run that succeeds. -/
  | next {α γ : Type} {x : Run α} {f : α → Run γ} {a : α} {s s' : State} {keys : List Key} :
    x s = some (.ok a, s') → Reaches y t (f a) s' keys → Reaches y t (x.andThen f) s keys
  /-- It is done by a run whose end is noted. -/
  | noted {α : Type} {x : Run α} {f : Except ConfigurationError α → Event} {s : State}
    {keys : List Key} : (∀ e, (f (.error e)).failure? = some e) → Reaches y t x s keys →
    Reaches y t (x.noting f) s keys
  /-- It is done for an empty slot. -/
  | slot {key : Key} {create : Run Instance} {s : State} {keys : List Key} :
    s.memory.slots.get? key = some .empty →
    Reaches y t create ⟨s.memory.setSlot key .busy, s.world.log (.creatingSingleton key)⟩ keys →
    Reaches y t (inSlot key create) s (key :: keys)
  /-- It is done for a deferred binding that waits for injection. -/
  | deferred {c : Container} {self : Dependency → Run Instance} {key : Key} {d : Deferral}
    {s : State} {keys : List Key} : s.memory.readiness key = .waiting →
    Reaches y t (c.carryOut self d) (s.preparing key) keys → Reaches y t (c.force self key d) s keys
  /-- It is done when the object of such a binding is injected, whose failure is not passed over. -/
  | round {c : Container} {self : Dependency → Run Instance} {d : Deferral} {id rounds : Nat}
    {s : State} {keys : List Key} : d.forgiving = false →
    Reaches y t (c.injectObject self d.subject.cls d.subject.cls id) s keys →
    Reaches y t (c.injectRounds self d id (rounds + 1)) s keys

/-- From a state nothing more is done to the world than to note an error. -/
def State.Notes (e : ConfigurationError) (s s' : State) : Prop :=
  ∃ es : List Event, s'.world = { s.world with journal := s.world.journal ++ es.toArray } ∧
    ∀ event ∈ es, event.failure? = some e

namespace State.Notes

variable {e : ConfigurationError} {s t u : State}

theorem of_eq (h : t.world = s.world) : s.Notes e t := ⟨[], by simp [h], List.forall_mem_nil _⟩

theorem trans (h : s.Notes e t) (h' : t.Notes e u) : s.Notes e u := by
  obtain ⟨es, hes, hfailure⟩ := h
  obtain ⟨fs, hfs, hfailure'⟩ := h'
  refine ⟨es ++ fs, ?_, fun event hevent => ?_⟩
  · rw [hfs, hes]
    simp
  · exact (List.mem_append.mp hevent).elim (hfailure event) (hfailure' event)

theorem emit {event : Event} (h : event.failure? = some e)
    (ht : t.world = s.world.emit event) : s.Notes e t := by
  refine ⟨[event], ?_, fun event' hevent => ?_⟩
  · rw [ht]
    simp [World.emit]
  · rwa [List.mem_singleton.mp hevent]

end State.Notes

namespace Run.Reaches

variable {α β : Type} {y : Run β} {x : Run α} {s t t' : State} {keys : List Key}
  {e : ConfigurationError}

/-- If what a run comes to do fails, then the run fails with the same error. The slots that it had
begun to fill are empty, and from the failure on it does nothing else but note it. -/
theorem fails (h : Reaches y t x s keys) (hy : y t = some (.error e, t')) :
    ∃ s', x s = some (.error e, s') ∧ t'.Notes e s' ∧
      ∀ key ∈ keys, s'.memory.slots.get? key = some .empty := by
  induction h with
  | here => exact ⟨t', hy, .of_eq rfl, List.forall_mem_nil _⟩
  | first _ ih =>
    obtain ⟨s', hx, hnotes, hslots⟩ := ih
    exact ⟨s', by rw [andThen, hx], hnotes, hslots⟩
  | next hfirst _ ih =>
    obtain ⟨s', hx, hnotes, hslots⟩ := ih
    refine ⟨s', ?_, hnotes, hslots⟩
    rw [andThen, hfirst]
    exact hx
  | @noted _ _ f _ _ hf _ ih =>
    obtain ⟨s', hx, hnotes, hslots⟩ := ih
    refine ⟨s'.inWorld (s'.world.emit (f (.error e))), ?_, hnotes.trans (.emit (hf e) rfl), hslots⟩
    rw [noting, hx]
    rfl
  | @slot key create s keys hempty _ ih =>
    obtain ⟨s', hx, hnotes, hslots⟩ := ih
    refine ⟨⟨s'.memory.setSlot key .empty, s'.world⟩, ?_, hnotes.trans (.of_eq rfl), ?_⟩
    · rw [inSlot_of_empty hempty, hx]
      rfl
    · intro key' hkey'
      rw [Memory.setSlot, Table.get?_insert]
      split
      · rfl
      · next hne => exact hslots key' ((List.mem_cons.mp hkey').resolve_left (Ne.symm hne))
  | @deferred c self key d s keys hwaiting _ ih =>
    obtain ⟨s', hx, hnotes, hslots⟩ := ih
    refine ⟨s'.prepared key (.error e), ?_, hnotes.trans (.emit rfl rfl), hslots⟩
    rw [c.force_of_waiting self d hwaiting, hx]
    rfl
  | @round c self d id rounds s keys hforgiving _ ih =>
    obtain ⟨s', hx, hnotes, hslots⟩ := ih
    refine ⟨s', ?_, hnotes, hslots⟩
    rw [c.injectRounds_succ, bind_eq, attempt_eq, hx]
    simp [Container.passOver, hforgiving, bind_eq, fail]

end Run.Reaches

end Wiring
