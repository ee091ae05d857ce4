import Wiring.Container.Build
import Wiring.Proofs.Notebook

/-!
# Functions Written Out

Some functions of a container are best looked at case by case: the arguments of a required and of
an optional member, a member on an object of its own class and of another, one round of the
injection of a deferred binding. The equations here say what they come down to.

## Main statements

* `Container.argumentsFor_optional`: an optional member is a required one, if it is not skipped.
* `Container.runMember_self`, `Container.runMember_of_ne`: a member runs on its own class only.
* `Container.injectRounds_succ`: the rounds of a deferred binding.
* `Container.answer_of_unbound`: what a dependency that is not bound comes to.
* `inSlot_of_empty`, `Container.force_of_waiting`: what is done once for a slot and for a deferred
  binding, and how both are left.
* `Registry.lookup_of_mem`: the bindings that a registry lists are in force.
-/

namespace Wiring

/-- Where one run after another succeeds, both do. -/
theorem Run.andThen_eq_ok {α β : Type} {x : Run α} {f : α → Run β} {s s' : State} {b : β}
    (h : x.andThen f s = some (.ok b, s')) :
    ∃ a t, x s = some (.ok a, t) ∧ f a t = some (.ok b, s') := by
  unfold andThen at h
  rcases hx : x s with _ | ⟨_ | a, t⟩
  · rw [hx] at h
    cases h
  · rw [hx] at h
    cases h
  · rw [hx] at h
    exact ⟨a, t, rfl, h⟩

namespace Container

variable (c : Container) (self : Dependency → Run Instance)

/-! ### Functions written out -/

/-- The arguments of a required member. -/
theorem argumentsFor_required (member : String) (ds : List Dependency) :
    c.argumentsFor self member ds false =
      (do return some (← Run.collect (c.resolveRequired self member) ds)) := rfl

/-- The arguments of an optional member are those of a required one, if all are available. -/
theorem argumentsFor_optional (member : String) (ds : List Dependency) :
    c.argumentsFor self member ds true =
      (do
        match ← c.firstUnavailable ds with
        | some d =>
          .log (.skipped member d.key)
          return none
        | none => c.argumentsFor self member ds false) := by
  funext s
  simp only [argumentsFor, Run.bind_eq, if_true]
  rcases c.firstUnavailable ds s with _ | ⟨_ | _ | d, t⟩ <;> rfl

/-- A member is not run on an object of another class. -/
theorem runMember_of_ne {cls target : ClassPath} (h : target ≠ cls) (m : Member)
    (path : List ClassPath) (id : Nat) (arguments : Arguments) :
    runMember cls m path target id arguments =
      .fail (.typeMismatch (TypeName.short cls) "injection target") := by
  funext s
  simp only [runMember, if_pos h]
  rfl

/-- A member is run on an object of its class. -/
theorem runMember_self (cls : ClassPath) (m : Member) (path : List ClassPath) (id : Nat)
    (arguments : Arguments) :
    runMember cls m path cls id arguments =
      (do
        let part ← .act (·.partAlong id path)
        let call ← attemptCall m arguments
        .change (·.record part call)
        .emit (.injected (path.getLast?.getD cls) part call)) := by
  funext s
  simp only [runMember, ne_eq, not_true, if_false]

/-- What is done about the result of one round of the injection of a deferred binding. -/
def passOver (d : Deferral) : Except ConfigurationError Unit → Run Unit
  | .ok () => .succeed ()
  | .error e => if d.forgiving then .emit (.swallowed e) else .fail e

/-- One round of the injection of a deferred binding, and the others. -/
theorem injectRounds_succ (d : Deferral) (id n : Nat) :
    c.injectRounds self d id (n + 1) =
      (do
        let r ← (c.injectObject self d.subject.cls d.subject.cls id).attempt
        passOver d r
        c.injectRounds self d id n) := by
  funext s
  rw [injectRounds]
  simp only [Run.bind_eq]
  rcases (c.injectObject self d.subject.cls d.subject.cls id).attempt s with
    _ | ⟨_ | ⟨e | u⟩, t⟩
  · rfl
  · rfl
  · dsimp only [passOver]
    split <;> rfl
  · rfl

/-- What a dependency that is not bound comes to. -/
theorem answer_of_unbound {d : Dependency} (h : c.registry.contains d.key = false) :
    c.answer self d =
      match c.justInTime d with
      | some cls => c.construct self cls
      | none => .fail (.noConstructor d.key.text d.key.ty.name) := by
  have h := Registry.lookup_of_contains h
  cases hjit : c.justInTime d with
  | none => simp only [answer, h, hjit]
  | some cls => simp only [answer, h, hjit]

end Container

/-! ### Slots -/

/-- What is in a slot after an attempt to fill it. -/
def Cell.ofResult : Except ConfigurationError Instance → Cell
  | .ok i => .full i
  | .error _ => .empty

section Slots

variable {key : Key} {create : Run Instance} {s : State}

/-- Without a slot an instance is created. -/
theorem inSlot_of_none (h : s.memory.slots.get? key = none) : inSlot key create s = create s := by
  simp only [inSlot, Run.bind_eq, Run.read, h]

/-- The instance in a full slot is given. -/
theorem inSlot_of_full {i : Instance} (h : s.memory.slots.get? key = some (.full i)) :
    inSlot key create s = some (.ok i, s) := by
  simp only [inSlot, Run.bind_eq, Run.read, h]
  rfl

/-- A busy slot is waited for in vain. -/
theorem inSlot_of_busy (h : s.memory.slots.get? key = some .busy) : inSlot key create s = none := by
  simp only [inSlot, Run.bind_eq, Run.read, h]
  rfl

/-- An empty slot is busy while its instance is created. -/
theorem inSlot_of_empty (h : s.memory.slots.get? key = some .empty) :
    inSlot key create s =
      (create ⟨s.memory.setSlot key .busy, s.world.log (.creatingSingleton key)⟩).map fun p =>
        (p.1, ⟨p.2.memory.setSlot key (.ofResult p.1), p.2.world⟩) := by
  simp only [inSlot, Run.bind_eq, Run.read, h, Run.remember, Run.log, Run.change, Run.attempt_eq]
  rcases create ⟨s.memory.setSlot key .busy, s.world.log (.creatingSingleton key)⟩ with
    _ | ⟨_ | _, t⟩ <;> rfl

end Slots

/-- The state in which a binding supplies the singleton of `key`. -/
def State.creating (s : State) (key : Key) : State :=
  ⟨s.memory.setSlot key .busy, (s.world.log (.creatingSingleton key)).emit (.supplying key)⟩

/-- The state in which the supply of the singleton of `key` came to `r`. -/
def State.created (s : State) (key : Key) (r : Except ConfigurationError Instance) : State :=
  ⟨s.memory.setSlot key (.ofResult r), s.world.emit (.supplied key r)⟩

namespace Container

variable (c : Container) (self : Dependency → Run Instance)

/-- The binding of an empty slot supplies its instance. -/
theorem inSlot_supply_of_empty {b : Binding} {s : State}
    (h : s.memory.slots.get? b.key = some .empty) :
    inSlot b.key (c.supply self b) s =
      (c.provision self b (s.creating b.key)).map fun p => (p.1, p.2.created b.key p.1) := by
  rw [inSlot_of_empty h]
  change ((c.provision self b (s.creating b.key)).map _).map _ = _
  rw [Option.map_map]
  rfl

end Container

/-! ### Deferred bindings -/

/-- How far a deferred binding is after its object was to be injected. -/
def Readiness.ofResult : Except ConfigurationError Instance → Readiness
  | .ok i => .ready i
  | .error _ => .failed

theorem Memory.readiness_setReadiness (m : Memory) (key key' : Key) (r : Readiness) :
    (m.setReadiness key r).readiness key' = if key = key' then r else m.readiness key' := by
  unfold readiness setReadiness
  rw [Table.get?_insert]
  split <;> rfl

/-- The state in which the object of the deferred binding of `key` is injected. -/
def State.preparing (s : State) (key : Key) : State :=
  ⟨s.memory.setReadiness key .running, s.world.emit (.preparing key)⟩

/-- The state in which the injection for the deferred binding of `key` came to `r`. -/
def State.prepared (s : State) (key : Key) (r : Except ConfigurationError Instance) : State :=
  ⟨s.memory.setReadiness key (.ofResult r), s.world.emit (.forced key r)⟩

namespace Container

variable (c : Container) (self : Dependency → Run Instance) {key : Key} {s : State} (d : Deferral)

/-- An object that is ready is used. -/
theorem force_of_ready {i : Instance} (h : s.memory.readiness key = .ready i) :
    c.force self key d s =
      some (.ok i, { s with world := s.world.emit (.forced key (.ok i)) }) := by
  simp only [force, Run.noting, useDeferred, Run.bind_eq, Run.read, h]
  rfl

/-- After a failure a deferred binding cannot be used any more. -/
theorem force_of_failed (h : s.memory.readiness key = .failed) :
    c.force self key d s = some (.error (unavailable key),
      { s with world := s.world.emit (.forced key (.error (unavailable key))) }) := by
  simp only [force, Run.noting, useDeferred, Run.bind_eq, Run.read, h]
  rfl

/-- An object that is being injected is waited for in vain. -/
theorem force_of_running (h : s.memory.readiness key = .running) :
    c.force self key d s = none := by
  simp only [force, Run.noting, useDeferred, Run.bind_eq, Run.read, h]
  rfl

/-- An object that waits for it is injected. -/
theorem force_of_waiting (h : s.memory.readiness key = .waiting) :
    c.force self key d s =
      (c.carryOut self d (s.preparing key)).map fun p => (p.1, p.2.prepared key p.1) := by
  simp only [force, Run.noting, useDeferred, injectOnce, Run.bind_eq, Run.read, h, Run.remember,
    Run.emit, Run.change, Run.attempt_eq]
  unfold State.preparing
  rcases c.carryOut self d ⟨s.memory.setReadiness key .running, s.world.emit (.preparing key)⟩ with
    _ | ⟨_ | _, t⟩ <;> rfl

end Container

/-- A binding that is listed is in force. -/
theorem Registry.lookup_of_mem {r : Registry} {b : Binding} (h : b ∈ r.toList) :
    r.lookup b.key = some b := by
  have hfind : ∀ es : List (Key × Binding), (es.map Prod.fst).Nodup →
      ∀ e ∈ es, Table.find e.1 es = some e.2 := by
    intro es
    induction es with
    | nil => intro _ e he; cases he
    | cons e' es ih =>
      intro hnodup e he
      rw [List.map_cons, List.nodup_cons] at hnodup
      rw [Table.find]
      rcases List.mem_cons.mp he with rfl | he
      · rw [if_pos rfl]
      · rw [if_neg fun heq => hnodup.1 (List.mem_map.mpr ⟨e, he, heq.symm⟩)]
        exact ih hnodup.2 e he
  obtain ⟨e, he, rfl⟩ := List.mem_map.mp h
  have := hfind r.table.entries r.table.nodup e he
  rwa [← r.keyed e he] at this

end Wiring
