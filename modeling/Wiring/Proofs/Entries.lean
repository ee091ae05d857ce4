import Mathlib.Data.List.Forall2
import Wiring.Proofs.Conduct

/-!
# Entries in the Journal

The journal only grows while a container works, so what happens between two states is the list of
the entries that were added. This module says what effects add to the journal and what they leave
alone: no effect enters a mark, changes a slot or takes a thing away, and no effect makes a
container refer to a thing that it could not refer to before, but for the instances that it keeps.

## Main statements

* `State.Entered`: the entries between two states.
* `Effect.entered`, `Effect.slots`, `Effect.size_things`: what effects do not do.
* `Effect.mentions`, `Container.mentions_of_setSlot` and others: what is referred to after a change.
* `Container.entered_resolveWithin`: what is resolved is entered at the end.
* `Container.entered_arguments`: the arguments of members are what was resolved for them.
-/

namespace Wiring

namespace State

/-- Between two states, `es` is entered in the journal. -/
def Entered (s s' : State) (es : List Event) : Prop :=
  s'.world.journal.toList = s.world.journal.toList ++ es

variable {s t u : State} {es fs : List Event}

theorem Entered.refl (s : State) : s.Entered s [] := (List.append_nil _).symm

theorem Entered.trans (h : s.Entered t es) (h' : t.Entered u fs) : s.Entered u (es ++ fs) := by
  unfold Entered at h h' ⊢
  rw [h', h, List.append_assoc]

/-- There is one list of entries between two states. -/
theorem Entered.unique (h : s.Entered t es) (h' : s.Entered t fs) : es = fs := by
  unfold Entered at h h'
  rw [h] at h'
  exact List.append_cancel_left h'

theorem entered_emit (s : State) (e : Event) : s.Entered (s.inWorld (s.world.emit e)) [e] := by
  simp [Entered, inWorld, World.emit]

end State

namespace World

variable {w : World} {k : Keeper} {key : Key} {i : Instance}

/-- A new request that keeps nothing is no different from one that is not there. -/
theorem attributes_addRequest {r : Request} (hr : r.attributes = ∅) (k : Keeper) :
    (w.addRequest r).2.attributes k = w.attributes k := by
  cases k with
  | session id => rfl
  | request id =>
    simp only [attributes, request, addRequest, Array.getElem?_push]
    split
    · subst id
      simp [hr]
      rfl
    · rfl

/-- A new session keeps nothing. -/
theorem attributes_addSession (k : Keeper) : w.addSession.2.attributes k = w.attributes k := by
  cases k with
  | request id => rfl
  | session id =>
    simp only [attributes, session, addSession, Array.getElem?_push]
    split
    · subst id
      simp
      rfl
    · rfl

/-- What is kept for a request does not depend on its session. -/
theorem attributes_join (request session : Nat) (k : Keeper) :
    (w.modifyRequest request fun r => { r with session := some session }).attributes k =
      w.attributes k := by
  cases k with
  | session id => rfl
  | request id =>
    simp only [attributes, World.request, modifyRequest, Array.getElem?_modify]
    split
    · cases w.requests[id]? <;> rfl
    · rfl

/-- Setting an instance adds it to what is kept, unless there is no such request or session. -/
theorem attributes_setAttribute (w : World) (k : Keeper) (key : Key) (i : Instance) (k' : Keeper) :
    (w.setAttribute k key i).attributes k' = w.attributes k' ∨
      (w.setAttribute k key i).attributes k' = (w.attributes k').insert key i := by
  cases k with
  | request id =>
    cases k' with
    | session id' => exact .inl rfl
    | request id' =>
      simp only [setAttribute, modifyAttributes, modifyRequest, attributes, request,
        Array.getElem?_modify]
      split
      · cases w.requests[id']? with
        | none => exact .inl rfl
        | some r => exact .inr rfl
      · exact .inl rfl
  | session id =>
    cases k' with
    | request id' => exact .inl rfl
    | session id' =>
      simp only [setAttribute, modifyAttributes, modifySession, attributes, session,
        Array.getElem?_modify]
      split
      · cases w.sessions[id']? with
        | none => exact .inl rfl
        | some r => exact .inr rfl
      · exact .inl rfl

/-- What is kept after an instance is set is that instance, or it was kept before. -/
theorem get?_attributes_setAttribute {k' : Keeper} {key' : Key} {j : Instance}
    (h : ((w.setAttribute k key i).attributes k').get? key' = some j) :
    key' = key ∧ j = i ∨ (w.attributes k').get? key' = some j := by
  rcases w.attributes_setAttribute k key i k' with heq | heq
  · rw [heq] at h
    exact .inr h
  · rw [heq, Table.get?_insert] at h
    split at h
    · next hkey => exact .inl ⟨hkey.symm, (Option.some.inj h).symm⟩
    · exact .inr h

/-- What a context keeps after it was given an instance is that instance, or it was kept before. -/
theorem get?_kept_keepInContext {name name' : String} {key' : Key} {j : Instance}
    (h : ((w.keepInContext name key i).context name').kept.get? key' = some j) :
    j = i ∨ (w.context name').kept.get? key' = some j := by
  simp only [keepInContext, context, Table.get?_insert] at h ⊢
  split at h
  · subst name'
    simp only [Option.getD_some, Table.get?_insert] at h
    split at h
    · exact .inl (Option.some.inj h).symm
    · exact .inr h
  · exact .inr h

end World

/-! ### What effects leave alone -/

namespace Effect

variable {c : Container} {ok : Instance → Prop} {s s' : State}

/-- Effects leave slots alone. -/
theorem slots (h : Effect c ok s s') : s'.memory.slots = s.memory.slots := by
  cases h <;> rfl

/-- Effects leave deferred bindings alone. -/
theorem deferred (h : Effect c ok s s') : s'.memory.deferred = s.memory.deferred := by
  cases h <;> rfl

/-- Effects take nothing away. -/
theorem size_things (h : Effect c ok s s') : s.world.things.size ≤ s'.world.things.size := by
  cases h with
  | thing t => simp [State.inWorld]
  | object id f => simp [State.inWorld, World.modifyObject]
  | keep k key i hi hk => simp [State.inWorld, World.things_setAttribute]
  | _ => exact Nat.le_refl _

/-- Effects enter no marks. -/
theorem entered (h : Effect c ok s s') :
    ∃ es, s.Entered s' es ∧ ∀ e ∈ es, e.isMark = false := by
  cases h with
  | emit e he => exact ⟨[e], s.entered_emit e, fun e' he' => by rwa [List.mem_singleton.mp he']⟩
  | keep k key i hi hk =>
    refine ⟨[], ?_, fun e he => nomatch he⟩
    simp [State.Entered, State.inWorld, World.journal_setAttribute]
  | _ => exact ⟨[], State.Entered.refl s, fun e he => nomatch he⟩

/-- What is referred to after an effect was so before, unless it is kept from now on. -/
theorem mentions (h : Effect c ok s s') {id : Nat} (hid : c.Mentions s' id) :
    c.Mentions s id ∨ ∃ i, ok i ∧ i.value.thing? = some id := by
  cases hid with
  | slot hk hv =>
    rw [h.slots] at hk
    exact .inl (.slot hk hv)
  | deferred hk hv =>
    rw [Memory.readiness, h.deferred] at hk
    exact .inl (.deferred hk hv)
  | given hb hs hv => exact .inl (.given hb hs hv)
  | subject hb hd hs => exact .inl (.subject hb hd hs)
  | @kept k key i hk hv =>
    cases h with
    | request method path =>
      simp only [State.inWorld, World.attributes_addRequest (r := .new method path) rfl] at hk
      exact .inl (.kept hk hv)
    | session =>
      simp only [State.inWorld, World.attributes_addSession] at hk
      exact .inl (.kept hk hv)
    | join request =>
      simp only [State.inWorld, World.attributes_join, World.attributes_addSession] at hk
      exact .inl (.kept hk hv)
    | keep k' key' j hj _ =>
      rcases World.get?_attributes_setAttribute hk with ⟨-, rfl⟩ | hk
      · exact .inr ⟨i, hj, hv⟩
      · exact .inl (.kept hk hv)
    | _ =>
      have hbefore : (s.world.attributes k).get? key = some i := by cases k <;> exact hk
      exact .inl (.kept hbefore hv)
  | @context name key i hk hv =>
    cases h with
    | context name' key' j hj =>
      rcases World.get?_kept_keepInContext hk with rfl | hk
      · exact .inr ⟨i, hj, hv⟩
      · exact .inl (.context hk hv)
    | keep k' key' j hj _ =>
      rw [State.inWorld, World.context, World.contexts_setAttribute] at hk
      have hbefore : (s.world.context name).kept.get? key = some i := hk
      exact .inl (.context hbefore hv)
    | _ => exact .inl (.context hk hv)

end Effect

/-- What is referred to depends on slots, deferred bindings, and what is kept. -/
theorem Container.Mentions.congr {c : Container} {s s' : State} {id : Nat} (h : c.Mentions s' id)
    (hslots : s'.memory.slots = s.memory.slots)
    (hdeferred : s'.memory.deferred = s.memory.deferred)
    (hattributes : ∀ k, s'.world.attributes k = s.world.attributes k)
    (hcontexts : s'.world.contexts = s.world.contexts) : c.Mentions s id := by
  cases h with
  | slot hk hv => exact .slot (hslots ▸ hk) hv
  | deferred hk hv =>
    rw [Memory.readiness, hdeferred] at hk
    exact .deferred hk hv
  | kept hk hv => exact .kept (hattributes _ ▸ hk) hv
  | context hk hv =>
    rw [World.context, hcontexts] at hk
    exact .context hk hv
  | given hb hsource hv => exact .given hb hsource hv
  | subject hb hd hsubject => exact .subject hb hd hsubject

/-- Entries in the journal refer to nothing. -/
theorem Container.mentions_of_emit {c : Container} {s : State} {e : Event} {id : Nat}
    (h : c.Mentions (s.inWorld (s.world.emit e)) id) : c.Mentions s id :=
  h.congr rfl rfl (fun k => by cases k <;> rfl) rfl

/-- What is referred to after a deferred binding advanced was so before, unless it is the object
that became ready. -/
theorem Container.mentions_of_setReadiness {c : Container} {s : State} {key : Key} {r : Readiness}
    {id : Nat} (h : c.Mentions { s with memory := s.memory.setReadiness key r } id) :
    c.Mentions s id ∨ ∃ i, r = .ready i ∧ i.value.thing? = some id := by
  cases h with
  | slot hk hv => exact .inl (.slot hk hv)
  | kept hk hv => exact .inl (.kept hk hv)
  | context hk hv => exact .inl (.context hk hv)
  | given hb hsource hv => exact .inl (.given hb hsource hv)
  | subject hb hd hsubject => exact .inl (.subject hb hd hsubject)
  | @deferred key' i hk hv =>
    simp only [Memory.readiness, Memory.setReadiness, Table.get?_insert] at hk
    split at hk
    · exact .inr ⟨i, hk, hv⟩
    · exact .inl (.deferred hk hv)

/-- What is referred to after a slot changed was so before, unless it was put into the slot. -/
theorem Container.mentions_of_setSlot {c : Container} {s : State} {key : Key} {cell : Cell}
    {id : Nat} (h : c.Mentions { s with memory := s.memory.setSlot key cell } id) :
    c.Mentions s id ∨ ∃ i, cell = .full i ∧ i.value.thing? = some id := by
  cases h with
  | deferred hk hv => exact .inl (.deferred hk hv)
  | kept hk hv => exact .inl (.kept hk hv)
  | context hk hv => exact .inl (.context hk hv)
  | given hb hsource hv => exact .inl (.given hb hsource hv)
  | subject hb hd hsubject => exact .inl (.subject hb hd hsubject)
  | @slot key' i hk hv =>
    simp only [Memory.setSlot, Table.get?_insert] at hk
    split at hk
    · exact .inr ⟨i, Option.some.inj hk, hv⟩
    · exact .inl (.slot hk hv)

/-! ### The journal grows -/

namespace Container

variable {c : Container} {s s' : State}

/-- The discipline of adding to the journal. -/
def growing : Discipline where
  Inv _ := True
  Step s s' := ∃ es, s.Entered s' es
  Known _ _ := True
  refl s := ⟨[], State.Entered.refl s⟩
  trans := by
    rintro s t u ⟨es, hes⟩ ⟨fs, hfs⟩
    exact ⟨es ++ fs, hes.trans hfs⟩
  known_step _ h := h

/-- Whatever a container does adds to the journal. -/
theorem admitsAll_growing (c : Container) : growing.AdmitsAll c where
  fresh _ _ := trivial
  mentioned _ _ := trivial
  effect _ h := by
    obtain ⟨es, hes, -⟩ := h.entered
    exact ⟨trivial, es, hes⟩
  readiness _ _ := Discipline.Ensures.remember fun s _ _ => ⟨trivial, [], State.Entered.refl s⟩
  slots _ _ := Discipline.Ensures.remember fun s _ _ => ⟨trivial, [], State.Entered.refl s⟩
  mark e s _ _ := ⟨trivial, [e], s.entered_emit e⟩

theorem stages_growing : Discipline.Conduct.Stages growing 3 := fun e _ _ =>
  Discipline.Ensures.change fun s _ _ => ⟨trivial, [e], s.entered_emit e⟩

/-- The last entry of a resolution tells what it came to. -/
theorem entered_resolveWithin {n : Nat} {d : Dependency} {r : Except ConfigurationError Instance}
    (h : c.resolveWithin n d s = some (r, s')) :
    ∃ es, s.Entered s' (es ++ [.resolved d r]) := by
  cases n with
  | zero => cases h
  | succ n =>
    obtain ⟨⟨r, t⟩, hrun, heq⟩ := Option.map_eq_some_iff.mp h
    cases heq
    have hself := c.admitsAll_growing.resolveWithin n
    obtain ⟨-, ⟨es, hes⟩, -⟩ := c.admitsAll_growing.answer hself d _ trivial trivial _ _ hrun
    exact ⟨_ :: es, ((s.entered_emit _).trans hes).trans (t.entered_emit _)⟩

/-- The arguments of a constructor or member are what was resolved for it. -/
theorem entered_arguments {n : Nat} {member : String} {ds : List Dependency}
    {values : List Instance}
    (h : Run.collect (c.resolveRequired (c.resolveWithin n) member) ds s = some (.ok values, s')) :
    ∃ es, s.Entered s' es ∧ List.Forall₂ (fun d i => .resolved d (.ok i) ∈ es) ds values := by
  induction ds generalizing s values with
  | nil =>
    cases h
    exact ⟨[], State.Entered.refl _, .nil⟩
  | cons d ds ih =>
    obtain ⟨i, t, hi, h⟩ := Run.andThen_eq_ok h
    obtain ⟨is, u, his, h⟩ := Run.andThen_eq_ok h
    cases h
    have hresolve : c.resolveWithin n d s = some (.ok i, t) := by
      unfold resolveRequired at hi
      split at hi
      · exact hi
      · cases hi
    obtain ⟨es, hes⟩ := entered_resolveWithin hresolve
    obtain ⟨fs, hfs, hall⟩ := ih his
    refine ⟨es ++ [.resolved d (.ok i)] ++ fs, hes.trans hfs, .cons (by simp) ?_⟩
    exact hall.imp fun _ _ hmem => List.mem_append_right _ hmem

end Container

end Wiring
