import Wiring.Proofs.Notebook

/-!
# One Run Following Another

To compare two runs, one states how the states on both sides correspond, and shows that from
corresponding states the runs come to the same result and to corresponding states again. If `x`
comes to no end, then `y` may do anything, or, if the runs go in *lockstep*, must not come to an
end either. Like disciplines, this carries over from the parts of runs to the whole.

What a container does to the world hardly ever depends on the journal. A function of the world is
*blind* when it only ever adds to the journal, without looking at it. Two worlds that differ in
nothing but their journals are changed by it in the same way.

## Main statements

* `Follows`: one run follows another.
* `Follows.bind`, `Follows.attempt`, `Follows.each`, `Follows.collect`: how it carries over.
* `World.Blind`: functions that do not look at the journal.
* `World.Alike.act`: what they do to two worlds that differ in their journals.
-/

namespace Wiring

variable {α β : Type}

/-- From states that correspond by `R`, the run `y` comes to the same result as `x`, and the
states correspond again. In lockstep, `y` comes to an end only if `x` does. -/
def Follows (lockstep : Prop) (R : State → State → Prop) (x y : Run α) : Prop :=
  ∀ s t, R s t →
    match x s with
    | some (r, s') => ∃ t', y t = some (r, t') ∧ R s' t'
    | none => lockstep → y t = none

namespace Follows

variable {lockstep : Prop} {R : State → State → Prop}

/-- A run that follows another comes to the same end. -/
theorem eq_some {x y : Run α} (h : Follows lockstep R x y) {s t : State} (hR : R s t)
    {r : Except ConfigurationError α} {s' : State} (hx : x s = some (r, s')) :
    ∃ t', y t = some (r, t') ∧ R s' t' := by
  have hxy := h s t hR
  rwa [hx] at hxy

/-- In lockstep, a run that follows another comes to an end only if the other does. -/
theorem eq_none {x y : Run α} (h : Follows True R x y) {s t : State} (hR : R s t)
    (hx : x s = none) : y t = none := by
  have hxy := h s t hR
  rw [hx] at hxy
  exact hxy trivial

theorem succeed (a : α) : Follows lockstep R (Run.succeed a) (Run.succeed a) :=
  fun _ t hR => ⟨t, rfl, hR⟩

theorem fail (e : ConfigurationError) :
    Follows lockstep R (Run.fail e : Run α) (Run.fail e) := fun _ t hR => ⟨t, rfl, hR⟩

theorem stuck : Follows lockstep R (Run.stuck : Run α) Run.stuck := fun _ _ _ _ => rfl

theorem ofExcept (r : Except ConfigurationError α) :
    Follows lockstep R (Run.ofExcept r) (Run.ofExcept r) := by
  cases r with
  | error e => exact fail e
  | ok a => exact succeed a

/-- One run after another follows what follows step by step. -/
theorem bind {x y : Run α} {f g : α → Run β} (hx : Follows lockstep R x y)
    (hf : ∀ a, Follows lockstep R (f a) (g a)) :
    Follows lockstep R (x >>= f) (y >>= g) := by
  intro s t hR
  have hxy := hx s t hR
  rw [Run.bind_eq, Run.bind_eq]
  rcases hxs : x s with _ | ⟨_ | a, s'⟩
  · rw [hxs] at hxy
    intro hl
    rw [hxy hl]
  · rw [hxs] at hxy
    obtain ⟨t', ht, hR'⟩ := hxy
    exact ⟨t', by rw [ht], hR'⟩
  · rw [hxs] at hxy
    obtain ⟨t', ht, hR'⟩ := hxy
    rw [ht]
    exact hf a s' t' hR'

/-- Changing what a run comes to, and doing something to the state that keeps the states in
correspondence. -/
theorem map {x y : Run α} {f : Except ConfigurationError α → Except ConfigurationError β}
    {g : Except ConfigurationError α → State → State} (hx : Follows lockstep R x y)
    (hg : ∀ r s t, R s t → R (g r s) (g r t)) :
    Follows lockstep R (fun s => (x s).map fun (r, s') => (f r, g r s'))
      (fun s => (y s).map fun (r, s') => (f r, g r s')) := by
  intro s t hR
  have hxy := hx s t hR
  dsimp only
  rcases hxs : x s with _ | ⟨r, s'⟩
  · rw [hxs] at hxy
    intro hl
    rw [hxy hl]
    rfl
  · rw [hxs] at hxy
    obtain ⟨t', ht, hR'⟩ := hxy
    exact ⟨g r t', by rw [ht]; rfl, hg r s' t' hR'⟩

/-- What follows does so if its errors are kept apart. -/
theorem attempt {x y : Run α} (hx : Follows lockstep R x y) :
    Follows lockstep R x.attempt y.attempt := hx.map (g := fun _ s => s) fun _ _ _ h => h

/-- What follows does so if its errors are changed alike. -/
theorem mapError {x y : Run α} (f : ConfigurationError → ConfigurationError)
    (hx : Follows lockstep R x y) : Follows lockstep R (x.mapError f) (y.mapError f) :=
  hx.map (g := fun _ s => s) fun _ _ _ h => h

/-- What follows does so if it is told of alike. -/
theorem noting {x y : Run α} {f : Except ConfigurationError α → Event}
    (hx : Follows lockstep R x y)
    (hf : ∀ r s t, R s t → R { s with world := s.world.emit (f r) }
      { t with world := t.world.emit (f r) }) :
    Follows lockstep R (x.noting f) (y.noting f) := hx.map (f := id) hf

/-- The same is read of corresponding states. -/
theorem read {f g : State → α} (h : ∀ s t, R s t → f s = g t) :
    Follows lockstep R (Run.read f) (Run.read g) :=
  fun s t hR => ⟨t, by rw [h s t hR]; rfl, hR⟩

/-- What is remembered alike follows. -/
theorem remember {f g : Memory → Memory}
    (h : ∀ s t, R s t → R { s with memory := f s.memory } { t with memory := g t.memory }) :
    Follows lockstep R (Run.remember f) (Run.remember g) := fun s t hR => ⟨_, rfl, h s t hR⟩

/-- What is noted alike follows. -/
theorem note {f g : Notebook → α × Notebook}
    (h : ∀ s t, R s t → (f s.notebook).1 = (g t.notebook).1 ∧
      R (s.withNotebook (f s.notebook).2) (t.withNotebook (g t.notebook).2)) :
    Follows lockstep R (Run.note f) (Run.note g) := by
  intro s t hR
  obtain ⟨h1, h2⟩ := h s t hR
  exact ⟨t.withNotebook (g t.notebook).2, by rw [h1]; rfl, h2⟩

/-- Doing something for each element follows if each step does. -/
theorem each {f g : α → Run Unit} {as : List α}
    (h : ∀ a ∈ as, Follows lockstep R (f a) (g a)) :
    Follows lockstep R (Run.each f as) (Run.each g as) := by
  induction as with
  | nil => exact succeed ()
  | cons a as ih => exact bind (h a (by simp)) fun _ => ih fun b hb => h b (by simp [hb])

/-- Elements for which nothing is done may be left out on one side. -/
theorem each_filterMap {f : α → Run Unit} {g : β → Run Unit} {k : α → Option β} {as : List α}
    (hkeep : ∀ a ∈ as, ∀ b, k a = some b → Follows lockstep R (f a) (g b))
    (hdrop : ∀ a ∈ as, k a = none → Follows lockstep R (f a) (Run.succeed ())) :
    Follows lockstep R (Run.each f as) (Run.each g (as.filterMap k)) := by
  induction as with
  | nil => exact succeed ()
  | cons a as ih =>
    have hrest := ih (fun b hb => hkeep b (by simp [hb])) fun b hb => hdrop b (by simp [hb])
    cases hk : k a with
    | none =>
      rw [List.filterMap_cons_none hk]
      exact (hdrop a (by simp) hk).bind fun _ => hrest
    | some b =>
      rw [List.filterMap_cons_some hk]
      exact (hkeep a (by simp) b hk).bind fun _ => hrest

/-- So does collecting. -/
theorem collect {f g : α → Run β} {as : List α}
    (h : ∀ a ∈ as, Follows lockstep R (f a) (g a)) :
    Follows lockstep R (Run.collect f as) (Run.collect g as) := by
  induction as with
  | nil => exact succeed []
  | cons a as ih =>
    refine bind (h a (by simp)) fun b => ?_
    exact bind (ih fun b hb => h b (by simp [hb])) fun bs => succeed (b :: bs)

end Follows

/-! ### Blind functions of the world -/

namespace World

/-- The world with a journal that begins with `j`. -/
def before (w : World) (j : Array Event) : World := { w with journal := j ++ w.journal }

/-- The function does not look at the journal, and only adds to it. -/
def Blind (f : World → α × World) : Prop :=
  ∀ w j, f (w.before j) = ((f w).1, (f w).2.before j)

/-- A change of the world that does not look at the journal. -/
def BlindChange (f : World → World) : Prop := ∀ w j, f (w.before j) = (f w).before j

/-- An entry in the journal is a blind change. -/
theorem blindChange_emit (e : Event) : BlindChange (·.emit e) := by
  intro w j
  simp only [emit, before, Array.append_push]

/-- So is recording a call. -/
theorem blindChange_record (id : Nat) (call : Call) : BlindChange (·.record id call) :=
  fun _ _ => rfl

/-- So is keeping an instance in a context. -/
theorem blindChange_keepInContext (name : String) (key : Key) (i : Instance) :
    BlindChange (·.keepInContext name key i) := fun _ _ => rfl

/-- Making an instance of a value is blind. -/
theorem blind_wrap (v : Value) : Blind (·.wrap v) := fun _ _ => rfl

/-- So is adding an object. -/
theorem blind_addObject (cls : ClassPath) (history : List Call) (parts : Table ClassPath Nat) :
    Blind (·.addObject cls history parts) := fun _ _ => rfl

/-- So is calling an object as a provider. -/
theorem blind_countSupply (id : Nat) : Blind (·.countSupply id) := fun _ _ => rfl

/-- So is keeping an instance for a request or a session. -/
theorem blind_attributeOrInsert (k : Keeper) (key : Key) (i : Instance) :
    Blind (·.attributeOrInsert k key i) := by
  intro w j
  cases k <;> rfl

/-- So is making an object. -/
theorem blind_makeObject (cls : ClassPath) : Blind (·.makeObject cls) := by
  intro w j
  exact congrArg (Prod.mk _) (blindChange_emit _ (w.addObject cls [] ∅).2 j)

/-- So is making a service. -/
theorem blind_makeService (label : String) : Blind (·.makeService label) := by
  intro w j
  exact congrArg (Prod.mk _)
    (blindChange_emit _ { w with things := w.things.push .service } j)

/-- So is making a value for a label. -/
theorem blind_make (ty : Ty) (label : String) : Blind (·.make ty label) := by
  intro w j
  cases ty with
  | component cls =>
    have h : (w.before j).makeObject cls = _ := blind_makeObject cls w j
    simp only [make, h]
  | interface iface =>
    have h : (w.before j).makeService label = _ := blind_makeService label w j
    simp only [make, h]
  | _ => rfl

/-- So is making an instance for a label. -/
theorem blind_makeInstance (ty : Ty) (label : String) : Blind (·.makeInstance ty label) := by
  intro w j
  have h : (w.before j).make ty label = _ := blind_make ty label w j
  simp only [makeInstance, h]
  rfl

/-- So is looking for a part. -/
theorem blind_partOf (id : Nat) (cls : ClassPath) : Blind (·.partOf id cls) := by
  intro w j
  have hobject : (w.before j).object? id = w.object? id := rfl
  simp only [partOf, hobject]
  cases (w.object? id).bind (·.parts.get? cls) with
  | some part => rfl
  | none =>
    have h : (w.before j).makeObject cls = _ := blind_makeObject cls w j
    simp only [h]
    rfl

/-- So is following a path of parts. -/
theorem blind_partAlong (id : Nat) (path : List ClassPath) : Blind (·.partAlong id path) := by
  intro w j
  induction path generalizing w id with
  | nil => rfl
  | cons cls path ih =>
    have h : (w.before j).partOf id cls = _ := blind_partOf id cls w j
    simp only [partAlong, h]
    exact ih _ _

/-- So is looking for the session of a request. -/
theorem blind_sessionOf (request : Nat) : Blind (·.sessionOf request) := by
  intro w j
  have hrequest : (w.before j).request request = w.request request := rfl
  simp only [sessionOf, hrequest]
  cases (w.request request).session with
  | some id => rfl
  | none =>
    have h := blindChange_emit (.logged .sessionCreated)
      (w.addSession.2.modifyRequest request fun r => { r with session := some w.addSession.1 }) j
    exact congrArg (Prod.mk _) h

/-! ### Worlds that differ in their journals -/

/-- The worlds are the same but for what their journals say that is not of interest. -/
structure Alike (p : Event → Bool) (w v : World) : Prop where
  /-- They are the same but for the journals. -/
  core : { w with journal := #[] } = { v with journal := #[] }
  /-- The journals say the same about what is of interest. -/
  journal : w.journal.toList.filter p = v.journal.toList.filter p

variable {p : Event → Bool} {w v : World}

/-- A world is one with an empty journal, before which something happened. -/
theorem eq_before (w : World) : w = before { w with journal := #[] } w.journal := by
  simp [before]

/-- Worlds with journals that are alike for `p` are alike. -/
theorem Alike.before {u : World} {j k : Array Event} (h : j.toList.filter p = k.toList.filter p) :
    Alike p (u.before j) (u.before k) :=
  ⟨rfl, by simp only [World.before, Array.toList_append, List.filter_append, h]⟩

/-- A blind function does the same to both worlds. -/
theorem Alike.act {f : World → α × World} (hf : Blind f) (h : Alike p w v) :
    (f w).1 = (f v).1 ∧ Alike p (f w).2 (f v).2 := by
  rw [w.eq_before, v.eq_before, ← h.core, hf, hf]
  exact ⟨rfl, .before h.journal⟩

end World

end Wiring
