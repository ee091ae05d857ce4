import Wiring.Run

/-!
# Runs in Concord

Two runs are in concord if they come to the same from any two states of which an invariant holds:
both fail with errors that correspond, or both succeed with results that correspond. The two states
need have nothing else in common, so a run that is in concord with itself comes to the same whatever
happened before, as long as that kept the invariant.

As with disciplines, this carries over from the parts of runs to the whole. It is a partial notion:
runs that never end are in concord with everything.

## Conventions

Which errors correspond is said by a relation `E`. If it is equality, then the runs fail with the
same error. If it holds of all errors, then nothing is said but that both fail.

## Main statements

* `SameEnd`: two ends correspond.
* `Concord`: two runs come to corresponding ends.
* `Concord.bind`, `Concord.attempt`, `Concord.each`: how it carries over.
* `Concord.of_results`: runs that both come to what is fixed beforehand are in concord.
-/

namespace Wiring

variable {α β γ δ : Type} {E : ConfigurationError → ConfigurationError → Prop}

/-- Two ends correspond: both are errors that correspond by `E`, or both are results that correspond
by `Q`. -/
def SameEnd (E : ConfigurationError → ConfigurationError → Prop) (Q : α → β → Prop) :
    Except ConfigurationError α → Except ConfigurationError β → Prop
  | .ok a, .ok b => Q a b
  | .error e, .error e' => E e e'
  | _, _ => False

namespace SameEnd

variable {Q : α → β → Prop} {r : Except ConfigurationError α} {r' : Except ConfigurationError β}

/-- The same end may be told less about. -/
theorem imp {E' : ConfigurationError → ConfigurationError → Prop} {Q' : α → β → Prop}
    (hE : ∀ e e', E e e' → E' e e') (hQ : ∀ a b, Q a b → Q' a b) (h : SameEnd E Q r r') :
    SameEnd E' Q' r r' := by
  cases r <;> cases r' <;> first | exact h | exact hE _ _ h | exact hQ _ _ h

/-- Ends are the same from either side. -/
theorem symm {E' : ConfigurationError → ConfigurationError → Prop} {Q' : β → α → Prop}
    (hE : ∀ e e', E e e' → E' e' e) (hQ : ∀ a b, Q a b → Q' b a) (h : SameEnd E Q r r') :
    SameEnd E' Q' r' r := by
  cases r with
  | error e =>
    cases r' with
    | error e' => exact hE e e' h
    | ok b => exact h
  | ok a =>
    cases r' with
    | error e' => exact h
    | ok b => exact hQ a b h

/-- Ends that both correspond to a third correspond. -/
theorem join {P : γ → β → Prop} {O : α → γ → Prop} (hE : ∀ e e' e₀, E e e₀ → E e' e₀ → E e e')
    (hQ : ∀ a b c, Q a b → P c b → O a c) {r'' : Except ConfigurationError γ}
    (h : SameEnd E Q r r') (h' : SameEnd E P r'' r') : SameEnd E O r r'' := by
  cases r with
  | error e =>
    cases r' with
    | error e' =>
      cases r'' with
      | error e'' => exact hE e e'' e' h h'
      | ok c => exact h'
    | ok b => exact h.elim
  | ok a =>
    cases r' with
    | error e' => exact h.elim
    | ok b =>
      cases r'' with
      | error e'' => exact h'
      | ok c => exact hQ a b c h h'

/-- One run succeeds exactly when the other does. -/
theorem isOk_iff (h : SameEnd E Q r r') : (∃ a, r = .ok a) ↔ ∃ b, r' = .ok b := by
  cases r <;> cases r' <;> simp [SameEnd] at h ⊢

/-- If one fails, the other does so with an error that corresponds. -/
theorem exists_error {e : ConfigurationError} (h : SameEnd E Q (.error e) r') :
    ∃ e', r' = .error e' ∧ E e e' := by
  cases r' with
  | error e' => exact ⟨e', rfl, h⟩
  | ok b => exact h.elim

/-- Ends with the same result are equal, or are errors that correspond. -/
theorem eq_or_errors {r r' : Except ConfigurationError α} (h : SameEnd E Eq r r') :
    r = r' ∨ ∃ e e', r = .error e ∧ r' = .error e' ∧ E e e' := by
  cases r with
  | error e =>
    obtain ⟨e', rfl, he⟩ := exists_error h
    exact .inr ⟨e, e', rfl, rfl, he⟩
  | ok a =>
    cases r' with
    | error e' => exact h.elim
    | ok b => exact .inl (congrArg Except.ok h)

end SameEnd

/-- From any two states of which `I` holds, the runs come to corresponding ends, if they come to an
end, and `I` holds afterwards. -/
def Concord (E : ConfigurationError → ConfigurationError → Prop) (I : State → Prop)
    (Q : α → β → Prop) (x : Run α) (y : Run β) : Prop :=
  ∀ s t, I s → I t → ∀ r s' r' t', x s = some (r, s') → y t = some (r', t') →
    I s' ∧ I t' ∧ SameEnd E Q r r'

namespace Concord

variable {I : State → Prop} {Q : α → β → Prop} {x : Run α} {y : Run β}

/-- Concord may be told less about. -/
theorem mono {Q' : α → β → Prop} (hQ : ∀ a b, Q a b → Q' a b) (h : Concord E I Q x y) :
    Concord E I Q' x y := fun s t hs ht r s' r' t' hx hy =>
  have ⟨hs', ht', hend⟩ := h s t hs ht r s' r' t' hx hy
  ⟨hs', ht', hend.imp (fun _ _ h => h) hQ⟩

/-- Concord is the same from either side. -/
theorem symm {E' : ConfigurationError → ConfigurationError → Prop} {Q' : β → α → Prop}
    (hE : ∀ e e', E e e' → E' e' e) (hQ : ∀ a b, Q a b → Q' b a) (h : Concord E I Q x y) :
    Concord E' I Q' y x := fun s t hs ht r s' r' t' hx hy =>
  have ⟨ht', hs', hend⟩ := h t s ht hs r' t' r s' hy hx
  ⟨hs', ht', hend.symm hE hQ⟩

/-- A run is in concord with a result if it comes to a corresponding one from each state. -/
theorem ofExcept_iff {r₀ : Except ConfigurationError β} :
    Concord E I Q x (.ofExcept r₀) ↔
      ∀ s, I s → ∀ r s', x s = some (r, s') → I s' ∧ SameEnd E Q r r₀ := by
  have hfixed : ∀ t, Run.ofExcept r₀ t = some (r₀, t) := fun t => by cases r₀ <;> rfl
  constructor
  · intro h s hs r s' hx
    obtain ⟨hs', -, hend⟩ := h s s hs hs r s' r₀ s hx (hfixed s)
    exact ⟨hs', hend⟩
  · intro h s t hs ht r s' r' t' hx hy
    rw [hfixed] at hy
    cases hy
    obtain ⟨hs', hend⟩ := h s hs r s' hx
    exact ⟨hs', ht, hend⟩

/-- Runs that both come to what is fixed beforehand are in concord. -/
theorem of_results {P : γ → β → Prop} {O : α → γ → Prop} {z : Run γ}
    {r₀ : Except ConfigurationError β} (hx : Concord E I Q x (.ofExcept r₀))
    (hz : Concord E I P z (.ofExcept r₀)) (hE : ∀ e e' e₀, E e e₀ → E e' e₀ → E e e')
    (hQ : ∀ a b c, Q a b → P c b → O a c) : Concord E I O x z := by
  intro s t hs ht r s' r' t' hx' hz'
  obtain ⟨hs', hr⟩ := ofExcept_iff.mp hx s hs r s' hx'
  obtain ⟨ht', hr'⟩ := ofExcept_iff.mp hz t ht r' t' hz'
  exact ⟨hs', ht', hr.join hE hQ hr'⟩

/-- A run comes to what another comes to that it is in concord with. -/
theorem of_run {s₀ t₀ : State} {r₀ : Except ConfigurationError β} (h : Concord E I Q x y)
    (hs₀ : I s₀) (hrun : y s₀ = some (r₀, t₀)) : Concord E I Q x (.ofExcept r₀) :=
  ofExcept_iff.mpr fun s hs r s' hx =>
    have ⟨hs', _, hend⟩ := h s s₀ hs hs₀ r s' r₀ t₀ hx hrun
    ⟨hs', hend⟩

/-! ### Simple runs -/

/-- Runs that succeed with related results are in concord. -/
theorem succeed {a : α} {b : β} (h : Q a b) : Concord E I Q (Run.succeed a) (Run.succeed b) := by
  rintro s t hs ht _ _ _ _ ⟨⟩ ⟨⟩
  exact ⟨hs, ht, h⟩

/-- Runs that fail with related errors are in concord. -/
theorem fail {e e' : ConfigurationError} (h : E e e') :
    Concord E I Q (Run.fail e) (Run.fail e') := by
  rintro s t hs ht _ _ _ _ ⟨⟩ ⟨⟩
  exact ⟨hs, ht, h⟩

/-- Results that are related are in concord. -/
theorem ofExcept {r : Except ConfigurationError α} {r' : Except ConfigurationError β}
    (h : SameEnd E Q r r') : Concord E I Q (.ofExcept r) (.ofExcept r') := by
  intro s t hs ht _ _ _ _ hx hy
  cases r <;> cases r' <;> cases hx <;> cases hy <;> exact ⟨hs, ht, h⟩

/-- A run that never ends is in concord with everything. -/
theorem stuck_left : Concord E I Q Run.stuck y := by
  rintro s t - - _ _ _ _ ⟨⟩

/-- Nothing is said of a run that gets stuck. -/
theorem stuck_right : Concord E I Q x Run.stuck := by
  rintro s t - - _ _ _ _ _ ⟨⟩

/-- What is read of states is in concord if it is related. -/
theorem read {f : State → α} {g : State → β} (h : ∀ s t, I s → I t → Q (f s) (g t)) :
    Concord E I Q (Run.read f) (Run.read g) := by
  rintro s t hs ht _ _ _ _ ⟨⟩ ⟨⟩
  exact ⟨hs, ht, h s t hs ht⟩

/-- What is done to worlds is in concord if it keeps to the invariant. -/
theorem act {f : World → α × World} {g : World → β × World}
    (hf : ∀ s, I s → I { s with world := (f s.world).2 })
    (hg : ∀ s, I s → I { s with world := (g s.world).2 })
    (h : ∀ s t, I s → I t → Q (f s.world).1 (g t.world).1) :
    Concord E I Q (Run.act f) (Run.act g) := by
  rintro s t hs ht _ _ _ _ ⟨⟩ ⟨⟩
  exact ⟨hf s hs, hg t ht, h s t hs ht⟩

/-- So are changes of worlds. -/
theorem change {f g : World → World} (hf : ∀ s, I s → I { s with world := f s.world })
    (hg : ∀ s, I s → I { s with world := g s.world }) :
    Concord E I (fun _ _ => True) (Run.change f) (Run.change g) := by
  rintro s t hs ht _ _ _ _ ⟨⟩ ⟨⟩
  exact ⟨hf s hs, hg t ht, trivial⟩

/-- So is what is remembered. -/
theorem remember {f g : Memory → Memory} (hf : ∀ s, I s → I { s with memory := f s.memory })
    (hg : ∀ s, I s → I { s with memory := g s.memory }) :
    Concord E I (fun _ _ => True) (Run.remember f) (Run.remember g) := by
  rintro s t hs ht _ _ _ _ ⟨⟩ ⟨⟩
  exact ⟨hf s hs, hg t ht, trivial⟩

/-! ### Ways to put runs together -/

/-- What follows on related results may be in concord. -/
theorem bind {P : γ → δ → Prop} {f : α → Run γ} {g : β → Run δ} (hx : Concord E I Q x y)
    (hf : ∀ a b, Q a b → Concord E I P (f a) (g b)) : Concord E I P (x >>= f) (y >>= g) := by
  intro s t hs ht r s' r' t' hr hr'
  rw [Run.bind_eq] at hr hr'
  cases hxs : x s with
  | none =>
    rw [hxs] at hr
    cases hr
  | some p =>
    cases hyt : y t with
    | none =>
      rw [hyt] at hr'
      cases hr'
    | some q =>
      obtain ⟨o, u⟩ := p
      obtain ⟨o', v⟩ := q
      rw [hxs] at hr
      rw [hyt] at hr'
      obtain ⟨hu, hv, hend⟩ := hx s t hs ht o u o' v hxs hyt
      cases o with
      | error e =>
        cases o' with
        | error e' =>
          cases hr
          cases hr'
          exact ⟨hu, hv, hend⟩
        | ok b => exact hend.elim
      | ok a =>
        cases o' with
        | error e' => exact hend.elim
        | ok b => exact hf a b hend u v hu hv r s' r' t' hr hr'

/-- Runs in concord are so if their errors are kept apart. -/
theorem attempt (hx : Concord E I Q x y) : Concord E I (SameEnd E Q) x.attempt y.attempt := by
  intro s t hs ht r s' r' t' hr hr'
  obtain ⟨⟨o, u⟩, hxs, heq⟩ := Option.map_eq_some_iff.mp hr
  obtain ⟨⟨o', v⟩, hyt, heq'⟩ := Option.map_eq_some_iff.mp hr'
  cases heq
  cases heq'
  exact hx s t hs ht _ _ _ _ hxs hyt

/-- An entry at the end of the first run changes nothing. -/
theorem noting_left {f : Except ConfigurationError α → Event}
    (hI : ∀ s e, I s → I { s with world := s.world.emit e }) (hx : Concord E I Q x y) :
    Concord E I Q (x.noting f) y := by
  intro s t hs ht r s' r' t' hr hr'
  obtain ⟨⟨o, u⟩, hxs, heq⟩ := Option.map_eq_some_iff.mp hr
  cases heq
  obtain ⟨hu, hv, hend⟩ := hx s t hs ht r u r' t' hxs hr'
  exact ⟨hI u _ hu, hv, hend⟩

/-- Entries at the ends of both runs change nothing. -/
theorem noting {f : Except ConfigurationError α → Event} {g : Except ConfigurationError β → Event}
    (hI : ∀ s e, I s → I { s with world := s.world.emit e }) (hx : Concord E I Q x y) :
    Concord E I Q (x.noting f) (y.noting g) :=
  have hleft : Concord E I Q (x.noting f) y := hx.noting_left hI
  have hright : Concord (fun e' e => E e e') I (fun b a => Q a b) (y.noting g) (x.noting f) :=
    (hleft.symm (fun _ _ h => h) fun _ _ h => h).noting_left hI
  hright.symm (fun _ _ h => h) fun _ _ h => h

/-- Doing something for each element is in concord if each step is. -/
theorem each {f g : γ → Run Unit} {as : List γ}
    (h : ∀ a ∈ as, Concord E I (fun _ _ => True) (f a) (g a)) :
    Concord E I (fun _ _ => True) (Run.each f as) (Run.each g as) := by
  induction as with
  | nil => exact succeed trivial
  | cons a as ih =>
    refine bind (h a List.mem_cons_self) fun _ _ _ => ?_
    exact ih fun a' ha' => h a' (List.mem_cons_of_mem a ha')

end Concord

end Wiring
