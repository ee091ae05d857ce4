import Mathlib.Data.List.Forall2
import Wiring.Proofs.Notebook

/-!
# Contracts

Much of what is true of a container is true because every single thing that it does keeps to some
rule, and because rules of this kind carry over from parts of a run to the whole. A `Contract` is
such a rule: an invariant of states, a relation between the state before and the state after,
whether runs have to come to an end, which errors they may report, and which values count as values
of a type. `Contract.Meets` says that a run keeps to a contract, and what is known of its result.

The lemmas here are about the ways to put runs together; they do not depend on what the runs are
about.

## Conventions

A contract may ask for little. One that is not `total` has nothing to say about runs that never
end, and one that allows all errors has nothing to say about them. What a run did before it failed
counts like everything else.

## Main statements

* `Contract.Meets`: a run keeps to a contract.
* `Meets.bind`, `Meets.attempt`, `Meets.mapError`, `Meets.each`, `Meets.collect`: how it carries
  over.
* `Meets.frame`: what is known and stays known may be carried past a run.
* `Meets.ends`: a run that keeps to a total contract comes to an end.
-/

namespace Wiring

/-- A rule for what runs do and how they end. -/
structure Contract where
  /-- What holds of every state. -/
  Inv : State → Prop
  /-- How a state may develop. -/
  Step : State → State → Prop
  /-- Whether runs have to come to an end. -/
  total : Prop
  /-- The errors that runs may report. -/
  Error : ConfigurationError → Prop
  /-- The values that may be given as values of a type. -/
  Fits : State → Ty → Value → Prop
  /-- A state may stay as it is. -/
  refl : ∀ s, Step s s
  /-- Developments follow one another. -/
  trans : ∀ {s t u}, Step s t → Step t u → Step s u
  /-- What may be given may be given later on. -/
  fits_step : ∀ {s t ty v}, Step s t → Fits s ty v → Fits t ty v

namespace Contract

variable (K : Contract) {α β : Type}

/-- A state develops into another that satisfies the invariant. -/
def Moves (s s' : State) : Prop := K.Inv s' ∧ K.Step s s'

/-- How a run from `s` may end, where `V` is to hold of what it comes to. -/
def Outcome (s : State) (V : State → α → Prop) :
    Option (Except ConfigurationError α × State) → Prop
  | none => ¬ K.total
  | some (.error e, s') => K.Moves s s' ∧ K.Error e
  | some (.ok a, s') => K.Moves s s' ∧ V s' a

/-- A run keeps to the contract from states of which `P` holds, and `V` holds of what it comes
to. -/
def Meets (P : State → Prop) (x : Run α) (V : State → α → Prop) : Prop :=
  ∀ s, K.Inv s → P s → K.Outcome s V (x s)

/-- A run keeps to the contract. -/
def Allows (x : Run α) : Prop := K.Meets (fun _ => True) x fun _ _ => True

/-- A run keeps to the contract, and what it comes to may be given as a value of type `ty`. -/
def Gives (ty : Ty) (x : Run Instance) : Prop :=
  K.Meets (fun _ => True) x fun s i => K.Fits s ty i.value

/-- A fact about states that lasts. -/
def Lasting (P : State → Prop) : Prop := ∀ s s', K.Step s s' → P s → P s'

/-- The contract with other errors. -/
def reporting (E : ConfigurationError → Prop) : Contract := { K with Error := E }

variable {K} {s t u : State}

theorem Moves.refl (hs : K.Inv s) : K.Moves s s := ⟨hs, K.refl s⟩

theorem Moves.trans (h : K.Moves s t) (h' : K.Moves t u) : K.Moves s u := ⟨h'.1, K.trans h.2 h'.2⟩

theorem lasting_fits (ty : Ty) (v : Value) : K.Lasting fun s => K.Fits s ty v :=
  fun _ _ => K.fits_step

/-- What was done before a run counts as well. -/
theorem Outcome.after {V : State → α → Prop} {o : Option (Except ConfigurationError α × State)}
    (h : K.Moves s t) (ho : K.Outcome t V o) : K.Outcome s V o := by
  rcases o with _ | ⟨_ | _, _⟩
  · exact ho
  · exact ⟨h.trans ho.1, ho.2⟩
  · exact ⟨h.trans ho.1, ho.2⟩

/-- Outcomes may be told less about. -/
theorem Outcome.mono {V W : State → α → Prop} {o : Option (Except ConfigurationError α × State)}
    (ho : K.Outcome s V o) (hVW : ∀ s a, V s a → W s a) : K.Outcome s W o := by
  rcases o with _ | ⟨_ | _, _⟩
  · exact ho
  · exact ho
  · exact ⟨ho.1, hVW _ _ ho.2⟩

namespace Meets

variable {P : State → Prop} {V : State → α → Prop} {W : State → β → Prop}

/-! ### What is known of a run -/

/-- A run that meets a contract keeps to it. -/
theorem moves {x : Run α} (h : K.Meets P x V) (hs : K.Inv s) (hp : P s)
    {r : Except ConfigurationError α} (hx : x s = some (r, t)) : K.Moves s t := by
  have ho := h s hs hp
  rw [hx] at ho
  cases r <;> exact ho.1

/-- What a run is told to come to holds if it succeeds. -/
theorem ok {x : Run α} (h : K.Meets P x V) (hs : K.Inv s) (hp : P s) {a : α}
    (hx : x s = some (.ok a, t)) : V t a := by
  have ho := h s hs hp
  rw [hx] at ho
  exact ho.2

/-- If a run fails, then with an error that is permitted. -/
theorem error {x : Run α} (h : K.Meets P x V) (hs : K.Inv s) (hp : P s) {e : ConfigurationError}
    (hx : x s = some (.error e, t)) : K.Error e := by
  have ho := h s hs hp
  rw [hx] at ho
  exact ho.2

/-- A run that keeps to a total contract comes to an end. -/
theorem ends {x : Run α} (h : K.Meets P x V) (htotal : K.total) (hs : K.Inv s) (hp : P s) :
    ∃ r t, x s = some (r, t) := by
  have ho := h s hs hp
  rcases hx : x s with _ | ⟨r, t⟩
  · rw [hx] at ho
    exact absurd htotal ho
  · exact ⟨r, t, rfl⟩

/-- What a run does and comes to, if it ends, is all that a contract asks for that is not total. -/
theorem of_run {x : Run α} (htotal : ¬ K.total)
    (h : ∀ s r t, K.Inv s → P s → x s = some (r, t) → K.Moves s t ∧ (∀ a, r = .ok a → V t a) ∧
      ∀ e, r = .error e → K.Error e) : K.Meets P x V := by
  intro s hs hp
  rcases hx : x s with _ | ⟨r, t⟩
  · exact htotal
  · obtain ⟨hmoves, hok, herror⟩ := h s r t hs hp hx
    cases r with
    | error e => exact ⟨hmoves, herror e rfl⟩
    | ok a => exact ⟨hmoves, hok a rfl⟩

/-- Less may be asked for, and more assumed. -/
theorem weaken {P' : State → Prop} {V' : State → α → Prop} {x : Run α} (h : K.Meets P x V)
    (hP : ∀ s, P' s → P s) (hV : ∀ s a, V s a → V' s a) : K.Meets P' x V' :=
  fun s hs hp => (h s hs (hP s hp)).mono hV

/-- A run that keeps to the contract from all states does so from some. -/
theorem restrict {x : Run α} (h : K.Meets (fun _ => True) x V) : K.Meets P x V :=
  h.weaken (fun _ _ => trivial) fun _ _ h => h

/-- What a run comes to need not matter. -/
theorem allows {x : Run α} (h : K.Meets (fun _ => True) x V) : K.Allows x :=
  h.weaken (fun _ h => h) fun _ _ _ => trivial

/-! ### Ways to put runs together -/

/-- A run that succeeds at once does nothing. -/
theorem succeed {a : α} (h : ∀ s, K.Inv s → P s → V s a) : K.Meets P (Run.succeed a) V :=
  fun s hs hp => ⟨.refl hs, h s hs hp⟩

/-- A run may fail with a permitted error. -/
theorem fail {e : ConfigurationError} (h : ∀ s, K.Inv s → P s → K.Error e) :
    K.Meets P (Run.fail e) V := fun s hs hp => ⟨.refl hs, h s hs hp⟩

/-- A run may get stuck unless it has to come to an end. -/
theorem stuck (h : ∀ s, K.Inv s → P s → ¬ K.total) : K.Meets P Run.stuck V := h

/-- A result that is there has to be permitted. -/
theorem ofExcept {r : Except ConfigurationError α}
    (hok : ∀ a, r = .ok a → ∀ s, K.Inv s → P s → V s a)
    (herror : ∀ e, r = .error e → ∀ s, K.Inv s → P s → K.Error e) :
    K.Meets P (Run.ofExcept r) V := by
  cases r with
  | error e => exact fail (herror e rfl)
  | ok a => exact succeed (hok a rfl)

/-- Reading leaves everything as it is. -/
theorem read {f : State → α} (h : ∀ s, K.Inv s → P s → V s (f s)) : K.Meets P (Run.read f) V :=
  fun s hs hp => ⟨.refl hs, h s hs hp⟩

/-- What one run comes to the next one may assume. -/
theorem bind {x : Run α} {f : α → Run β} (hx : K.Meets P x V)
    (hf : ∀ a, K.Meets (fun s => V s a) (f a) W) : K.Meets P (x >>= f) W := by
  intro s hs hp
  have ho := hx s hs hp
  rw [Run.bind_eq]
  generalize x s = o at ho ⊢
  rcases o with _ | ⟨e | a, t⟩
  · exact ho
  · exact ho
  · exact (hf a t ho.1.1 ho.2).after ho.1

/-- The result of an attempt is a value or an error that may be reported. -/
theorem attempt {x : Run α} (hx : K.Meets P x V) :
    K.Meets P x.attempt fun s r =>
      match r with
      | .ok a => V s a
      | .error e => K.Error e := by
  intro s hs hp
  have ho := hx s hs hp
  rw [Run.attempt_eq]
  generalize x s = o at ho ⊢
  rcases o with _ | ⟨e | a, t⟩
  · exact ho
  · exact ho
  · exact ho

/-- Changed errors have to be permitted. -/
theorem mapError {x : Run α} {E : ConfigurationError → Prop}
    {f : ConfigurationError → ConfigurationError} (hx : (K.reporting E).Meets P x V)
    (hf : ∀ e, E e → K.Error (f e)) : K.Meets P (x.mapError f) V := by
  intro s hs hp
  have ho := hx s hs hp
  rw [Run.mapError]
  generalize x s = o at ho ⊢
  rcases o with _ | ⟨e | a, t⟩
  · exact ho
  · exact ⟨ho.1, hf e ho.2⟩
  · exact ho

/-- Two things that are known of a run. -/
theorem both {V' : State → α → Prop} {x : Run α} (hx : K.Meets P x V) (hx' : K.Meets P x V') :
    K.Meets P x fun s a => V s a ∧ V' s a := by
  intro s hs hp
  have ho := hx s hs hp
  have ho' := hx' s hs hp
  generalize x s = o at ho ho' ⊢
  rcases o with _ | ⟨e | a, t⟩
  · exact ho
  · exact ho
  · exact ⟨ho.1, ho.2, ho'.2⟩

/-- A fact that lasts may be carried past a run. -/
theorem frame {Q : State → Prop} {x : Run α} (hQ : K.Lasting Q) (hx : K.Meets P x V) :
    K.Meets (fun s => P s ∧ Q s) x fun s a => V s a ∧ Q s := by
  intro s hs hp
  have ho := hx s hs hp.1
  generalize x s = o at ho ⊢
  rcases o with _ | ⟨e | a, t⟩
  · exact ho
  · exact ho
  · exact ⟨ho.1, ho.2, hQ s t ho.1.2 hp.2⟩

/-- The same past a run that is done for its effect. -/
theorem andThen {Q : State → Prop} {x : Run α} {y : α → Run β} (hQ : K.Lasting Q)
    (hx : K.Allows x) (hy : ∀ a, K.Meets Q (y a) W) : K.Meets Q (x >>= y) W := by
  have h : K.Meets Q x fun s _ => Q s :=
    (hx.frame hQ).weaken (fun _ h => ⟨trivial, h⟩) fun _ _ h => h.2
  exact h.bind hy

/-- Doing something for each element is allowed if each step is. -/
theorem each {f : α → Run Unit} {as : List α} (h : ∀ a ∈ as, K.Allows (f a)) :
    K.Allows (Run.each f as) := by
  induction as with
  | nil => exact succeed fun _ _ _ => trivial
  | cons a as ih =>
    exact bind (h a (by simp)) fun _ => restrict (ih fun b hb => h b (by simp [hb]))

/-- The results of several runs, where what is known of each lasts. -/
theorem collect {f : α → Run β} {as : List α} {W : α → State → β → Prop}
    (h : ∀ a ∈ as, K.Meets (fun _ => True) (f a) (W a)) (hW : ∀ a b, K.Lasting (W a · b)) :
    K.Meets (fun _ => True) (Run.collect f as) fun s bs =>
      List.Forall₂ (fun a b => W a s b) as bs := by
  induction as with
  | nil => exact succeed fun _ _ _ => .nil
  | cons a as ih =>
    refine bind (h a (by simp)) fun b => ?_
    have hrest := ih fun a' ha' => h a' (by simp [ha'])
    have hframe := (hrest.frame (hW a b)).weaken (fun _ h => ⟨trivial, h⟩) fun _ _ h => h
    refine bind hframe fun bs => ?_
    exact succeed fun s _ hbs => .cons hbs.2 hbs.1

/-! ### Changes of the state -/

/-- What is done to the world has to keep to the contract. -/
theorem act {f : World → α × World}
    (h : ∀ s, K.Inv s → P s → K.Moves s { s with world := (f s.world).2 } ∧
      V { s with world := (f s.world).2 } (f s.world).1) : K.Meets P (Run.act f) V :=
  fun s hs hp => h s hs hp

/-- So have changes of the world. -/
theorem change {f : World → World}
    (h : ∀ s, K.Inv s → P s → K.Moves s { s with world := f s.world }) :
    K.Meets P (Run.change f) fun _ _ => True := fun s hs hp => ⟨h s hs hp, trivial⟩

/-- So has what is remembered. -/
theorem remember {f : Memory → Memory}
    (h : ∀ s, K.Inv s → P s → K.Moves s { s with memory := f s.memory }) :
    K.Meets P (Run.remember f) fun _ _ => True := fun s hs hp => ⟨h s hs hp, trivial⟩

/-- How a state develops is a fact that lasts. -/
theorem lasting_step (s₀ : State) : K.Lasting (K.Step s₀) := fun _ _ hstep h => K.trans h hstep

/-- The end of a run is entered in the journal, where it matters for the entry how the state
developed since the run began, or since some time before. -/
theorem noting_since {V W : State → State → α → Prop} {f : Except ConfigurationError α → Event}
    {x : Run α} (hx : ∀ s₀, K.Meets (K.Step s₀) x (V s₀))
    (h : ∀ s₀ s r, K.Inv s → K.Step s₀ s → (∀ a, r = .ok a → V s₀ s a) →
      (∀ e, r = .error e → K.Error e) →
      K.Inv { s with world := s.world.emit (f r) } ∧
      K.Step s₀ { s with world := s.world.emit (f r) } ∧
      ∀ a, r = .ok a → W s₀ { s with world := s.world.emit (f r) } a) (s₀ : State) :
    K.Meets (K.Step s₀) (x.noting f) (W s₀) := by
  intro s hs hp
  have ho := hx s s hs (K.refl s)
  have ho₀ := hx s₀ s hs hp
  rw [Run.noting]
  generalize x s = o at ho ho₀ ⊢
  rcases o with _ | ⟨e | a, t⟩
  · exact ho
  · have hr : ∀ V : State → State → α → Prop, ∀ s₀ a, .error e = Except.ok a → V s₀ t a := nofun
    have he : ∀ e', Except.error (α := α) e = .error e' → K.Error e' := fun _ h => by
      cases h
      exact ho.2
    obtain ⟨ht', hstep, -⟩ := h s t (.error e) ho.1.1 ho.1.2 (hr V s) he
    exact ⟨⟨ht', hstep⟩, ho.2⟩
  · have hr : ∀ s₀, V s₀ t a → ∀ b, .ok a = Except.ok (ε := ConfigurationError) b → V s₀ t b :=
      fun _ hv _ h => by cases h; exact hv
    have he : ∀ e', .ok a = Except.error (α := α) e' → K.Error e' := nofun
    obtain ⟨ht', hstep, -⟩ := h s t (.ok a) ho.1.1 ho.1.2 (hr s ho.2) he
    obtain ⟨-, -, hw⟩ := h s₀ t (.ok a) ho.1.1 (K.trans hp ho.1.2) (hr s₀ ho₀.2) he
    exact ⟨⟨ht', hstep⟩, hw a rfl⟩

/-- The same where only the last state matters. -/
theorem noting {f : Except ConfigurationError α → Event} {x : Run α} (hx : K.Meets P x V)
    (hV : ∀ a, K.Lasting (V · a))
    (h : ∀ r s, K.Inv s → (∀ a, r = .ok a → V s a) → (∀ e, r = .error e → K.Error e) →
      K.Moves s { s with world := s.world.emit (f r) }) : K.Meets P (x.noting f) V := by
  intro s hs hp
  have ho := hx s hs hp
  rw [Run.noting]
  generalize x s = o at ho ⊢
  rcases o with _ | ⟨e | a, t⟩
  · exact ho
  · have hmoves := h (.error e) t ho.1.1 nofun fun _ h => by
      cases h
      exact ho.2
    exact ⟨ho.1.trans hmoves, ho.2⟩
  · have hmoves := h (.ok a) t ho.1.1 (fun _ h => by cases h; exact ho.2) nofun
    exact ⟨ho.1.trans hmoves, hV a t _ hmoves.2 ho.2⟩

end Meets

end Contract

end Wiring
