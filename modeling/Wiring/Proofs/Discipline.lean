import Wiring.Proofs.Contract

/-!
# Disciplines

A discipline is a rule about what runs do to the state, which says nothing about how they end. It
is an invariant of states, a relation between the state before and the state after, and a set of
things that may be referred to. `Discipline.Ensures` says that a run keeps to it, and what is known
of its result.

To keep to a discipline is to meet a contract that lets runs go on forever and report what they
like. So what is known of the ways to put runs together is known from contracts.

## Conventions

Runs that never end keep to every discipline. What a run did before it failed counts like
everything else.

## Main statements

* `Discipline.Ensures`: a run keeps to a discipline.
* `Ensures.meets`, `Discipline.ensures_of_meets`: which is to meet its contract.
* `Ensures.bind`, `Ensures.attempt`, `Ensures.each`, `Ensures.collect`: how it carries over.
* `Ensures.frame`: what is known and stays known may be carried past a run.
* `Discipline.Never`, `Ensures.never_collect`: runs that never succeed.
-/

namespace Wiring

/-- The number of the thing that a value refers to, if it does: of an object or a service. -/
def Value.thing? : Value → Option Nat
  | object _ id => some id
  | service _ _ id => some id
  | _ => none

/-- A rule for what runs do. -/
structure Discipline where
  /-- What holds of every state. -/
  Inv : State → Prop
  /-- How a state may develop. -/
  Step : State → State → Prop
  /-- The numbers of the things that may be referred to. -/
  Known : State → Nat → Prop
  /-- A state may stay as it is. -/
  refl : ∀ s, Step s s
  /-- Developments follow one another. -/
  trans : ∀ {s t u}, Step s t → Step t u → Step s u
  /-- What may be referred to may be referred to later on. -/
  known_step : ∀ {s t id}, Step s t → Known s id → Known t id

namespace Discipline

variable (D : Discipline) {α β : Type}

/-- An instance refers to nothing but known things. -/
def Knows (s : State) (i : Instance) : Prop := ∀ id, i.value.thing? = some id → D.Known s id

/-- A run keeps to the discipline from states of which `P` holds, and `V` holds of what it comes
to. -/
def Ensures (P : State → Prop) (x : Run α) (V : State → α → Prop) : Prop :=
  ∀ s, D.Inv s → P s → ∀ r s', x s = some (r, s') →
    D.Inv s' ∧ D.Step s s' ∧ ∀ a, r = .ok a → V s' a

/-- A run keeps to the discipline. -/
def Allows (x : Run α) : Prop := D.Ensures (fun _ => True) x fun _ _ => True

/-- A run keeps to the discipline, and what it comes to refers to nothing but known things. -/
def Gives (x : Run Instance) : Prop := D.Ensures (fun _ => True) x D.Knows

/-- A run keeps to the discipline and never succeeds. -/
def Never (x : Run α) : Prop := D.Ensures (fun _ => True) x fun _ _ => False

/-- A fact about states that lasts. -/
def Lasting (P : State → Prop) : Prop := ∀ s s', D.Step s s' → P s → P s'

/-- The contract that asks for the discipline and for nothing else. -/
def contract : Contract where
  Inv := D.Inv
  Step := D.Step
  total := False
  Error _ := True
  Fits _ _ _ := True
  refl := D.refl
  trans := D.trans
  fits_step _ _ := trivial

variable {D}

/-- What is known stays known. -/
theorem Knows.step {s s' : State} {i : Instance} (h : D.Step s s') (hi : D.Knows s i) :
    D.Knows s' i := fun id hid => D.known_step h (hi id hid)

theorem lasting_known (id : Nat) : D.Lasting fun s => D.Known s id := fun _ _ => D.known_step

theorem lasting_knows (i : Instance) : D.Lasting fun s => D.Knows s i := fun _ _ => Knows.step

/-- A run that keeps to a discipline meets its contract. -/
theorem Ensures.meets {P : State → Prop} {x : Run α} {V : State → α → Prop}
    (h : D.Ensures P x V) : D.contract.Meets P x V := by
  refine .of_run id fun s r t hs hp hx => ?_
  obtain ⟨ht, hstep, hv⟩ := h s hs hp r t hx
  exact ⟨⟨ht, hstep⟩, hv, fun _ _ => trivial⟩

/-- A run that meets the contract of a discipline keeps to it. -/
theorem ensures_of_meets {P : State → Prop} {x : Run α} {V : State → α → Prop}
    (h : D.contract.Meets P x V) : D.Ensures P x V := by
  intro s hs hp r t hx
  obtain ⟨ht, hstep⟩ := h.moves hs hp hx
  exact ⟨ht, hstep, fun a ha => h.ok hs hp (ha ▸ hx)⟩

/-- Less may be asked for, and more assumed. -/
theorem Ensures.weaken {P P' : State → Prop} {V V' : State → α → Prop} {x : Run α}
    (h : D.Ensures P x V) (hP : ∀ s, P' s → P s) (hV : ∀ s a, V s a → V' s a) :
    D.Ensures P' x V' := ensures_of_meets (h.meets.weaken hP hV)

/-- A run that keeps to the discipline from all states does so from some. -/
theorem Allows.ensures {P : State → Prop} {x : Run α} (h : D.Allows x) :
    D.Ensures P x fun _ _ => True := h.weaken (fun _ _ => trivial) fun _ _ h => h

/-- What a run comes to need not matter. -/
theorem Ensures.allows {V : State → α → Prop} {x : Run α}
    (h : D.Ensures (fun _ => True) x V) : D.Allows x := h.weaken (fun _ h => h) fun _ _ _ => trivial

namespace Ensures

variable {P : State → Prop} {V : State → α → Prop} {W : State → β → Prop}

/-! ### Ways to put runs together -/

/-- A run that succeeds at once does nothing. -/
theorem succeed {a : α} (h : ∀ s, D.Inv s → P s → V s a) : D.Ensures P (Run.succeed a) V :=
  ensures_of_meets (.succeed h)

theorem fail (e : ConfigurationError) : D.Ensures P (Run.fail e) V :=
  ensures_of_meets (.fail fun _ _ _ => trivial)

theorem stuck : D.Ensures P Run.stuck V := ensures_of_meets (.stuck fun _ _ _ => id)

/-- A result that is there leaves everything as it is. -/
theorem ofExcept {r : Except ConfigurationError α} (h : ∀ a, r = .ok a → ∀ s, P s → V s a) :
    D.Ensures P (Run.ofExcept r) V :=
  ensures_of_meets (.ofExcept (fun a ha s _ hp => h a ha s hp) fun _ _ _ _ _ => trivial)

/-- So does reading. -/
theorem read {f : State → α} (h : ∀ s, D.Inv s → P s → V s (f s)) :
    D.Ensures P (Run.read f) V := ensures_of_meets (.read h)

/-- What one run ensures the next one may assume. -/
theorem bind {x : Run α} {f : α → Run β} (hx : D.Ensures P x V)
    (hf : ∀ a, D.Ensures (fun s => V s a) (f a) W) : D.Ensures P (x >>= f) W :=
  ensures_of_meets (hx.meets.bind fun a => (hf a).meets)

/-- A run whose errors are kept apart ensures the same if it succeeds. -/
theorem attempt {x : Run α} (hx : D.Ensures P x V) :
    D.Ensures P x.attempt fun s r => ∀ a, r = .ok a → V s a :=
  ensures_of_meets <| hx.meets.attempt.weaken (fun _ h => h) fun s r h a ha => by
    cases ha
    exact h

/-- Changing errors does not matter. -/
theorem mapError {x : Run α} (f : ConfigurationError → ConfigurationError)
    (hx : D.Ensures P x V) : D.Ensures P (x.mapError f) V :=
  ensures_of_meets (.mapError hx.meets fun _ _ => trivial)

/-- Two things that are known of a run. -/
theorem both {V' : State → α → Prop} {x : Run α} (hx : D.Ensures P x V) (hx' : D.Ensures P x V') :
    D.Ensures P x fun s a => V s a ∧ V' s a := ensures_of_meets (hx.meets.both hx'.meets)

/-- A fact that lasts may be carried past a run. -/
theorem frame {Q : State → Prop} {x : Run α} (hQ : D.Lasting Q) (hx : D.Ensures P x V) :
    D.Ensures (fun s => P s ∧ Q s) x fun s a => V s a ∧ Q s := ensures_of_meets (hx.meets.frame hQ)

/-- The same past a run that is done for its effect. -/
theorem andThen {Q : State → Prop} {x : Run α} {y : α → Run β} (hQ : D.Lasting Q)
    (hx : D.Allows x) (hy : ∀ a, D.Ensures Q (y a) W) : D.Ensures Q (x >>= y) W :=
  ensures_of_meets (.andThen hQ hx.meets fun a => (hy a).meets)

/-- The same past a run that is done for what it comes to. -/
theorem beside {Q : State → Prop} {x : Run α} {y : α → Run β} (hQ : D.Lasting Q)
    (hx : D.Ensures (fun _ => True) x V) (hy : ∀ a, D.Ensures (fun s => Q s ∧ V s a) (y a) W) :
    D.Ensures Q (x >>= y) W :=
  ((hx.frame hQ).weaken (fun _ h => ⟨trivial, h⟩) fun _ _ h => h.symm).bind hy

/-- Doing something for each element is allowed if each step is. -/
theorem each {f : α → Run Unit} {as : List α} (h : ∀ a ∈ as, D.Allows (f a)) :
    D.Allows (Run.each f as) := ensures_of_meets (.each fun a ha => (h a ha).meets)

/-- So is collecting. -/
theorem collect {f : α → Run β} {as : List α} (h : ∀ a ∈ as, D.Allows (f a)) :
    D.Allows (Run.collect f as) :=
  have hmeets : ∀ a ∈ as, D.contract.Allows (f a) := fun a ha => (h a ha).meets
  ensures_of_meets (Contract.Meets.collect hmeets fun _ _ _ _ _ => id).allows

/-! ### Runs that never succeed -/

/-- What comes after a run that never succeeds does not matter. -/
theorem never_then {x : Run α} (f : α → Run β) (hx : D.Never x) : D.Never (x >>= f) :=
  hx.bind fun _ _ _ h => h.elim

/-- A run never succeeds if what comes after it does not. -/
theorem then_never {x : Run α} {f : α → Run β} (hx : D.Allows x) (hf : ∀ a, D.Never (f a)) :
    D.Never (x >>= f) := hx.bind hf

/-- Doing something for each element never succeeds if it does not for one of them. -/
theorem never_each {f : α → Run Unit} {as : List α} (h : ∀ a ∈ as, D.Allows (f a)) {a : α}
    (ha : a ∈ as) (hf : D.Never (f a)) : D.Never (Run.each f as) := by
  induction as with
  | nil => cases ha
  | cons b as ih =>
    rcases List.mem_cons.mp ha with rfl | ha
    · exact never_then _ hf
    · exact then_never (h b (by simp)) fun _ => ih (fun a' ha' => h a' (by simp [ha'])) ha

/-- Neither does collecting. -/
theorem never_collect {f : α → Run β} {as : List α} (h : ∀ a ∈ as, D.Allows (f a)) {a : α}
    (ha : a ∈ as) (hf : D.Never (f a)) : D.Never (Run.collect f as) := by
  induction as with
  | nil => cases ha
  | cons b as ih =>
    rcases List.mem_cons.mp ha with rfl | ha
    · exact never_then _ hf
    · refine then_never (h b (by simp)) fun _ => never_then _ ?_
      exact ih (fun a' ha' => h a' (by simp [ha'])) ha

/-! ### Changes of the state -/

/-- What is done to the world has to be told from states. -/
theorem act {f : World → α × World}
    (h : ∀ s, D.Inv s → P s → D.Inv { s with world := (f s.world).2 } ∧
      D.Step s { s with world := (f s.world).2 } ∧
      V { s with world := (f s.world).2 } (f s.world).1) : D.Ensures P (Run.act f) V := by
  refine ensures_of_meets (.act fun s hs hp => ?_)
  obtain ⟨hs', hstep, hv⟩ := h s hs hp
  exact ⟨⟨hs', hstep⟩, hv⟩

/-- So have changes of the world. -/
theorem change {f : World → World}
    (h : ∀ s, D.Inv s → P s → D.Inv { s with world := f s.world } ∧
      D.Step s { s with world := f s.world }) :
    D.Ensures P (Run.change f) fun _ _ => True := ensures_of_meets (.change h)

/-- So has what is remembered. -/
theorem remember {f : Memory → Memory}
    (h : ∀ s, D.Inv s → P s → D.Inv { s with memory := f s.memory } ∧
      D.Step s { s with memory := f s.memory }) :
    D.Ensures P (Run.remember f) fun _ _ => True := ensures_of_meets (.remember h)

/-- A run that is told of ensures the same if the entry does no harm. -/
theorem noting {f : Except ConfigurationError α → Event} {x : Run α} (hx : D.Ensures P x V)
    (hV : ∀ a, D.Lasting (V · a))
    (h : ∀ r s, D.Inv s → (∀ a, r = .ok a → V s a) → D.Inv { s with world := s.world.emit (f r) } ∧
      D.Step s { s with world := s.world.emit (f r) }) : D.Ensures P (x.noting f) V :=
  ensures_of_meets (hx.meets.noting hV fun r s hs hv _ => h r s hs hv)

/-- How a state develops is a fact that lasts. -/
theorem lasting_step (s₀ : State) : D.Lasting (D.Step s₀) :=
  Contract.Meets.lasting_step (K := D.contract) s₀

/-- The end of a run is entered in the journal, where it matters for the entry how the state
developed since the run began, or since some time before. -/
theorem noting_since {V W : State → State → α → Prop} {f : Except ConfigurationError α → Event}
    {x : Run α} (hx : ∀ s₀, D.Ensures (D.Step s₀) x (V s₀))
    (h : ∀ s₀ s r, D.Inv s → D.Step s₀ s → (∀ a, r = .ok a → V s₀ s a) →
      D.Inv { s with world := s.world.emit (f r) } ∧
      D.Step s₀ { s with world := s.world.emit (f r) } ∧
      ∀ a, r = .ok a → W s₀ { s with world := s.world.emit (f r) } a) (s₀ : State) :
    D.Ensures (D.Step s₀) (x.noting f) (W s₀) :=
  ensures_of_meets <| .noting_since (K := D.contract) (fun s₀ => (hx s₀).meets)
    (fun s₀ s r hs hstep hv _ => h s₀ s r hs hstep hv) s₀

end Ensures

/-- The discipline of an invariant, which asks for nothing else. -/
def ofInvariant (I : State → Prop) : Discipline where
  Inv := I
  Step _ _ := True
  Known _ _ := True
  refl _ := trivial
  trans _ _ := trivial
  known_step _ _ := trivial

end Discipline

end Wiring
