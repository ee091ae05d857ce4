import Wiring.Arguments

/-!
# Arguments Are Read in Turn

A member reads its arguments one by one, and each read says which type it expects. A read may fail,
since the argument in turn is of another type or since none is left. It counts nevertheless, and an
argument of another type is used up. So the reads and the arguments go in step for good: whatever
was read before, and with whatever success, the next read is about the argument whose turn it is.

## Conventions

Turns are counted from zero, while errors count reads from one.

## Main statements

* `Arguments.InTurn`: how far the reading of arguments is.
* `Arguments.InTurn.next`, `Arguments.InTurn.afterEach`: one read goes on by one turn, and several
  by as many.
* `Arguments.InTurn.answer`: what a read comes to, given whose turn it is.
* `Arguments.reads_keep_their_turns`: what each of a sequence of reads comes to.
-/

namespace Wiring.Arguments

/-- The arguments after reads of given types, whatever came of them. -/
def afterEach (a : Arguments) : List Ty → Arguments
  | [] => a
  | ty :: tys => (a.next ty).2.afterEach tys

/-- Of the arguments `values` of `member`, it is the turn of the one that follows the first `k`. -/
structure InTurn (member : String) (values : List Instance) (k : Nat) (a : Arguments) : Prop where
  /-- The arguments are those of the member. -/
  member : a.member = member
  /-- The first `k` arguments were used up, and no other. -/
  rest : a.rest = values.drop k
  /-- There were `k` reads. -/
  taken : a.taken = k

variable {member : String} {values : List Instance} {k : Nat} {a : Arguments}

/-- At first it is the turn of the first argument. -/
theorem inTurn_ofList (member : String) (values : List Instance) :
    InTurn member values 0 (ofList member values) := ⟨rfl, rfl, rfl⟩

namespace InTurn

/-- Whose turn it is says it all. -/
theorem eq (h : InTurn member values k a) : a = ⟨member, values.drop k, k⟩ := by
  rw [← h.rest, ← h.taken, ← h.member]

/-- A read goes on by one turn, whatever comes of it. -/
theorem next (h : InTurn member values k a) (ty : Ty) :
    InTurn member values (k + 1) (a.next ty).2 := by
  have htail : values.drop (k + 1) = a.rest.tail := by rw [h.rest, List.tail_drop]
  unfold Arguments.next
  cases hrest : a.rest with
  | nil => exact ⟨h.member, by rw [htail, hrest, List.tail_nil], by rw [h.taken]⟩
  | cons i rest => exact ⟨h.member, by rw [htail, hrest, List.tail_cons], by rw [h.taken]⟩

/-- Reads go on by one turn each. -/
theorem afterEach (h : InTurn member values k a) (tys : List Ty) :
    InTurn member values (k + tys.length) (a.afterEach tys) := by
  induction tys generalizing k a with
  | nil => exact h
  | cons ty tys ih =>
    have hrest := ih (h.next ty)
    rwa [Nat.add_assoc, Nat.add_comm 1] at hrest

/-- A read is about the argument whose turn it is, or about none if all were used up. -/
theorem answer (h : InTurn member values k a) (ty : Ty) :
    (a.next ty).1 = match values[k]? with
      | some i => i.cast ty
      | none => .error (.missingArgument member (k + 1)) := by
  have hhead : values[k]? = a.rest.head? := by rw [h.rest, List.head?_drop]
  unfold Arguments.next
  cases hrest : a.rest with
  | nil => rw [hhead, hrest, List.head?_nil, h.member, h.taken]
  | cons i rest => rw [hhead, hrest, List.head?_cons]

end InTurn

/-- The `i`-th of some reads comes to what it does after the reads before it. -/
theorem getElem?_nextEach (a : Arguments) (tys : List Ty) (i : Nat) :
    (a.nextEach tys)[i]? = tys[i]?.map fun ty => ((a.afterEach (tys.take i)).next ty).1 := by
  induction tys generalizing a i with
  | nil => rfl
  | cons ty tys ih =>
    cases i with
    | zero => rfl
    | succ i => exact ih (a.next ty).2 i

/-- As many answers as reads. -/
theorem length_nextEach (a : Arguments) (tys : List Ty) :
    (a.nextEach tys).length = tys.length := by
  induction tys generalizing a with
  | nil => rfl
  | cons ty tys ih => exact congrArg (· + 1) (ih (a.next ty).2)

/-- **Reads keep their turns.** Whatever types a sequence of reads expects, there is one answer for
each read. The `i`-th read gives the `i`-th argument itself if that is of the expected type. If it
is of another type, the read reports both types; and if there are not so many arguments, it reports
the member and which read it is. After any number of reads, successful or not, exactly as many
arguments are used up, or all of them. -/
theorem reads_keep_their_turns (member : String) (values : List Instance) (tys : List Ty) :
    let a := ofList member values
    (a.nextEach tys).length = tys.length ∧
      (∀ i ty, tys[i]? = some ty →
        (∀ v, values[i]? = some v → v.ty = ty → (a.nextEach tys)[i]? = some (.ok v)) ∧
        (∀ v, values[i]? = some v → v.ty ≠ ty →
          (a.nextEach tys)[i]? = some (.error (.typeMismatch ty.name v.ty.name))) ∧
        (values.length ≤ i →
          (a.nextEach tys)[i]? = some (.error (.missingArgument member (i + 1))))) ∧
      ∀ i ≤ tys.length, a.afterEach (tys.take i) = ⟨member, values.drop i, i⟩ := by
  intro a
  have hturn : ∀ i ≤ tys.length, InTurn member values i (a.afterEach (tys.take i)) := by
    intro i hi
    have hreads := (inTurn_ofList member values).afterEach (tys.take i)
    rwa [List.length_take_of_le hi, Nat.zero_add] at hreads
  refine ⟨length_nextEach a tys, fun i ty hty => ?_, fun i hi => (hturn i hi).eq⟩
  obtain ⟨hi, -⟩ := List.getElem?_eq_some_iff.mp hty
  have hanswer := (hturn i (Nat.le_of_lt hi)).answer ty
  rw [getElem?_nextEach, hty, Option.map_some, hanswer]
  refine ⟨fun v hv hsame => ?_, fun v hv hother => ?_, fun hend => ?_⟩
  · subst hsame
    simp only [hv, Instance.cast_self]
  · simp only [hv, Instance.cast, if_neg hother]
  · rw [List.getElem?_eq_none hend]

/-- Arguments of a member that reads them in a wrong order, and one too many. -/
def shuffled : List Instance := [⟨4, .text "fare"⟩, ⟨7, .number 3⟩, ⟨5, .text "stop"⟩]

/-- The wrong and the surplus reads leave the second and the third argument to the reads whose turn
it is. -/
theorem shuffled_reads_keep_turns :
    let answers := (ofList "Tram.ring" shuffled).nextEach [.number, .number, .text, .text]
    answers[0]? = some (.error (.typeMismatch "u64" "String")) ∧
      answers[1]? = some (.ok ⟨7, .number 3⟩) ∧
      answers[2]? = some (.ok ⟨5, .text "stop"⟩) ∧
      answers[3]? = some (.error (.missingArgument "Tram.ring" 4)) := by
  obtain ⟨-, hreads, -⟩ :=
    reads_keep_their_turns "Tram.ring" shuffled [.number, .number, .text, .text]
  have hnumber : Ty.number.name = "u64" := by decide
  have htext : (Instance.mk 4 (.text "fare")).ty.name = "String" := by decide
  refine ⟨?_, ?_, ?_, ?_⟩
  · have hwrong := (hreads 0 .number rfl).2.1 ⟨4, .text "fare"⟩ rfl nofun
    rwa [hnumber, htext] at hwrong
  · exact (hreads 1 .number rfl).1 _ rfl rfl
  · exact (hreads 2 .text rfl).1 _ rfl rfl
  · exact (hreads 3 .text rfl).2.2 (Nat.le_refl 3)

end Wiring.Arguments
