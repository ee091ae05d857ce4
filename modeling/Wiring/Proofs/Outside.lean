import Wiring.Proofs.Reaching
import Wiring.Proofs.Requests
import Wiring.Proofs.Sharing

/-!
# Outside of Requests

Some dependencies come to an instance only while a request is handled: those that are bound in the
request scope or in the session scope, and the parts of the request themselves. Outside of requests
they are bound all the same, so they count as available, and an optional member that needs one is
not skipped. Resolving them fails at once, with an error that names the key and the scope, and
leaves no trace but in the journal.

What becomes of the error is told by the journal. Entries convey it if the run that made them came
to the same error, and nothing else was entered any more.

## Conventions

An error is out of sight where it is replaced or passed over, and that depends on the binding that
is supplying an instance at the time. Which keys those are is left open here.

## Main statements

* `Container.NeedsRequest`: what comes to nothing outside of requests.
* `Container.resolveWithin_of_needsRequest`: how resolving it fails.
* `Container.canResolve_of_needsRequest`: it counts as available.
* `Container.Conveyed`: entries that convey such an error; `Conveyed.append`, `Conveyed.supply`: how
  they are put together.
* `Phase.underway_of_replay`: a singleton is being supplied if the entries say so.
-/

namespace Wiring

/-! ### What needs a request -/

namespace Container

/-- A dependency is bound to something that there is only while a request is handled, in the scope
of the given name. -/
inductive NeedsRequest (c : Container) (d : Dependency) : String → Prop where
  /-- It is kept by requests. -/
  | request {b : Binding} : c.registry.lookup d.key = some b →
    b.scope = .contextual .request → NeedsRequest c d Accessor.requestName
  /-- It is kept by sessions. -/
  | session {b : Binding} : c.registry.lookup d.key = some b →
    b.scope = .contextual .session → NeedsRequest c d Accessor.sessionName
  /-- It is a part of the request. -/
  | part {b : Binding} {part : RequestPart} : c.registry.lookup d.key = some b →
    b.scope = .unscoped → b.source = .provider (.current part) → d.key = part.key →
    NeedsRequest c d Accessor.requestName

variable {c : Container} {d : Dependency} {name : String} {s : State}
  {self : Dependency → Run Instance}

/-- The entries of an attempt to resolve a dependency that needs a request: its binding may be asked
to supply it. -/
def attemptEntries (d : Dependency) (name : String) (asked : Bool) : List Event :=
  .logged (.resolving d.key) ::
    (if asked then [.supplying d.key, .supplied d.key (.error (.outOfScope d.key.text name))]
      else []) ++ [.resolved d (.error (.outOfScope d.key.text name))]

/-- Outside of requests, there is nothing to look into for what requests or sessions keep. -/
theorem answer_outside {b : Binding} {accessor : Accessor} (hb : c.registry.lookup d.key = some b)
    (hscope : b.scope = .contextual accessor)
    (haccessor : ∀ contextName rule, accessor ≠ .named contextName rule)
    (hs : s.world.currentExchange? = none) :
    c.answer self d s = some (.error (.outOfScope d.key.text accessor.scopeName), s) := by
  have hkey := Registry.key_of_lookup hb
  cases accessor with
  | named contextName rule => exact absurd rfl (haccessor contextName rule)
  | request | session =>
    simp only [answer, hb, resolveBinding, withinScope, hscope, accessed, Run.bind_eq, Run.read,
      hs, hkey]
    rfl

/-- Outside of requests, such a dependency fails at once, and nothing but that is noted. Its binding
is asked only if there is no scope to ask first. -/
theorem resolveStep_of_needsRequest (h : c.NeedsRequest d name)
    (hs : s.world.currentExchange? = none) :
    ∃ asked, (asked = true → ∃ b, c.registry.lookup d.key = some b ∧ b.scope = .unscoped) ∧
      c.resolveStep self d s = some (.error (.outOfScope d.key.text name),
        s.inWorld ((attemptEntries d name asked).foldl World.emit s.world)) := by
  let t := s.inWorld (s.world.log (.resolving d.key))
  have ht : t.world.currentExchange? = none := hs
  have hstep : c.resolveStep self d s = (c.answer self d t).map fun p =>
      (p.1, { p.2 with world := p.2.world.emit (.resolved d p.1) }) := rfl
  rw [hstep]
  cases h with
  | request hb hscope =>
    exact ⟨false, nofun, by rw [answer_outside hb hscope (by simp) ht]; rfl⟩
  | session hb hscope =>
    exact ⟨false, nofun, by rw [answer_outside hb hscope (by simp) ht]; rfl⟩
  | @part b part hb hscope hsource hpart =>
    refine ⟨true, fun _ => ⟨b, hb, hscope⟩, ?_⟩
    have hkey := Registry.key_of_lookup hb
    let u := t.inWorld (t.world.emit (.supplying d.key))
    have hu : u.world.currentExchange? = none := hs
    have hprovision : c.provision self b u =
        some (.error (.outOfScope d.key.text Accessor.requestName), u) := by
      simp only [provision, hsource, callProvider, currentPart, Run.bind_eq, Run.read, hu, hpart]
      rfl
    have hanswer : c.answer self d t = (c.provision self b u).map fun p =>
        (p.1, { p.2 with world := p.2.world.emit (.supplied d.key p.1) }) := by
      simp only [answer, hb, resolveBinding, withinScope, hscope, supply, hkey]
      rfl
    rw [hanswer, hprovision]
    rfl

/-- Outside of requests, what needs one is not resolved. -/
theorem resolveWithin_of_needsRequest (h : c.NeedsRequest d name)
    (hs : s.world.currentExchange? = none) (n : Nat) :
    ∃ asked, (asked = true → ∃ b, c.registry.lookup d.key = some b ∧ b.scope = .unscoped) ∧
      c.resolveWithin (n + 1) d s = some (.error (.outOfScope d.key.text name),
        s.inWorld ((attemptEntries d name asked).foldl World.emit s.world)) :=
  resolveStep_of_needsRequest h hs

/-- What needs a request is bound. -/
theorem NeedsRequest.contains (h : c.NeedsRequest d name) : c.registry.contains d.key = true := by
  rw [Registry.contains_eq_isSome_lookup]
  cases h with
  | request hb _ | session hb _ | part hb _ _ _ => rw [hb, Option.isSome_some]

/-- Such a dependency counts as available, for it is bound. -/
theorem canResolve_of_needsRequest (h : c.NeedsRequest d name) (s : State) :
    c.canResolve d s = some (.ok true, s) := by
  have havailable : c.available d s.notebook = (true, s.notebook) := by
    unfold available
    cases c.classes.size <;> simp [availableWithin, h.contains]
  rw [canResolve, Run.note, havailable]
  rfl

end Container

/-! ### What the entries tell -/

/-- Whether an event tells that the binding of `key` begins to supply an instance. -/
def Event.begins (key : Key) : Event → Bool
  | supplying k => k = key
  | _ => false

/-- Whether an event tells that the binding of `key` is done supplying an instance. -/
def Event.ends (key : Key) : Event → Bool
  | supplied k _ => k = key
  | _ => false

/-- After some entries, the binding of `key` is supplying an instance: it has begun to do so more
often than it was done. -/
def Underway (es : List Event) (key : Key) : Prop :=
  es.countP (Event.ends key) < es.countP (Event.begins key)

/-- Whether an event tells of the supply of an instance or of what a resolution comes to. -/
def Event.isSupplyOrResult : Event → Bool
  | supplying _ | supplied .. | resolved .. => true
  | _ => false

/-- What is no mark tells of no supply and of no result. -/
theorem Event.isSupplyOrResult_of_not_isMark {e : Event} (h : e.isMark = false) :
    e.isSupplyOrResult = false := by
  unfold isSupplyOrResult
  split
  all_goals first | cases h | rfl

/-- What tells of neither begins nothing. -/
theorem Event.begins_of_aside {e : Event} (h : e.isSupplyOrResult = false) (key : Key) :
    e.begins key = false := by
  unfold begins
  split
  · cases h
  · rfl

/-- What tells of neither ends nothing. -/
theorem Event.ends_of_aside {e : Event} (h : e.isSupplyOrResult = false) (key : Key) :
    e.ends key = false := by
  unfold ends
  split
  · cases h
  · rfl

/-- Where an entry of two lists stands, it stands in one of them. -/
theorem split_append {α : Type} {as bs pre post : List α} {x : α}
    (h : as ++ bs = pre ++ x :: post) :
    (∃ mid, as = pre ++ x :: mid ∧ post = mid ++ bs) ∨ ∃ mid, pre = as ++ mid ∧
      bs = mid ++ x :: post := by
  rcases List.append_eq_append_iff.mp h with ⟨mid, rfl, hbs⟩ | ⟨mid, rfl, hpost⟩
  · exact .inr ⟨mid, rfl, hbs⟩
  · cases mid with
    | nil => exact .inr ⟨[], by simp, hpost.symm⟩
    | cons y mid =>
      cases hpost
      exact .inl ⟨mid, rfl, rfl⟩

namespace Container

/-- Entries in which bindings are done supplying what they began to supply, and dependencies that
need a request come to the error that says so. -/
structure Accounted (c : Container) (es : List Event) : Prop where
  /-- No binding is left supplying. -/
  even : ∀ key, es.countP (Event.ends key) = es.countP (Event.begins key)
  /-- No binding is done before it began. -/
  within : ∀ pre post key, es = pre ++ post →
    pre.countP (Event.ends key) ≤ pre.countP (Event.begins key)
  /-- Dependencies that need a request fail. -/
  outcome : ∀ d name r, c.NeedsRequest d name → .resolved d r ∈ es →
    r = .error (.outOfScope d.key.text name)

/-- Entries of a run that came to `r`, in which such an error is passed on, unless it is out of
sight: the run came to the same error, and after it nothing else is entered. It is out of sight if
one of the keys of which `K` holds is being supplied. -/
structure Conveyed {α : Type} (c : Container) (K : Key → Prop) (r : Except ConfigurationError α)
    (es : List Event) : Prop extends c.Accounted es where
  /-- The error is passed on. -/
  conveyed : ∀ pre d name r' post, es = pre ++ .resolved d r' :: post → c.NeedsRequest d name →
    (∀ key, K key → ¬ Underway pre key) → r = .error (.outOfScope d.key.text name) ∧
      ∀ e ∈ post, e.failure? = some (.outOfScope d.key.text name)

variable {c : Container} {K : Key → Prop} {α β : Type} {es fs : List Event}

/-- Entries that tell of no supplies and no results. -/
theorem Accounted.of_aside (h : ∀ e ∈ es, e.isSupplyOrResult = false) : c.Accounted es := by
  have hbegins : ∀ fs : List Event, (∀ e ∈ fs, e.isSupplyOrResult = false) → ∀ key,
      fs.countP (Event.begins key) = 0 ∧ fs.countP (Event.ends key) = 0 := fun fs hfs key =>
    ⟨List.countP_eq_zero.mpr fun e he => by simp [Event.begins_of_aside (hfs e he)],
      List.countP_eq_zero.mpr fun e he => by simp [Event.ends_of_aside (hfs e he)]⟩
  refine ⟨fun key => ?_, fun pre post key hes => ?_, fun d name r _ hmem => nomatch h _ hmem⟩
  · rw [(hbegins es h key).1, (hbegins es h key).2]
  · have hpre := hbegins pre (fun e he => h e (hes ▸ List.mem_append_left post he)) key
    exact Nat.le_of_eq (hpre.2.trans hpre.1.symm)

/-- What is accounted for in turn is accounted for. -/
theorem Accounted.append (h : c.Accounted es) (h' : c.Accounted fs) :
    c.Accounted (es ++ fs) where
  even key := by rw [List.countP_append, List.countP_append, h.even, h'.even]
  within pre post key heq := by
    rcases List.append_eq_append_iff.mp heq with ⟨mid, rfl, hfs⟩ | ⟨mid, rfl, -⟩
    · rw [List.countP_append, List.countP_append, h.even]
      exact Nat.add_le_add_left (h'.within mid post key hfs) _
    · exact h.within pre mid key rfl
  outcome d name r hd hmem :=
    (List.mem_append.mp hmem).elim (h.outcome d name r hd) (h'.outcome d name r hd)

/-- A binding begins to supply an instance, and is done. -/
theorem Accounted.supply (h : c.Accounted es) (key : Key) (r : Except ConfigurationError Instance) :
    c.Accounted (.supplying key :: (es ++ [.supplied key r])) where
  even key' := by
    have heven := h.even key'
    by_cases hkey : key = key' <;> simp [Event.begins, Event.ends, hkey, heven]
  within pre post key' heq := by
    cases pre with
    | nil => simp
    | cons e pre =>
      obtain ⟨rfl, hrest⟩ := List.cons.inj heq
      have heven := h.even key'
      rcases List.append_eq_append_iff.mp hrest with ⟨mid, rfl, hmid⟩ | ⟨mid, rfl, -⟩
      · have hmid' : mid = [] ∨ mid = [.supplied key r] := by
          cases mid with
          | nil => exact .inl rfl
          | cons e mid => simp_all
        rcases hmid' with rfl | rfl <;> by_cases hkey : key = key' <;>
          simp [Event.begins, Event.ends, hkey, heven]
      · have hwithin := h.within pre mid key' rfl
        by_cases hkey : key = key' <;> simp [Event.begins, Event.ends, hkey] <;> omega
  outcome d name r' hd hmem := by
    refine h.outcome d name r' hd ?_
    simpa using hmem

/-- A dependency is resolved. -/
theorem Accounted.resolved (d : Dependency) (r : Except ConfigurationError Instance)
    (h : ∀ name, c.NeedsRequest d name → r = .error (.outOfScope d.key.text name)) :
    c.Accounted [.resolved d r] where
  even key := rfl
  within pre post key heq := by
    have hpre : pre.countP (Event.ends key) ≤ [Event.resolved d r].countP (Event.ends key) := by
      rw [heq]
      exact (List.sublist_append_left pre post).countP_le
    exact Nat.le_trans hpre (Nat.zero_le _)
  outcome d' name r' hd hmem := by
    cases List.mem_singleton.mp hmem
    exact h name hd

/-- What tells of no supply and of no result conveys nothing else. -/
theorem Conveyed.of_aside {r : Except ConfigurationError α}
    (h : ∀ e ∈ es, e.isSupplyOrResult = false) : c.Conveyed K r es where
  toAccounted := .of_aside h
  conveyed pre d name r' post hes := by
    have hmem : .resolved d r' ∈ es := by simp [hes]
    cases h _ hmem

/-- After a run that succeeds, another one comes to its result. -/
theorem Conveyed.append {a : α} {r : Except ConfigurationError β}
    (h : c.Conveyed K (.ok a : Except ConfigurationError α) es) (h' : c.Conveyed K r fs) :
    c.Conveyed K r (es ++ fs) where
  toAccounted := h.toAccounted.append h'.toAccounted
  conveyed pre d name r' post heq hd hK := by
    rcases split_append heq with ⟨mid, hes, -⟩ | ⟨mid, rfl, hfs⟩
    · cases (h.conveyed pre d name r' mid hes hd hK).1
    · refine h'.conveyed mid d name r' post hfs hd fun key hkey hunderway => hK key hkey ?_
      unfold Underway at hunderway ⊢
      rw [List.countP_append, List.countP_append, h.even]
      exact Nat.add_lt_add_left hunderway _

/-- The error of a part is the error of the whole. -/
theorem Conveyed.retype {e : ConfigurationError}
    (h : c.Conveyed K (.error e : Except ConfigurationError α) es) :
    c.Conveyed K (.error e : Except ConfigurationError β) es where
  toAccounted := h.toAccounted
  conveyed pre d name r' post hes hd hK := by
    obtain ⟨herror, hpost⟩ := h.conveyed pre d name r' post hes hd hK
    cases herror
    exact ⟨rfl, hpost⟩

/-- The end of a run is noted. -/
theorem Conveyed.concat {r : Except ConfigurationError α} {x : Event} (h : c.Conveyed K r es)
    (hx : c.Accounted [x]) (hfailure : ∀ e, r = .error e → x.failure? = some e)
    (hnew : ∀ d name r', x = .resolved d r' → c.NeedsRequest d name →
      r = .error (.outOfScope d.key.text name)) : c.Conveyed K r (es ++ [x]) where
  toAccounted := h.toAccounted.append hx
  conveyed pre d name r' post heq hd hK := by
    rcases split_append heq with ⟨mid, hes, rfl⟩ | ⟨mid, -, hmid⟩
    · obtain ⟨herror, hpost⟩ := h.conveyed pre d name r' mid hes hd hK
      refine ⟨herror, fun e he => ?_⟩
      rcases List.mem_append.mp he with he | he
      · exact hpost e he
      · rw [List.mem_singleton.mp he]
        exact hfailure _ herror
    · obtain ⟨rfl, hx, rfl⟩ : mid = [] ∧ x = .resolved d r' ∧ post = [] := by
        cases mid with
        | nil => simpa using hmid
        | cons y mid => simp at hmid
      exact ⟨hnew d name r' hx hd, List.forall_mem_nil _⟩

/-- A binding supplies an instance. -/
theorem Conveyed.supply {r : Except ConfigurationError Instance} (h : c.Conveyed K r es)
    (key : Key) : c.Conveyed K r (.supplying key :: (es ++ [.supplied key r])) where
  toAccounted := h.toAccounted.supply key r
  conveyed pre d name r' post heq hd hK := by
    cases pre with
    | nil => cases heq
    | cons x pre =>
      obtain ⟨rfl, hrest⟩ := List.cons.inj heq
      rcases split_append hrest with ⟨mid, hes, rfl⟩ | ⟨mid, -, hmid⟩
      · obtain ⟨herror, hpost⟩ := h.conveyed pre d name r' mid hes hd fun k hk hunderway => by
          refine hK k hk ?_
          unfold Underway at hunderway ⊢
          rw [List.countP_cons, List.countP_cons]
          simp only [Event.ends]
          exact Nat.lt_add_right _ hunderway
        refine ⟨herror, fun e he => ?_⟩
        rcases List.mem_append.mp he with he | he
        · exact hpost e he
        · rw [List.mem_singleton.mp he, herror]
          rfl
      · cases mid with
        | nil => simp at hmid
        | cons y mid => simp at hmid

/-- While a binding of which `K` holds is supplying an instance, errors are out of sight. -/
theorem Accounted.conveyed_supply (h : c.Accounted es) {key : Key} (hkey : K key)
    (r : Except ConfigurationError Instance) (r' : Except ConfigurationError β) :
    c.Conveyed K r' (.supplying key :: (es ++ [.supplied key r])) where
  toAccounted := h.supply key r
  conveyed pre d name r'' post heq _ hK := by
    cases pre with
    | nil => cases heq
    | cons x pre =>
      obtain ⟨rfl, hrest⟩ := List.cons.inj heq
      rcases split_append hrest with ⟨mid, hes, -⟩ | ⟨mid, -, hmid⟩
      · refine absurd ?_ (hK key hkey)
        have hwithin := h.within pre _ key hes
        simp [Underway, Event.begins, Event.ends]
        omega
      · cases mid with
        | nil => simp at hmid
        | cons y mid => simp at hmid

end Container

/-! ### Singletons that are being created -/

namespace Phase

variable {key : Key} {p q : Phase}

/-- A binding that begins is underway, and one that is done is not. -/
theorem begins_of_next {e : Event} (h : p.next key e = some q) :
    (if e.begins key then 1 else 0) + (if p = underway then 1 else 0) =
      (if e.ends key then 1 else 0) + (if q = underway then 1 else 0) := by
  unfold next at h
  split at h
  · split at h <;> simp_all [Event.begins, Event.ends]
    simp [← h.2]
  · split at h <;> simp_all [Event.begins, Event.ends]
    simp [← h.2]
  · next k r =>
    cases r <;> split at h <;> simp_all [Event.begins, Event.ends, ofResult]
    all_goals simp [← h.2]
  · split at h <;> simp_all [Event.begins, Event.ends]
  · next hsupplying hsupplied _ =>
    obtain rfl := Option.some.inj h
    have hbegins : e.begins key = false := by
      cases e with
      | supplying k => exact absurd rfl (hsupplying k)
      | _ => rfl
    have hends : e.ends key = false := by
      cases e with
      | supplied k r => exact absurd rfl (hsupplied k r)
      | _ => rfl
    simp [hbegins, hends]

/-- As often as a binding began to supply an instance, it was done, but for the time that it is
underway. -/
theorem countP_begins_of_replay {es : List Event} (h : p.replay key es = some q) :
    es.countP (Event.begins key) + (if p = underway then 1 else 0) =
      es.countP (Event.ends key) + (if q = underway then 1 else 0) := by
  induction es generalizing p with
  | nil =>
    obtain rfl := Option.some.inj h
    rfl
  | cons e es ih =>
    rw [replay, Option.bind_eq_some_iff] at h
    obtain ⟨p', hp', h⟩ := h
    have hnext := begins_of_next hp'
    have hrest := ih h
    rw [List.countP_cons, List.countP_cons]
    omega

/-- A singleton is being supplied if the entries say so. -/
theorem underway_of_replay {es : List Event} (h : p.replay key es = some q)
    (hunderway : Underway es key) : p ≠ underway ∧ q = underway := by
  have hcount := countP_begins_of_replay h
  unfold Underway at hunderway
  by_cases hp : p = underway <;> by_cases hq : q = underway <;> simp_all
  all_goals omega

end Phase

end Wiring
