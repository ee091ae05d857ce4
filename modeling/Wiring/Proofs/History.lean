import Wiring.Proofs.System

/-!
# Sharing and Newness over Whole Histories

Whatever is done with however many containers, and whatever fails: a singleton is created at most
once and then given to everyone who asks for it, and what is not shared is created anew for each
who asks. The histories of systems tell so.

## Main statements

* `Container.Accountable`: what the journal tells about each single resolution.
* `System.Reached.full_stays`: a full slot stays as it is, whatever happens.
* `System.Reached.supplied_apart`: singletons of two containers are two objects.
* `System.Reached.singletons_shared_objects_new`: the discipline of sharing.
-/

open Relation

namespace Wiring

/-- What the journal tells about the resolutions of a container, be they asked for from outside or
along the way, and in whatever state. -/
structure Container.Accountable (c : Container) : Prop where
  /-- The last entry of a resolution tells what it came to. -/
  last : ∀ n d s r s', c.resolveWithin n d s = some (r, s') →
    ∃ es, s.Entered s' (es ++ [.resolved d r])
  /-- The arguments of a constructor or member are what dependencies were resolved to. -/
  arguments : ∀ n member ds s values s',
    Run.collect (c.resolveRequired (c.resolveWithin n) member) ds s = some (.ok values, s') →
    ∃ es, s.Entered s' es ∧ List.Forall₂ (fun d i => .resolved d (.ok i) ∈ es) ds values
  /-- A singleton that is there is given, and the binding is left alone. -/
  full : ∀ n d s i, c.IsSingleton d.key → s.memory.slots.get? d.key = some (.full i) →
    ∃ s', c.resolveWithin (n + 1) d s = some (.ok i, s') ∧ s'.memory = s.memory ∧
      s.Entered s' [.logged (.resolving d.key), .resolved d (.ok i)]
  /-- A singleton that is not there is tried to be created. If that fails the slot is empty as
  before, and else it is full. -/
  empty : ∀ n d s r s', c.IsSingleton d.key → s.memory.slots.get? d.key = some .empty →
    c.resolveWithin (n + 1) d s = some (r, s') →
    (∃ es, s.Entered s' (.logged (.resolving d.key) :: .logged (.creatingSingleton d.key) ::
      .supplying d.key :: (es ++ [.supplied d.key r, .resolved d r]))) ∧
    s'.memory.slots.get? d.key = some (.ofResult r)

theorem Container.accountable (c : Container) : c.Accountable where
  last _ _ _ _ _ h := entered_resolveWithin h
  arguments _ _ _ _ _ _ h := entered_arguments h
  full n _ _ _ hkey hfull := resolveWithin_of_full hkey hfull n
  empty _ _ _ _ _ hkey hempty h := resolveWithin_of_empty hkey hempty h

namespace System

variable {sys sys' : System} {n n' : Nat} {c c' : Container} {m m' : Memory} {key key' : Key}
  {i i' : Instance}

/-- The entries of a container are in the history. -/
theorem mem_entries {e : Event} : e ∈ sys.entries n ↔ ⟨n, e⟩ ∈ sys.history := by
  unfold entries
  rw [List.mem_map]
  constructor
  · rintro ⟨⟨k, e⟩, he, rfl⟩
    obtain ⟨hmem, hk⟩ := List.mem_filter.mp he
    obtain rfl := of_decide_eq_true hk
    exact hmem
  · intro he
    exact ⟨⟨n, e⟩, List.mem_filter.mpr ⟨he, by simp⟩, rfl⟩

/-- A container has a slot for each singleton and no others, and each singleton is shared. -/
theorem Reached.sharesOnce (h : sys.Reached) (hn : sys.containers[n]? = some ⟨c, m⟩) :
    (∀ key, key ∈ m.slots.keys ↔ c.IsSingleton key) ∧
      ∀ key, c.IsSingleton key → m.SharesOnce (sys.entries n) key := by
  have horderly := h.sound.orderly n c m hn
  have hkeys : m.slots.keys = c.singletonKeys := horderly.slots
  refine ⟨fun key => by rw [hkeys]; exact Container.mem_singletonKeys, fun key hkey => ?_⟩
  obtain ⟨p, hp, hbusy, hreplay⟩ := horderly.phases key hkey
  exact Memory.sharesOnce_of_replay hp hbusy hreplay

/-- A full slot stays as it is at each step. -/
theorem Sound.full_stays (h : sys.Sound) (hstep : sys.Step sys')
    (hn : sys.containers[n]? = some ⟨c, m⟩) (hkey : c.IsSingleton key)
    (hfull : m.slots.get? key = some (.full i)) :
    ∃ m', sys'.containers[n]? = some ⟨c, m'⟩ ∧ m'.slots.get? key = some (.full i) := by
  have hlt := (List.getElem?_eq_some_iff.mp hn).1
  cases hstep with
  | build =>
    refine ⟨m, ?_, hfull⟩
    rw [List.getElem?_append_left hlt, hn]
  | elsewhere => exact ⟨m, hn, hfull⟩
  | @operate k c' m₀ s es hk hop hes =>
    by_cases heq : k = n
    · subst k
      obtain ⟨rfl, rfl⟩ : c' = c ∧ m₀ = m := by simpa [hk] using hn
      have hslots := (h.orderly n c' m₀ hn).slots
      have hmoves := hop.moves c'.admits_sharing Container.gives_resolve hslots
      refine ⟨s.memory, ?_, Container.lasting_full hkey i _ s hmoves.2 hfull⟩
      rw [List.getElem?_set_self hlt]
    · refine ⟨m, ?_, hfull⟩
      rw [List.getElem?_set_ne heq, hn]

/-- A full slot stays as it is, whatever happens. -/
theorem Reached.full_stays (h : sys.Reached) (hsteps : ReflTransGen Step sys sys')
    (hn : sys.containers[n]? = some ⟨c, m⟩) (hkey : c.IsSingleton key)
    (hfull : m.slots.get? key = some (.full i)) :
    ∃ m', sys'.containers[n]? = some ⟨c, m'⟩ ∧ m'.slots.get? key = some (.full i) := by
  obtain ⟨w, hw, hbefore⟩ := h
  induction hsteps with
  | refl => exact ⟨m, hn, hfull⟩
  | tail hsteps hstep ih =>
    obtain ⟨m', hn', hfull'⟩ := ih
    exact (Reached.sound ⟨w, hw, hbefore.trans hsteps⟩).full_stays hstep hn' hkey hfull'

/-- A new object is an object that no container came to before. -/
theorem Reached.isNew (h : sys.Reached) {pre post : List Entry} {e : Entry}
    (hhistory : sys.history = pre ++ e :: post) {cls : ClassPath} {v : Value}
    (hnew : e.IsNew sys.container? cls v) :
    ∃ id, v = .object cls id ∧ ∀ e' ∈ pre, e'.event.thing? ≠ some id := by
  have hobjects := h.sound.objects
  obtain ⟨id, rfl⟩ := hobjects.new e (by rw [hhistory]; simp) cls v hnew
  refine ⟨id, rfl, fun e' he' => ?_⟩
  have hdistinct := hobjects.distinct
  rw [hhistory, List.pairwise_append] at hdistinct
  exact hdistinct.2.2 e' he' e (by simp) cls _ hnew id rfl

/-- What the constructors of two containers supplied are two objects. -/
theorem Reached.supplied_apart (h : sys.Reached) {e e' : Entry} (he : e ∈ sys.history)
    (he' : e' ∈ sys.history) (hne : e.container ≠ e'.container) {cls cls' : ClassPath}
    {v v' : Value} (hv : e.IsSupply sys.container? cls v)
    (hv' : e'.IsSupply sys.container? cls' v') :
    ∃ id id', v = .object cls id ∧ v' = .object cls' id' ∧ id ≠ id' := by
  have hobjects := h.sound.objects
  obtain ⟨id, rfl, -⟩ := hobjects.supplied e he cls v hv
  obtain ⟨id', rfl, -⟩ := hobjects.supplied e' he' cls' v' hv'
  refine ⟨id, id', rfl, rfl, fun heq => ?_⟩
  have happly := List.Pairwise.forall_of_forall_of_flip (fun _ _ hne' => absurd rfl hne')
    hobjects.apart (hobjects.apart.imp fun hapart hne' cls v cls' v' hv hv' heq =>
      hapart hne'.symm cls' v' cls v hv' hv heq.symm) he he'
  exact happly hne cls _ cls' _ hv hv' (congrArg some heq)

/-- The singleton of a key and the class whose constructor it is bound to, if it is bound to one
and there is an instance. -/
def singleton? (sys : System) (n : Nat) (key : Key) : Option (ClassPath × Value) := do
  let ⟨c, m⟩ ← sys.containers[n]?
  let b ← c.registry.lookup key
  let cls ← b.source.constructed?
  match b.scope, m.slots.get? key with
  | .singleton, some (.full i) => some (cls, i.value)
  | _, _ => none

/-- A singleton that a container has from a constructor was supplied by it. -/
theorem Reached.isSupply_of_singleton? (h : sys.Reached) {cls : ClassPath} {v : Value}
    (hv : sys.singleton? n key = some (cls, v)) :
    ∃ e ∈ sys.history, e.container = n ∧ e.IsSupply sys.container? cls v := by
  obtain ⟨⟨c, m⟩, hn, hv⟩ := Option.bind_eq_some_iff.mp hv
  obtain ⟨b, hb, hv⟩ := Option.bind_eq_some_iff.mp hv
  obtain ⟨cls', hcls, hv⟩ := Option.bind_eq_some_iff.mp hv
  split at hv
  · next i hscope hfull =>
    cases hv
    have hshares := (h.sharesOnce hn).2 key ⟨b, hb, hscope⟩
    have hmem := mem_entries.mp ((hshares.slot.1 i).mp hfull)
    exact ⟨_, hmem, rfl, c, key, i, b, container?_of_get? hn, rfl, hb, hcls, rfl⟩
  · cases hv

/-- **Sharing and newness.** Whatever was done in a system, and whatever failed: each container has
slots for its singletons and no others; the binding of a singleton supplies an instance only if
that was announced for its empty slot, and at most once with success; a failure leaves the slot
empty, and the next resolution tries again; a full slot never changes, and whatever comes to the
key, as an argument too, comes to the instance in it. Each object that should be new is different
from all objects that any container came to before, and the constructors of singletons never
supply one object to two containers. -/
theorem Reached.singletons_shared_objects_new (h : sys.Reached) :
    (∀ (n : Nat) (c : Container) (m : Memory), sys.containers[n]? = some ⟨c, m⟩ →
      c.Accountable ∧
      (∀ key, key ∈ m.slots.keys ↔ c.IsSingleton key) ∧
      (∀ key, c.IsSingleton key → m.SharesOnce (sys.entries n) key) ∧
      ∀ key i, c.IsSingleton key → m.slots.get? key = some (.full i) →
        ∀ sys', ReflTransGen Step sys sys' →
          ∃ m', sys'.containers[n]? = some ⟨c, m'⟩ ∧ m'.slots.get? key = some (.full i)) ∧
    (∀ pre e post cls v, sys.history = pre ++ e :: post → e.IsNew sys.container? cls v →
      ∃ id, v = .object cls id ∧ ∀ e' ∈ pre, e'.event.thing? ≠ some id) ∧
    ∀ n n' key key' cls cls' v v', n ≠ n' → sys.singleton? n key = some (cls, v) →
      sys.singleton? n' key' = some (cls', v') →
      ∃ id id', v = .object cls id ∧ v' = .object cls' id' ∧ id ≠ id' := by
  refine ⟨fun n c m hn => ?_, fun pre e post cls v hhistory => h.isNew hhistory, ?_⟩
  · obtain ⟨hkeys, hshares⟩ := h.sharesOnce hn
    exact ⟨c.accountable, hkeys, hshares, fun key i hkey hfull sys' hsteps =>
      h.full_stays hsteps hn hkey hfull⟩
  · intro n n' key key' cls cls' v v' hne hv hv'
    obtain ⟨e, he, rfl, hsupply⟩ := h.isSupply_of_singleton? hv
    obtain ⟨e', he', rfl, hsupply'⟩ := h.isSupply_of_singleton? hv'
    exact h.supplied_apart he he' hne hsupply hsupply'

/-- A container in which hammers are shared, for smiths that need one. -/
def forge : Container :=
  let hammers : Binding := ⟨.ofTy (.component "Hammer"), .constructor "Hammer", .singleton, false⟩
  ((Draft.empty true).define hammers).container .standard <| .ofList
    [("Hammer", ⟨[Member.constructor "Hammer" (.reading [] none)], [], .fresh fun _ => none⟩),
      ("Smith", ⟨[(Member.constructor "Smith" (.reading [.component "Hammer"] none)).requiring
        [.injectable "Hammer"]], [], .fresh fun _ => none⟩)]

theorem grounded_forge {w : World} (hw : w.Grounded) : forge.Grounded ⟨forge.initialMemory, w⟩ := by
  have hempty : (Draft.empty true).Grounded w := ⟨hw, fun _ hb => nomatch hb⟩
  have hsource : (Source.constructor "Hammer").Grounded w := Source.grounded_of_plain nofun rfl
  exact (hempty.define hw (Nat.le_refl _) hsource).container _ _

/-- Two forges. A smith is made in the first one, and a hammer is asked for in the second. -/
def twoForges : Option System := do
  let sys ← build ⟨[], .new, []⟩ forge
  let sys ← sys.build forge
  let sys ← sys.resolve 0 (.injectable "Smith")
  sys.resolve 1 (.injectable "Hammer")

theorem reached_of_twoForges (h : twoForges = some sys) : sys.Reached := by
  simp only [twoForges, Option.bind_eq_bind, Option.bind_eq_some_iff] at h
  obtain ⟨sys₁, h₁, sys₂, h₂, sys₃, h₃, h₄⟩ := h
  have hnew := reached_new World.grounded_new
  have hone := hnew.build (grounded_forge hnew.sound.world) h₁
  have htwo := hone.build (grounded_forge hone.sound.world) h₂
  exact (htwo.resolve h₃).resolve h₄

/-- The forges do not share a hammer. -/
theorem twoForges_have_two_hammers :
    ∃ sys id id', twoForges = some sys ∧ sys.Reached ∧
      sys.singleton? 0 (.ofTy (.component "Hammer")) = some ("Hammer", .object "Hammer" id) ∧
      sys.singleton? 1 (.ofTy (.component "Hammer")) = some ("Hammer", .object "Hammer" id') ∧
      id ≠ id' := by
  have hrun : (twoForges.map fun sys => (sys.singleton? 0 (.ofTy (.component "Hammer")),
      sys.singleton? 1 (.ofTy (.component "Hammer")))) =
      some (some ("Hammer", .object "Hammer" 0), some ("Hammer", .object "Hammer" 2)) := by
    decide +kernel
  obtain ⟨sys, hsys, hhammers⟩ := Option.map_eq_some_iff.mp hrun
  obtain ⟨hfirst, hsecond⟩ := Prod.mk.inj hhammers
  have hreached := reached_of_twoForges hsys
  obtain ⟨id, id', h, h', hne⟩ := hreached.singletons_shared_objects_new.2.2 0 1 _ _ _ _ _ _
    (by decide) hfirst hsecond
  cases h
  cases h'
  exact ⟨sys, _, _, hsys, hreached, hfirst, hsecond, hne⟩

end System

end Wiring
