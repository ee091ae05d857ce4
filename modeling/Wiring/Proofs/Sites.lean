import Wiring.Container.Builder
import Wiring.Proofs.Keeping
import Wiring.Proofs.System

/-!
# Sites

A `Site` is any number of containers in one world in which requests are handled, together with its
history: what each container entered in the journal, and for which request and session. Containers
are built and used, inside and outside of requests. In between, requests are entered and left in
any order, again and again, and come to be, some of them in one session.

From the history of a site one can tell what its requests and sessions keep. `Site.about` are the
entries about a key that were made for one of them, and they lead to what it keeps of the key.

## Conventions

What is done with a container is done for the request that is handled then and for the session to
which it belongs in the end. At first nothing is kept, and nothing is put into requests and sessions
from outside. Classes, bindings and providers are data that the containers read, so a provider
cannot use a container while it supplies an instance.

## Main statements

* `Site.Step`, `Site.Reached`: what may happen to sites.
* `Site.add`, `Site.record`: what a build and an operation of a container do to a site.
* `Site.Sound`, `Site.Reached.sound`: entries lead to what is kept.
* `Site.Reached.first_stored_wins`: what is kept first for a request or session stays.
* `Site.Reached.valid`, `Site.Reached.build_modules`: sites stay valid, and builders build
  containers in them.
-/

open Relation

namespace Wiring

/-- An entry of a container in the journal, and for which request and session it was made. -/
structure Visit where
  /-- The number of the container. -/
  container : Nat
  /-- The request that was handled, if there was one. -/
  request : Option Nat
  /-- The session to which the request belonged, if it belonged to one. -/
  session : Option Nat
  /-- What was entered. -/
  event : Event

/-- Containers in a world in which requests are handled. -/
structure Site where
  /-- The containers, in the order in which they were built, and what they remember. -/
  containers : List RunningContainer
  /-- The world. -/
  world : World
  /-- What the containers entered in the journal. -/
  history : List Visit

namespace Site

/-- What a container enters in the journal for the request that is handled. -/
def visits (n : Nat) (w : World) (es : List Event) : List Visit :=
  es.map (Visit.mk n w.handled? w.joined?)

/-- The container of a number. -/
def container? (site : Site) (n : Nat) : Option Container :=
  (site.containers[n]?).map RunningContainer.container

/-- What keeps the instance of a key for a visit, as the container has it that made the entry. -/
def keeper? (site : Site) (v : Visit) (key : Key) : Option World.Keeper :=
  (site.container? v.container).bind fun c => c.keeperFor v.request v.session key

/-- What was entered for what keeps the instance of a key. -/
def about (site : Site) (K : World.Keeper) (key : Key) : List Event :=
  (site.history.filter fun v => site.keeper? v key = some K).map Visit.event

/-- What may happen to a site with containers of which `ok` holds. -/
inductive Step (ok : Container → Prop) (site : Site) : Site → Prop where
  /-- A container is built, or the build fails. -/
  | build {c : Container} {r s es} : ok c →
    c.start ⟨c.initialMemory, site.world⟩ = some (r, s) →
    State.Entered ⟨c.initialMemory, site.world⟩ s es →
    Step ok site ⟨site.containers ++ [⟨c, s.memory⟩], s.world,
      site.history ++ visits site.containers.length s.world es⟩
  /-- A container is used. -/
  | operate {n : Nat} {c : Container} {m s es} : site.containers[n]? = some ⟨c, m⟩ →
    c.Operates ⟨m, site.world⟩ s → State.Entered ⟨m, site.world⟩ s es →
    Step ok site ⟨site.containers.set n ⟨c, s.memory⟩, s.world,
      site.history ++ visits n s.world es⟩
  /-- Requests are entered or left, or something else happens. -/
  | elapse {w : World} : site.world.Elapses w → Step ok site { site with world := w }

/-- The sites that can come to be, from a world in which nothing is kept. -/
def Reached (ok : Container → Prop) (site : Site) : Prop :=
  ∃ w : World, w.Valid ∧ (∀ K, w.attributes K = ∅) ∧ ReflTransGen (Step ok) ⟨[], w, []⟩ site

/-- The site with a new container. -/
def add (site : Site) (c : Container) : Site :=
  { site with containers := site.containers ++ [⟨c, c.initialMemory⟩] }

/-- The site after the container of number `n`, which is `c`, has come to the state `s` and entered
`es`. -/
def record (site : Site) (n : Nat) (c : Container) (s : State) (es : List Event) : Site :=
  ⟨site.containers.set n ⟨c, s.memory⟩, s.world, site.history ++ visits n s.world es⟩

/-- A container without circles. -/
def Acyclic (c : Container) : Prop := ∀ d, c.Acyclic d

variable {site site' : Site} {n k : Nat} {c : Container} {m : Memory} {es : List Event}
  {K : World.Keeper} {key : Key}

/-- A container that is at a site is known by its number. -/
theorem container?_of_get? (h : site.containers[n]? = some ⟨c, m⟩) :
    site.container? n = some c := by
  rw [container?, h]
  rfl

/-- Nothing but what a container remembers changes in the list of containers. -/
theorem container?_record (h : site.containers[n]? = some ⟨c, m⟩) (s : State) (es : List Event) :
    (site.record n c s es).container? = site.container? := by
  funext k
  simp only [record, container?, List.getElem?_set]
  split
  · subst k
    have hlt := (List.getElem?_eq_some_iff.mp h).1
    rw [if_pos hlt, h]
    rfl
  · rfl

/-- What a container enters is entered for what keeps the instance of a key then. -/
theorem about_record (h : site.containers[n]? = some ⟨c, m⟩) (s : State) (es : List Event) :
    (site.record n c s es).about K key =
      site.about K key ++ if c.keeper? s.world key = some K then es else [] := by
  have hkeeper : ∀ v, (site.record n c s es).keeper? v key = site.keeper? v key := fun v => by
    rw [keeper?, keeper?, container?_record h]
  have hvisits : ∀ v ∈ visits n s.world es, site.keeper? v key = c.keeper? s.world key := by
    intro v hv
    obtain ⟨e, -, rfl⟩ := List.mem_map.mp hv
    rw [keeper?, container?_of_get? h]
    rfl
  have hfilter : (visits n s.world es).filter (fun v => site.keeper? v key = some K) =
      if c.keeper? s.world key = some K then visits n s.world es else [] := by
    split
    · next hK => exact List.filter_eq_self.mpr fun v hv => by simp [hvisits v hv, hK]
    · next hK => exact List.filter_eq_nil_iff.mpr fun v hv => by simp [hvisits v hv, hK]
  have hhistory : (site.record n c s es).history = site.history ++ visits n s.world es := rfl
  simp only [about, hkeeper, hhistory, List.filter_append, List.map_append, hfilter]
  congr 1
  split
  · simp [visits, Function.comp_def]
  · rfl

/-- A new container made no entries. -/
theorem about_add (h : ∀ v ∈ site.history, v.container < site.containers.length) (c : Container) :
    (site.add c).about K key = site.about K key := by
  unfold about
  congr 1
  refine List.filter_congr fun v hv => ?_
  have hkeeper : (site.add c).keeper? v key = site.keeper? v key := by
    simp only [keeper?, container?, add, List.getElem?_append_left (h v hv)]
  rw [hkeeper]

/-- Where one entry of a list is set, the others are as they were. -/
theorem eq_or_getElem?_of_set {α : Type} {as : List α} {a b : α}
    (h : (as.set n a)[k]? = some b) : (k = n ∧ b = a) ∨ as[k]? = some b := by
  rw [List.getElem?_set] at h
  split at h
  · next heq =>
    split at h
    · cases h
      exact .inl ⟨heq.symm, rfl⟩
    · cases h
  · exact .inr h

/-- Where a list grows by one entry, the others are as they were. -/
theorem eq_or_getElem?_of_concat {α : Type} {as : List α} {a b : α}
    (h : (as ++ [a])[k]? = some b) : b = a ∨ as[k]? = some b := by
  rw [List.getElem?_append] at h
  split at h
  · exact .inr h
  · rw [List.getElem?_singleton] at h
    split at h
    · cases h
      exact .inl rfl
    · cases h

/-- A container that is built is a new one at first. -/
theorem getElem?_add (site : Site) (c : Container) :
    (site.add c).containers[site.containers.length]? = some ⟨c, c.initialMemory⟩ := by simp [add]

/-- To build a container is to add a new one, and then to do something with it. -/
theorem record_add (site : Site) (c : Container) (s : State) (es : List Event) :
    (site.add c).record site.containers.length c s es =
      ⟨site.containers ++ [⟨c, s.memory⟩], s.world,
        site.history ++ visits site.containers.length s.world es⟩ := by
  simp [record, add]

/-! ### What is known of sites -/

/-- What is known of a site with containers without circles. -/
structure Sound (site : Site) : Prop where
  /-- Requests and sessions are there. -/
  valid : site.world.Valid
  /-- Only containers of the site made entries. -/
  numbered : ∀ v ∈ site.history, v.container < site.containers.length
  /-- No container has circles. -/
  acyclic : ∀ (n : Nat) (c : Container) (m : Memory), site.containers[n]? = some ⟨c, m⟩ → Acyclic c
  /-- Each container is at rest. -/
  resting : ∀ (n : Nat) (c : Container) (m : Memory), site.containers[n]? = some ⟨c, m⟩ →
    c.resting.Inv ⟨m, site.world⟩
  /-- The entries lead to what is kept. -/
  replays : ∀ K key, Provision.missing.replay key (site.about K key) =
    some (.ofOption ((site.world.attributes K).get? key))

/-- What is known of a site stays known when a container enters in the journal what it did. -/
theorem Sound.record (h : site.Sound) (hn : site.containers[n]? = some ⟨c, m⟩) {s : State}
    (hholding : c.holding.Moves ⟨m, site.world⟩ s) (hresting : c.resting.Inv s)
    (hes : State.Entered ⟨m, site.world⟩ s es) : (site.record n c s es).Sound := by
  obtain ⟨hinv, es', hes', hkeeps⟩ := hholding
  obtain rfl := hes.unique hes'
  have hlt : n < site.containers.length := (List.getElem?_eq_some_iff.mp hn).1
  refine ⟨hinv.2.1, fun v hv => ?_, fun k c' m' hk => ?_, fun k c' m' hk => ?_, fun K key => ?_⟩
  · rw [Site.record, List.length_set]
    rcases List.mem_append.mp hv with hv | hv
    · exact h.numbered v hv
    · obtain ⟨e, -, rfl⟩ := List.mem_map.mp hv
      exact hlt
  · rcases eq_or_getElem?_of_set hk with ⟨rfl, heq⟩ | hk
    · cases heq
      exact h.acyclic k c m hn
    · exact h.acyclic k c' m' hk
  · rcases eq_or_getElem?_of_set hk with ⟨rfl, heq⟩ | hk
    · cases heq
      exact hresting
    · exact h.resting k c' m' hk
  · rw [about_record hn, Provision.replay_append, h.replays K key, Option.bind_some]
    split
    · next hK =>
      have hreplay := hkeeps.replay key (Container.isKept_of_keeperFor hK) fun hfalse => hfalse
      rw [← Container.get?_keeper hkeeps.continues hK] at hreplay
      rw [hreplay, Container.kept?, hK, Option.bind_some]
      rfl
    · next hK =>
      rw [Site.record, hkeeps.others K key hK]
      rfl

/-- A new container may be added. -/
theorem Sound.add (h : site.Sound) (hc : Acyclic c) : (site.add c).Sound := by
  refine ⟨h.valid, fun v hv => ?_, fun k c' m' hk => ?_, fun k c' m' hk => ?_, fun K key => ?_⟩
  · rw [Site.add, List.length_append]
    exact Nat.lt_add_right _ (h.numbered v hv)
  · rcases eq_or_getElem?_of_concat hk with heq | hk
    · cases heq
      exact hc
    · exact h.acyclic k c' m' hk
  · rcases eq_or_getElem?_of_concat hk with heq | hk
    · cases heq
      exact c.resting_initial _
    · exact h.resting k c' m' hk
  · rw [about_add h.numbered]
    exact h.replays K key

/-- What is known of a site stays known at each step. -/
theorem Sound.step (h : site.Sound) (hstep : Step Acyclic site site') : site'.Sound := by
  cases hstep with
  | @build c r s es hc hrun hes =>
    have hadd := h.add hc
    have hn := site.getElem?_add c
    have hrest := hadd.resting _ _ _ hn
    have hholding := (Container.holding_start hc).moves
      (Container.holding_inv_iff.mpr ⟨hrest.1, h.valid⟩) trivial hrun
    have hresting := (Container.terminates_start hc).moves hrest trivial hrun
    rw [← record_add]
    exact hadd.record hn hholding hresting.1 hes
  | @operate n c m s es hn hop hes =>
    have hc := h.acyclic n c m hn
    have hrest := h.resting n c m hn
    have hholding := hop.holding hc (Container.holding_inv_iff.mpr ⟨hrest.1, h.valid⟩)
    have hresting := hop.follows (c.governs_terminating _ _)
      (fun d => (Container.terminates_resolve (hc d)).rests)
      (fun _ _ => trivial) hrest
    exact h.record hn hholding hresting.1 hes
  | @elapse w hw =>
    refine ⟨hw.valid, h.numbered, h.acyclic, h.resting, fun K key => ?_⟩
    rw [hw.attributes K]
    exact h.replays K key

/-- What is known of sites is true of all sites that can come to be. -/
theorem Reached.sound (h : Reached Acyclic site) : site.Sound := by
  obtain ⟨w, hw, hnothing, hsteps⟩ := h
  induction hsteps with
  | refl =>
    refine ⟨hw, (fun v hv => nomatch hv), (fun n c m hn => nomatch hn),
      (fun n c m hn => nomatch hn), fun K key => ?_⟩
    rw [hnothing K]
    rfl
  | tail _ hstep ih => exact ih.step hstep

/-! ### First stored wins -/

/-- What the resolution of a dependency in a request or session scope came to, where `K` keeps the
instance and `es` was entered. -/
structure Resolves (c : Container) (d : Dependency) (s t : State)
    (r : Except ConfigurationError Instance) (K : World.Keeper) (es : List Event) : Prop where
  /-- It is the request that was handled when it began, or the session of that request. -/
  keeper : c.keeperFor s.world.handled? t.world.joined? d.key = some K
  /-- These are the entries. -/
  entered : s.Entered t es
  /-- If it succeeds, its instance is kept afterwards, and if it fails, none is. -/
  kept : (t.world.attributes K).get? d.key = r.toOption
  /-- If an instance was kept before, it is found, and nothing else is done. -/
  found : ∀ i, (s.world.attributes K).get? d.key = some i →
    r = .ok i ∧ es = [.logged (.resolving d.key), .resolved d (.ok i)]
  /-- If none was kept before, the binding supplies one. -/
  provided : (s.world.attributes K).get? d.key = none → .supplying d.key ∈ es
  /-- Other requests and sessions keep of the key what they kept before. -/
  others : ∀ K', K' ≠ K →
    (t.world.attributes K').get? d.key = (s.world.attributes K').get? d.key

/-- In a container without circles, the resolution of a dependency in a request or session scope
stores what it comes to first, at any depth. -/
theorem resolves_of_resolveWithin (hc : Acyclic c) {d : Dependency} {depth : Nat} {s t : State}
    {r : Except ConfigurationError Instance} (hkept : c.IsKept d.key) (hs : s.Faithful c)
    (hvalid : s.world.Valid) (hhandled : s.world.handled?.isSome)
    (hrun : c.resolveWithin depth d s = some (r, t)) : ∃ K es, Resolves c d s t r K es := by
  obtain ⟨es, hes⟩ := Container.provides_resolveWithin hkept (hc d) hs hvalid hrun
  obtain ⟨K, hK⟩ := hes.keeper hhandled
  have hbefore := Container.get?_keeper hes.keeps.continues hK
  refine ⟨K, es, ?_, hes.entered, ?_, fun i hi => ?_, fun hnone => ?_, fun K' hne => ?_⟩
  · rw [← hes.keeps.continues.handled?]
    exact hK
  · rw [← hes.kept, Container.kept?, hK, Option.bind_some]
  · cases depth with
    | zero => cases hrun
    | succ n =>
      rw [Container.resolveWithin_of_kept n (hbefore ▸ hi)] at hrun
      cases hrun
      exact ⟨rfl, hes.entered.unique ((s.entered_emit _).trans (State.entered_emit _ _))⟩
  · exact hes.supplying hhandled (hbefore ▸ hnone)
  · exact hes.keeps.others K' d.key fun heq => hne (Option.some.inj (heq.symm.trans hK))

/-- What requests and sessions of a site keep. -/
structure KeepsFirst (site : Site) : Prop where
  /-- After a resolution has succeeded for a request or session, all later ones that succeed for it
  come to the same instance, and no binding begins to supply an instance of the key for it. -/
  same : site.history.Pairwise fun v v' => ∀ K d i, v.event = .resolved d (.ok i) →
    site.keeper? v d.key = some K → site.keeper? v' d.key = some K →
      v'.event ≠ .supplying d.key ∧
        ∀ d' j, v'.event = .resolved d' (.ok j) → d'.key = d.key → j = i
  /-- What a resolution has come to is kept. -/
  kept : ∀ v ∈ site.history, ∀ K d i, v.event = .resolved d (.ok i) →
    site.keeper? v d.key = some K → (site.world.attributes K).get? d.key = some i
  /-- What is kept is what was supplied with success for that request or session. -/
  supplied : ∀ K key i, (site.world.attributes K).get? key = some i ↔
    ∃ v ∈ site.history, site.keeper? v key = some K ∧ v.event = .supplied key (.ok i)
  /-- What different requests or sessions keep was supplied on different occasions. -/
  apart : ∀ K K' key i i', K ≠ K' → (site.world.attributes K).get? key = some i →
    (site.world.attributes K').get? key = some i' →
      ∃ (n n' : Nat) (v v' : Visit), n ≠ n' ∧
        site.history[n]? = some v ∧ site.history[n']? = some v' ∧
        site.keeper? v key = some K ∧ v.event = .supplied key (.ok i) ∧
        site.keeper? v' key = some K' ∧ v'.event = .supplied key (.ok i')
  /-- Each container of the site comes to an end with whatever is resolved. -/
  ends : ∀ (n : Nat) (c : Container) (m : Memory), site.containers[n]? = some ⟨c, m⟩ →
    State.Faithful ⟨m, site.world⟩ c ∧ site.world.Valid ∧
      ∀ d, ∃ r s, c.resolve d ⟨m, site.world⟩ = some (r, s)
  /-- While a request is handled, a resolution at any depth stores what it comes to first. -/
  resolves : ∀ (n : Nat) (c : Container) (m : Memory), site.containers[n]? = some ⟨c, m⟩ →
    ∀ d depth s t r, c.IsKept d.key → s.Faithful c → s.world.Valid →
      s.world.handled?.isSome → c.resolveWithin depth d s = some (r, t) →
        ∃ K es, Resolves c d s t r K es

/-- One visit before another for the same request or session. -/
theorem about_eq_of_sublist {v v' : Visit} (hv : site.keeper? v key = some K)
    (hv' : site.keeper? v' key = some K) (h : [v, v'].Sublist site.history) :
    ∃ pre post, site.about K key = pre ++ v.event :: post ∧ v'.event ∈ post := by
  have hfilter := (h.filter fun v => site.keeper? v key = some K).map Visit.event
  have hboth : ([v, v'].filter fun v => site.keeper? v key = some K) = [v, v'] := by
    simp [hv, hv']
  rw [hboth] at hfilter
  obtain ⟨front, back, heq, hfront, hback⟩ := List.cons_sublist_iff.mp hfilter
  obtain ⟨pre, mid, rfl⟩ := List.append_of_mem hfront
  refine ⟨pre, mid ++ back, ?_, List.mem_append_right _ (hback.subset List.mem_cons_self)⟩
  rw [about, heq, List.append_assoc, List.cons_append]

/-- What a site tells about a key is what was entered for those who keep it. -/
theorem mem_about {e : Event} :
    e ∈ site.about K key ↔ ∃ v ∈ site.history, site.keeper? v key = some K ∧ v.event = e := by
  simp only [about, List.mem_map, List.mem_filter, decide_eq_true_eq, and_assoc]

/-- **Request and session scopes.** In each site with containers without circles, what is stored
first for a request or session is what all later resolutions find, from whichever container and
however often the request is left and entered again. It was supplied for that request or session
alone, and a supply that fails stores nothing. -/
theorem Reached.first_stored_wins (h : Reached Acyclic site) : site.KeepsFirst := by
  have hsound := h.sound
  have hsupplied : ∀ K key i, (site.world.attributes K).get? key = some i ↔
      ∃ v ∈ site.history, site.keeper? v key = some K ∧ v.event = .supplied key (.ok i) := by
    intro K key i
    have hiff := Provision.replay_eq_kept_iff (i := i) (hsound.replays K key)
    rw [← mem_about]
    cases hget : (site.world.attributes K).get? key with
    | none =>
      rw [hget] at hiff
      simpa [Provision.ofOption] using hiff
    | some j =>
      rw [hget] at hiff
      simpa [Provision.ofOption] using hiff
  refine ⟨?_, fun v hv K d i he hK => ?_, hsupplied, fun K K' key i i' hne hi hi' => ?_,
    fun n c m hn => ?_, fun n c m hn d depth s t r => ?_⟩
  · refine List.pairwise_iff_forall_sublist.mpr fun {v v'} hsub K d i he hK hK' => ?_
    obtain ⟨pre, post, habout, hmem⟩ := about_eq_of_sublist hK hK' hsub
    have hreplay := hsound.replays K d.key
    rw [habout, he] at hreplay
    exact (Provision.after_resolved hreplay).2 _ hmem
  · have hreplay := hsound.replays K d.key
    obtain ⟨pre, post, habout⟩ := List.append_of_mem (mem_about.mpr ⟨v, hv, hK, he⟩)
    rw [habout] at hreplay
    have hlast := (Provision.after_resolved hreplay).1
    cases hget : (site.world.attributes K).get? d.key with
    | none =>
      rw [hget] at hlast
      cases hlast
    | some j =>
      rw [hget] at hlast
      cases hlast
      rfl
  · obtain ⟨v, hv, hvK, he⟩ := (hsupplied K key i).mp hi
    obtain ⟨v', hv', hvK', he'⟩ := (hsupplied K' key i').mp hi'
    obtain ⟨n, hn⟩ := List.mem_iff_getElem?.mp hv
    obtain ⟨n', hn'⟩ := List.mem_iff_getElem?.mp hv'
    refine ⟨n, n', v, v', fun heq => ?_, hn, hn', hvK, he, hvK', he'⟩
    subst heq
    rw [hn] at hn'
    cases hn'
    exact hne (Option.some.inj (hvK.symm.trans hvK'))
  · have hrest := hsound.resting n c m hn
    have hc := hsound.acyclic n c m hn
    refine ⟨hrest.1, hsound.valid, fun d => ?_⟩
    exact ((Container.terminates_resolve (hc d)).rests).ends trivial hrest
      trivial
  · exact resolves_of_resolveWithin (hsound.acyclic n c m hn)

/-! ### Valid worlds -/

/-- The discipline of keeping the world valid. -/
def lawful : Discipline := .ofInvariant (·.world.Valid)

/-- What is lawful is admitted. -/
theorem admitsAll_lawful (c : Container) : lawful.AdmitsAll c where
  fresh _ _ := trivial
  mentioned _ _ := trivial
  effect hs h := ⟨h.valid hs, trivial⟩
  readiness _ _ := Discipline.Ensures.remember fun _ hs _ => ⟨hs, trivial⟩
  slots _ _ := Discipline.Ensures.remember fun _ hs _ => ⟨hs, trivial⟩
  mark e _ _ hs := ⟨hs.emit e, trivial⟩

/-- All stages are lawful. -/
theorem stages_lawful : Discipline.Conduct.Stages lawful 3 := fun e _ _ =>
  Discipline.Ensures.change fun _ hs _ => ⟨hs.emit e, trivial⟩

/-- Whatever containers it has, the world of a site stays valid. -/
theorem Reached.valid {ok : Container → Prop} (h : Reached ok site) : site.world.Valid := by
  obtain ⟨w, hw, -, hsteps⟩ := h
  induction hsteps with
  | refl => exact hw
  | @tail site _ _ hstep ih =>
    cases hstep with
    | @build c r s es _ hrun _ =>
      have hallows := (admitsAll_lawful c).start stages_lawful
      exact (hallows ⟨c.initialMemory, site.world⟩ ih trivial _ _ hrun).1
    | @operate n c m s es _ hop _ =>
      have hall := admitsAll_lawful c
      exact (hop.moves hall.toAdmits hall.resolve ih).1
    | elapse hw => exact hw.valid

/-! ### Building and using containers -/

/-- A site that is reached leads to what its steps lead to. -/
theorem Reached.step {ok : Container → Prop} (h : Reached ok site) (hstep : Step ok site site') :
    Reached ok site' := by
  obtain ⟨w, hw, hnothing, hsteps⟩ := h
  exact ⟨w, hw, hnothing, hsteps.tail hstep⟩

/-- A container may be built. -/
theorem Reached.build {ok : Container → Prop} (h : Reached ok site) (hc : ok c) {r} {s : State}
    (hrun : c.start ⟨c.initialMemory, site.world⟩ = some (r, s)) :
    ∃ history, Reached ok ⟨site.containers ++ [⟨c, s.memory⟩], s.world, history⟩ := by
  obtain ⟨-, ⟨es, hes⟩, -⟩ :=
    c.admitsAll_growing.start Container.stages_growing _ trivial trivial _ _ hrun
  exact ⟨_, h.step (.build hc hrun hes)⟩

/-- What modules make while they are configured changes nothing about what is kept. -/
theorem changes_configureAll (c : Container) (m : Memory) (ss : List Statement) (d : Draft)
    (w : World) : c.Changes ⟨m, w⟩ ⟨m, (configureAll ss (d, w)).2⟩ := by
  have hstart : c.Changes ⟨m, w⟩ ⟨m, (d, w).2⟩ := .refl
  refine configureAll_induct (P := fun _ dw => c.Changes ⟨m, w⟩ ⟨m, dw.2⟩) hstart ss
    fun _ s dw hinstall _ h => h.trans ?_
  obtain ⟨d, w⟩ := dw
  cases s with
  | bind ty viaKey qualifiers scopes source =>
    cases source with
    | value label => exact c.changes_makeInstance ⟨m, w⟩ ty label
    | injectableProvider cls => exact c.changes_makeObject ⟨m, w⟩ cls
    | injectableInstance => exact c.changes_makeObject ⟨m, w⟩ ty.fullName
    | _ => exact .refl
  | define key source scope eager =>
    cases source with
    | value making => exact c.changes_makeInstance ⟨m, w⟩ making.ty making.label
    | ready source => exact .refl
  | injectStatic cls =>
    rw [Statement.configure, Draft.requestStatic]
    split
    · exact .single (.emit _ rfl)
    · exact .refl
  | install ts => exact absurd rfl (hinstall ts)

/-- Up to the moment in which a builder begins to build, nothing changes about what is kept. -/
theorem elapses_opening {w : World} (hw : w.Valid) (config : ContainerConfig) (ss : List Statement)
    (classes : ClassTable) : w.Elapses (((Builder.ofConfig config).install ss w).1.opening classes
      ((Builder.ofConfig config).install ss w).2).world := by
  have hlog : ∀ (notices : List Notice) (w : World), w.Valid →
      w.Elapses (notices.foldl World.log w) := by
    intro notices
    induction notices with
    | nil => exact fun w hw => ⟨hw, fun _ => rfl, fun _ _ hid => hid⟩
    | cons n notices ih =>
      intro w hw
      have hemit := World.elapses_emit hw (.logged n)
      exact hemit.trans (ih _ hemit.valid)
  let c := ((Builder.ofConfig config).install ss w).1.container classes
  have hconfigured := (changes_configureAll c .empty ss (.empty true) w).elapses hw
  exact hconfigured.trans (hlog _ _ hconfigured.valid)

/-- The container of modules may be built. -/
theorem Reached.build_modules {ok : Container → Prop} (h : Reached ok site)
    {config : ContainerConfig} {ss : List Statement} {classes : ClassTable}
    (hok : ok (((Builder.ofConfig config).install ss site.world).1.container classes))
    {running : RunningContainer} {w : World}
    (hbuild : ((Builder.ofConfig config).install ss site.world).1.build classes
      ((Builder.ofConfig config).install ss site.world).2 = some (.ok running, w)) :
    ∃ history, Reached ok ⟨site.containers ++ [running], w, history⟩ := by
  obtain ⟨c, m⟩ := running
  obtain ⟨rfl, hrun⟩ := Builder.build_eq_ok_iff.mp hbuild
  exact (h.step (.elapse (elapses_opening h.valid config ss classes))).build hok hrun

/-- A dependency may be resolved. -/
theorem Reached.resolve {ok : Container → Prop} (h : Reached ok site)
    (hn : site.containers[n]? = some ⟨c, m⟩) {d : Dependency} {r} {s : State}
    (hrun : c.resolve d ⟨m, site.world⟩ = some (r, s)) :
    ∃ history, Reached ok ⟨site.containers.set n ⟨c, s.memory⟩, s.world, history⟩ := by
  obtain ⟨-, ⟨es, hes⟩, -⟩ := c.admitsAll_growing.resolveWithin _ d _ trivial trivial _ _ hrun
  exact ⟨_, h.step (.operate hn (.resolve hrun) hes)⟩

/-- A cloakroom with a coat for each request and a ticket for each session. -/
def cloakroom : List Statement :=
  [.bind (.component "Coat") none [] [.inScope (.contextual .request)] .constructor,
    .bind (.component "Ticket") none [] [.inScope (.contextual .session)] .constructor]

/-- Coats need tickets. -/
def cloakroomClasses : ClassTable := .ofList
  [("Coat", ⟨[{ Member.constructor "Coat" (.reading [.component "Ticket"] none) with
      dependencies := [.injectable "Ticket"] }], [], .fresh fun _ => none⟩),
    ("Ticket", ⟨[.constructor "Ticket" (.reading [] none)], [], .fresh fun _ => none⟩)]

/-- The container of the cloakroom. -/
def cloakroomContainer : Container :=
  ((Builder.ofConfig .standard).install cloakroom .new).1.container cloakroomClasses

/-- Tickets do not need coats. -/
theorem acyclic_cloakroom : Acyclic cloakroomContainer :=
  Container.acyclic_of_ranked (fun key => if key = .ofTy (.component "Coat") then 1 else 0)
    (by decide +kernel)

/-- A world in which two requests belong to one session, and one of them is handled. -/
def lobby : World :=
  { World.new with
    requests := #[{ Request.new "GET" "/in" with session := some 0 },
      { Request.new "GET" "/out" with session := some 0 }]
    sessions := #[.new]
    current := [⟨0, 0⟩] }

/-- The lobby is a valid world. -/
theorem valid_lobby : lobby.Valid where
  current e he := by
    rw [List.mem_singleton.mp he]
    decide
  sessions r id hid := by
    match r with
    | 0 | 1 =>
      cases hid
      decide
    | r + 2 => cases hid

/-- Nothing is kept in the lobby. -/
theorem attributes_lobby (K : World.Keeper) : lobby.attributes K = ∅ := by
  match K with
  | .request 0 | .request 1 | .session 0 => rfl
  | .request (r + 2) | .session (id + 1) => rfl

/-- A coat is asked for during one request and then during the other, within the first one. -/
def coats : Option (State × State × State) := do
  let (_, s) ← cloakroomContainer.start ⟨cloakroomContainer.initialMemory, lobby⟩
  let (_, t) ← cloakroomContainer.resolve (.injectable "Coat") s
  let (_, u) ← cloakroomContainer.resolve (.injectable "Coat") (t.inWorld (t.world.enter ⟨1, 0⟩))
  return (s, t, u)

/-- Each of the two requests keeps a coat of its own, and their session keeps one ticket. -/
theorem cloakroom_keeps_coats : ∃ site, Reached Acyclic site ∧ site.KeepsFirst ∧
    ∃ i i' j, i ≠ i' ∧
      (site.world.attributes (.request 0)).get? (.ofTy (.component "Coat")) = some i ∧
      (site.world.attributes (.request 1)).get? (.ofTy (.component "Coat")) = some i' ∧
      (site.world.attributes (.session 0)).get? (.ofTy (.component "Ticket")) = some j := by
  have hrun : coats.map (fun p => (decide (1 < p.2.1.world.requests.size),
      (p.2.2.world.attributes (.request 0)).get? (.ofTy (.component "Coat")),
      (p.2.2.world.attributes (.request 1)).get? (.ofTy (.component "Coat")),
      (p.2.2.world.attributes (.session 0)).get? (.ofTy (.component "Ticket")))) =
      some (true, some ⟨1, .object "Coat" 1⟩, some ⟨2, .object "Coat" 2⟩,
        some ⟨0, .object "Ticket" 0⟩) := by
    decide +kernel
  obtain ⟨⟨s, t, u⟩, hcoats, hfacts⟩ := Option.map_eq_some_iff.mp hrun
  unfold coats at hcoats
  obtain ⟨⟨r₁, s⟩, hstart, hcoats⟩ := Option.bind_eq_some_iff.mp hcoats
  obtain ⟨⟨r₂, t⟩, hfirst, hcoats⟩ := Option.bind_eq_some_iff.mp hcoats
  obtain ⟨⟨r₃, u⟩, hsecond, hcoats⟩ := Option.bind_eq_some_iff.mp hcoats
  cases hcoats
  simp only [Prod.mk.injEq, decide_eq_true_eq] at hfacts
  obtain ⟨hsize, hcoat, hcoat', hticket⟩ := hfacts
  have hempty : Reached Acyclic ⟨[], lobby, []⟩ := ⟨lobby, valid_lobby, attributes_lobby, .refl⟩
  obtain ⟨history, hbuilt⟩ := hempty.build acyclic_cloakroom hstart
  obtain ⟨history, hfirst⟩ := hbuilt.resolve (n := 0) rfl hfirst
  have henter := World.elapses_enter (e := ⟨1, 0⟩) hfirst.sound.valid hsize
  have helapsed := hfirst.step (.elapse henter)
  obtain ⟨history, hsecond⟩ := helapsed.resolve (n := 0) rfl hsecond
  exact ⟨_, hsecond, hsecond.first_stored_wins, _, _, _, by decide, hcoat, hcoat', hticket⟩

end Site

end Wiring
