import Wiring.Proofs.Catalogs
import Wiring.Proofs.Configuration
import Wiring.Proofs.Library
import Wiring.Proofs.Precedence

/-!
# Keeping Catalogs Makes No Difference

A container keeps the catalogs that it built. If it built each of them anew, as often as it is asked
for, then it would do the same in all other respects.

To see this, the two are run side by side. What becomes of their notebooks is told by one list of
`Look`s: the requests for catalogs, and the other entries in the journal. Replayed with the one way
to find catalogs it gives what is kept and entered by the container, and replayed with the other, by
the one that keeps nothing.

## Conventions

The number of kept catalogs is part of what is noted when a container is built. This number is the
only thing that a `Look` leaves to the notebook.

A request is successful if the class has a catalog. This is up to its member table, so all requests
for a class are successful, or none is.

## Main statements

* `Notebook.replay`: what becomes of a notebook.
* `ClassTable.keys_replay`: the kept catalogs are those that were requested successfully.
* `ClassTable.Serves`: how requests are answered when catalogs are kept.
* `Container.kept_catalogs_make_no_difference`: a container that keeps catalogs and one that does
  not.
-/

namespace Wiring

/-! ### What becomes of notebooks -/

/-- What may happen to the notebook of a container. -/
inductive Look where
  /-- An event is entered in the journal. -/
  | entry (e : Event)
  /-- The catalog of a class is asked for. -/
  | request (cls : ClassPath)
  /-- It is noted that the container was built, with the number of kept catalogs. -/
  | built (stats : ContainerStats)

/-- What happens to a notebook when catalogs are found in a given way. -/
def Look.play (find : Finder) (nb : Notebook) : Look → Notebook
  | entry e => nb.emit e
  | request cls => (find cls nb).2
  | built stats => nb.log (.built { stats with catalogs := nb.catalogs.size })

/-- What happens to a notebook, one thing after another. -/
def Notebook.replay (find : Finder) (ls : List Look) (nb : Notebook) : Notebook :=
  ls.foldl (Look.play find) nb

/-- The classes whose catalogs are asked for. -/
def Look.request? : Look → Option ClassPath
  | request cls => some cls
  | _ => none

namespace Notebook

variable (find : Finder) (nb : Notebook)

/-- Looks are replayed one after another. -/
theorem replay_append (ls ls' : List Look) :
    nb.replay find (ls ++ ls') = (nb.replay find ls).replay find ls' := List.foldl_append

/-- Entries are added to the journal. -/
theorem replay_entries (es : List Event) :
    nb.replay find (es.map .entry) = { nb with journal := nb.journal ++ es.toArray } := by
  induction es generalizing nb with
  | nil => simp [replay]
  | cons e es ih =>
    have hcons : nb.replay find ((e :: es).map .entry) = (nb.emit e).replay find (es.map .entry) :=
      rfl
    rw [hcons, ih]
    simp [emit]

end Notebook

/-! ### Side by side -/

/-- Two states that are the same but for what became of their notebooks, by the same looks, with two
ways to find catalogs. -/
structure State.Apart (f g : Finder) (s₀ t₀ s t : State) : Prop where
  /-- They remember the same, but for the catalogs. -/
  memory : { s.memory with catalogs := ∅ } = { t.memory with catalogs := ∅ }
  /-- The worlds are the same, but for the journals. -/
  world : { s.world with journal := #[] } = { t.world with journal := #[] }
  /-- The same happened to the notebooks. -/
  looks : ∃ ls, s.notebook = s₀.notebook.replay f ls ∧ t.notebook = t₀.notebook.replay g ls

namespace State.Apart

variable {f g : Finder} {s₀ t₀ s t : State}

/-- Nothing has been done on either side. -/
theorem refl (f g : Finder) (s : State) : Apart f g s s s s := ⟨rfl, rfl, [], rfl, rfl⟩

/-- What is remembered apart from catalogs may change on both sides. -/
theorem remember (h : Apart f g s₀ t₀ s t) {k : Memory → Memory}
    (hk : ∀ m cats, k { m with catalogs := cats } = { k m with catalogs := cats }) :
    Apart f g s₀ t₀ { s with memory := k s.memory } { t with memory := k t.memory } := by
  have hkept : ∀ m : Memory, (k m).catalogs = m.catalogs := fun m => by
    have hsame := congrArg Memory.catalogs (hk m m.catalogs)
    exact hsame
  obtain ⟨ls, hs, ht⟩ := h.looks
  refine ⟨?_, h.world, ls, ?_, ?_⟩
  · rw [← hk, ← hk, h.memory]
  · rw [← hs, State.notebook, State.notebook, hkept]
  · rw [← ht, State.notebook, State.notebook, hkept]

/-- Blind functions keep two states apart in nothing but looks. -/
theorem likeness (f g : Finder) (s₀ t₀ : State) : Likeness (Apart f g s₀ t₀) where
  world {α k} hk s t h := by
    have hs := hk { s.world with journal := #[] } s.world.journal
    have ht := hk { t.world with journal := #[] } t.world.journal
    rw [← World.eq_before] at hs ht
    rw [hs, ht, ← h.world]
    obtain ⟨ls, hs', ht'⟩ := h.looks
    refine ⟨rfl, h.memory, rfl, ls ++ (k { s.world with journal := #[] }).2.journal.toList.map
      .entry, ?_, ?_⟩
    · rw [Notebook.replay_append, ← hs', Notebook.replay_entries, Array.toArray_toList]
      rfl
    · rw [Notebook.replay_append, ← ht', Notebook.replay_entries, Array.toArray_toList]
      rfl

/-- What is remembered under a key is shared. -/
theorem shares (f g : Finder) (s₀ t₀ : State) (key : Key) : Shares (Apart f g s₀ t₀) key where
  slot h := by
    have hsame := congrArg (fun m : Memory => m.slots.get? key) h.memory
    exact hsame
  setSlot cell h := h.remember (k := (·.setSlot key cell)) fun _ _ => rfl
  readiness h := by
    have hsame := congrArg (fun m : Memory => m.readiness key) h.memory
    exact hsame
  setReadiness r h := h.remember (k := (·.setReadiness key r)) fun _ _ => rfl
  callCount h := by
    have hsame := congrArg (fun m : Memory => m.callCount key) h.memory
    exact hsame
  countCall h := h.remember (k := (·.countCall key)) fun _ _ => rfl

/-- It is noted on both sides that a container was built. -/
theorem built (c : Container) (h : Apart f g s₀ t₀ s t) :
    Apart f g s₀ t₀ { s with world := s.world.log (.built (c.stats s.memory)) }
      { t with world := t.world.log (.built (c.stats t.memory)) } := by
  obtain ⟨ls, hs, ht⟩ := h.looks
  refine ⟨h.memory, ?_, ls ++ [.built (c.stats s.memory)], ?_, ?_⟩
  · have hworld := h.world
    simp only [World.log, World.emit]
    exact hworld
  · rw [Notebook.replay_append, ← hs]
    rfl
  · have hstats : c.stats t.memory =
        { c.stats s.memory with catalogs := t.memory.catalogs.size } := by
      have hslots : s.memory.slots = t.memory.slots := by
        have hsame := congrArg Memory.slots h.memory
        exact hsame
      simp only [Container.stats, Memory.slotCount, Memory.fullCount, hslots]
    rw [Notebook.replay_append, ← ht, hstats]
    rfl

end State.Apart

/-! ### Requests -/

namespace ClassTable

variable {t : ClassTable} {nb : Notebook} {ls : List Look} {cls : ClassPath}

/-- Whether a class has a catalog. -/
def hasCatalog (t : ClassTable) (cls : ClassPath) : Bool :=
  match t.catalog cls with
  | .ok _ => true
  | .error _ => false

/-- A notebook stays faithful as looks are replayed. -/
theorem faithful_replay (h : nb.Faithful t) (ls : List Look) :
    (nb.replay (Wiring.catalogOf t) ls).Faithful t := by
  induction ls generalizing nb with
  | nil => exact h
  | cons l ls ih =>
    cases l with
    | request cls => exact ih (h.catalogOf cls)
    | _ => exact ih h

/-- A catalog that is kept is found, and nothing is read. -/
theorem catalogOf_of_kept (h : nb.Faithful t) (hkept : nb.catalogs.contains cls = true) :
    Wiring.catalogOf t cls nb = (t.catalog cls, nb) := by
  obtain ⟨cat, hget⟩ := Option.isSome_iff_exists.mp hkept
  rw [h cls cat hget, Wiring.catalogOf, hget]

/-- A class that has no catalog is asked again. -/
theorem catalogOf_of_error (h : nb.Faithful t) {e : ConfigurationError}
    (he : t.catalog cls = .error e) :
    Wiring.catalogOf t cls nb = (.error e, t.consult cls nb) := by
  have hnone : nb.catalogs.get? cls = none := by
    by_contra hget
    obtain ⟨cat, hget⟩ := Option.ne_none_iff_exists'.mp hget
    rw [h cls cat hget] at he
    cases he
  have hbuild : Catalog.build cls (t.members cls) = .error e := he
  simp only [Wiring.catalogOf, hnone, newCatalog, hbuild]

/-- A catalog that is not kept yet is built, and kept from then on. -/
theorem catalogOf_of_new (hnew : nb.catalogs.contains cls = false) {cat : Catalog}
    (hcat : t.catalog cls = .ok cat) :
    Wiring.catalogOf t cls nb = (.ok cat,
      ⟨nb.catalogs.insert cls cat, (t.consult cls nb).journal.push
        (.logged (.catalogBuilt cls cat.instancePoints.length cat.staticPoints.length))⟩) := by
  have hnone : nb.catalogs.get? cls = none :=
    Option.isNone_iff_eq_none.mp (Option.isSome_eq_false_iff.mp hnew)
  have hbuild : Catalog.build cls (t.members cls) = .ok cat := hcat
  simp only [Wiring.catalogOf, hnone, newCatalog, hbuild, Notebook.log, Notebook.emit,
    catalogs_consult]

/-- The classes that were requested successfully, in the order of the first requests. -/
def served (t : ClassTable) (ls : List Look) : List ClassPath :=
  ((ls.filterMap Look.request?).filter t.hasCatalog).eraseDups

/-- A catalog is served if it was asked for and there is one. -/
theorem mem_served : cls ∈ t.served ls ↔ .request cls ∈ ls ∧ t.hasCatalog cls = true := by
  rw [served, List.mem_eraseDups, List.mem_filter, List.mem_filterMap]
  refine and_congr_left fun _ => ⟨?_, fun h => ⟨_, h, rfl⟩⟩
  rintro ⟨l, hl, hrequest⟩
  cases l with
  | request cls' =>
    cases hrequest
    exact hl
  | _ => cases hrequest

/-- One more request serves one more catalog, unless it is served already. -/
theorem served_request :
    t.served (ls ++ [.request cls]) =
      if t.hasCatalog cls = true ∧ cls ∉ t.served ls then t.served ls ++ [cls]
      else t.served ls := by
  have hone : [Look.request cls].filterMap Look.request? = [cls] := rfl
  rw [served, List.filterMap_append, List.filter_append, hone]
  by_cases hcls : t.hasCatalog cls = true
  · rw [List.filter_cons_of_pos hcls, List.filter_nil, eraseDups_concat]
    simp only [hcls, true_and, served, List.mem_eraseDups, ite_not]
  · rw [List.filter_cons_of_neg hcls, List.filter_nil, List.append_nil, if_neg fun h => hcls h.1,
      served]

/-- What is no request serves nothing. -/
theorem served_of_request?_eq_none {l : Look} (hl : l.request? = none) :
    t.served (ls ++ [l]) = t.served ls := by
  rw [served, List.filterMap_append, List.filterMap_cons_none hl, List.filterMap_nil,
    List.append_nil, served]

/-- A request makes a catalog kept, if there is one and it is not kept yet. -/
theorem keys_catalogOf (h : nb.Faithful t) (cls : ClassPath) :
    (Wiring.catalogOf t cls nb).2.catalogs.keys =
      if t.hasCatalog cls = true ∧ cls ∉ nb.catalogs.keys then nb.catalogs.keys ++ [cls]
      else nb.catalogs.keys := by
  cases hcat : t.catalog cls with
  | error e =>
    have hnone : ¬(t.hasCatalog cls = true ∧ cls ∉ nb.catalogs.keys) := by simp [hasCatalog, hcat]
    rw [catalogOf_of_error h hcat, if_neg hnone, catalogs_consult]
  | ok cat =>
    cases hkept : nb.catalogs.contains cls with
    | true =>
      have hmem := (nb.catalogs.contains_iff cls).mp hkept
      rw [catalogOf_of_kept h hkept, if_neg fun hnew => hnew.2 hmem]
    | false =>
      have hnew : cls ∉ nb.catalogs.keys := mt (nb.catalogs.contains_iff cls).mpr (by simp [hkept])
      rw [catalogOf_of_new hkept hcat, Table.keys_insert, if_neg hnew,
        if_pos ⟨by simp [hasCatalog, hcat], hnew⟩]

/-- A notebook without catalogs is faithful. -/
theorem faithful_of_empty (hempty : nb.catalogs = ∅) : nb.Faithful t := by
  intro cls cat hget
  rw [hempty] at hget
  cases hget

/-- What is kept are the catalogs of the classes that were requested successfully. -/
theorem keys_replay (hempty : nb.catalogs = ∅) (ls : List Look) :
    (nb.replay (Wiring.catalogOf t) ls).catalogs.keys = t.served ls := by
  induction ls using List.reverseRecOn with
  | nil =>
    rw [Notebook.replay, List.foldl_nil, hempty]
    rfl
  | append_singleton ls l ih =>
    rw [Notebook.replay_append]
    cases l with
    | request cls =>
      rw [served_request, ← ih]
      exact keys_catalogOf (faithful_replay (faithful_of_empty hempty) ls) cls
    | _ =>
      rw [served_of_request?_eq_none rfl, ← ih]
      rfl

/-- When a catalog is asked for, what is kept stays as it is, in its place. -/
theorem entries_prefix_catalogOf (h : nb.Faithful t) (cls : ClassPath) :
    nb.catalogs.entries <+: (Wiring.catalogOf t cls nb).2.catalogs.entries := by
  cases hkept : nb.catalogs.contains cls with
  | true =>
    rw [catalogOf_of_kept h hkept]
  | false =>
    cases hcat : t.catalog cls with
    | error e => rw [catalogOf_of_error h hcat, catalogs_consult]
    | ok cat =>
      rw [catalogOf_of_new hkept hcat]
      have hnew : cls ∉ nb.catalogs.entries.map Prod.fst :=
        mt (nb.catalogs.contains_iff cls).mpr (by simp [hkept])
      have hput : (nb.catalogs.insert cls cat).entries = nb.catalogs.entries ++ [(cls, cat)] :=
        Table.put_of_not_mem hnew
      rw [hput]
      exact List.prefix_append _ _

/-- Catalogs are kept as looks are replayed, in the order in which they came. -/
theorem entries_prefix_replay (h : nb.Faithful t) (ls : List Look) :
    nb.catalogs.entries <+: (nb.replay (Wiring.catalogOf t) ls).catalogs.entries := by
  induction ls generalizing nb with
  | nil => exact List.prefix_rfl
  | cons l ls ih =>
    cases l with
    | request cls => exact (entries_prefix_catalogOf h cls).trans (ih (h.catalogOf cls))
    | entry e =>
      have hrest : (nb.emit e).catalogs.entries <+: _ := ih h
      exact hrest
    | built stats =>
      have hrest : (Look.play (Wiring.catalogOf t) nb (.built stats)).catalogs.entries <+: _ := ih h
      exact hrest

/-- How requests are answered that are made of a notebook among other things, if the catalogs that
were built are kept. -/
structure Serves (t : ClassTable) (nb : Notebook) (ls : List Look) : Prop where
  /-- The first request for a class that has a catalog: its member table is read, and the catalog is
  kept. -/
  first : ∀ pre cls post cat, ls = pre ++ .request cls :: post → t.catalog cls = .ok cat →
    .request cls ∉ pre →
    let seen := nb.replay (Wiring.catalogOf t) pre
    Wiring.catalogOf t cls seen = (.ok cat, ⟨seen.catalogs.insert cls cat,
      seen.journal ++ (t.readings cls ++ [Event.logged (.catalogBuilt cls
        cat.instancePoints.length cat.staticPoints.length)]).toArray⟩)
  /-- Another request for a class that has a catalog: it is answered in the same way, and nothing
  is read. -/
  again : ∀ pre cls post cat, ls = pre ++ .request cls :: post → t.catalog cls = .ok cat →
    .request cls ∈ pre →
    let seen := nb.replay (Wiring.catalogOf t) pre
    Wiring.catalogOf t cls seen = (.ok cat, seen)
  /-- A request for a class that has none: the member table is read each time, the same error is
  reported, and nothing is kept. -/
  failed : ∀ pre cls post e, ls = pre ++ .request cls :: post → t.catalog cls = .error e →
    let seen := nb.replay (Wiring.catalogOf t) pre
    Wiring.catalogOf t cls seen =
      (.error e, ⟨seen.catalogs, seen.journal ++ (t.readings cls).toArray⟩)
  /-- The member table of a class that was requested successfully is read again only along with that
  of another class, which takes over its members. -/
  along : ∀ pre cls other post, ls = pre ++ .request other :: post → cls ∈ t.served pre →
    let seen := nb.replay (Wiring.catalogOf t) pre
    ∃ es : List Event, (Wiring.catalogOf t other seen).2.journal = seen.journal ++ es.toArray ∧
      (Event.membersRead cls ∈ es → other ≠ cls ∧ cls ∈ (t.decl other).consulted)
  /-- What is kept is never replaced or dropped. -/
  stays : ∀ pre post, ls = pre ++ post →
    (nb.replay (Wiring.catalogOf t) pre).catalogs.entries <+:
      (nb.replay (Wiring.catalogOf t) ls).catalogs.entries
  /-- Only catalogs of the class table are kept. -/
  faithful : (nb.replay (Wiring.catalogOf t) ls).Faithful t
  /-- There is one for each class that was requested successfully. -/
  keys : (nb.replay (Wiring.catalogOf t) ls).catalogs.keys = t.served ls

/-- What a request enters in the journal: nothing if the catalog is kept, and else that member
tables are read, and maybe that the catalog was built. -/
theorem journal_catalogOf (h : nb.Faithful t) (cls : ClassPath) :
    ∃ es : List Event, (Wiring.catalogOf t cls nb).2.journal = nb.journal ++ es.toArray ∧
      ∀ other, Event.membersRead other ∈ es →
        cls ∉ nb.catalogs.keys ∧ (other = cls ∨ other ∈ (t.decl cls).consulted) := by
  cases hkept : nb.catalogs.contains cls with
  | true =>
    rw [catalogOf_of_kept h hkept]
    exact ⟨[], by simp, fun _ hmem => nomatch hmem⟩
  | false =>
    have hnew : cls ∉ nb.catalogs.keys := mt (nb.catalogs.contains_iff cls).mpr (by simp [hkept])
    have hreadings : ∀ other, Event.membersRead other ∈ t.readings cls →
        cls ∉ nb.catalogs.keys ∧ (other = cls ∨ other ∈ (t.decl cls).consulted) := by
      intro other hmem
      obtain ⟨other', hother, heq⟩ := List.mem_map.mp hmem
      cases heq
      exact ⟨hnew, List.mem_cons.mp hother⟩
    cases hcat : t.catalog cls with
    | error e =>
      rw [catalogOf_of_error h hcat, consult_eq]
      exact ⟨_, rfl, hreadings⟩
    | ok cat =>
      rw [catalogOf_of_new hkept hcat, consult_eq]
      refine ⟨t.readings cls ++ [.logged (.catalogBuilt cls cat.instancePoints.length
        cat.staticPoints.length)], by simp, fun other hmem => ?_⟩
      refine hreadings other ((List.mem_append.mp hmem).resolve_right fun hlast => ?_)
      cases List.mem_singleton.mp hlast

/-- An empty notebook serves what is asked for, once each. -/
theorem serves (hempty : nb.catalogs = ∅) (ls : List Look) : t.Serves nb ls := by
  have hf := faithful_of_empty (t := t) hempty
  have hkept : ∀ {pre cls cat}, t.catalog cls = .ok cat →
      ((nb.replay (Wiring.catalogOf t) pre).catalogs.contains cls = true ↔ .request cls ∈ pre) := by
    intro pre cls cat hcat
    rw [Table.contains_iff, keys_replay hempty, mem_served]
    simp [hasCatalog, hcat]
  refine ⟨fun pre cls _ cat _ hcat hnew => ?_, fun pre cls _ cat _ hcat hmem => ?_,
    fun pre cls _ e _ he => ?_, fun pre cls other _ _ hserved => ?_, ?_, faithful_replay hf ls,
    keys_replay hempty ls⟩
  · have hnot := Bool.eq_false_iff.mpr fun h => hnew ((hkept hcat).mp h)
    dsimp only
    rw [catalogOf_of_new hnot hcat, consult_eq]
    simp
  · dsimp only
    rw [catalogOf_of_kept (faithful_replay hf pre) ((hkept hcat).mpr hmem), hcat]
  · dsimp only
    rw [catalogOf_of_error (faithful_replay hf pre) he, consult_eq]
  · obtain ⟨es, hes, hread⟩ := journal_catalogOf (faithful_replay hf pre) other
    refine ⟨es, hes, fun hmem => ?_⟩
    obtain ⟨hnew, hother⟩ := hread cls hmem
    rw [keys_replay hempty] at hnew
    have hne : other ≠ cls := fun heq => hnew (heq ▸ hserved)
    exact ⟨hne, hother.resolve_left fun heq => hne heq.symm⟩
  · rintro pre post rfl
    rw [Notebook.replay_append]
    exact entries_prefix_replay (faithful_replay hf pre) post

end ClassTable

/-! ### What journals tell besides catalogs -/

/-- What an event tells besides of catalogs: nothing if it is a request, and else the same, without
their number. -/
def Event.besides : Event → Option Event
  | membersRead _ | logged (.catalogBuilt ..) => none
  | logged (.built stats) => some (.logged (.built { stats with catalogs := 0 }))
  | e => some e

/-- What a look tells besides of catalogs. -/
def Look.besides : Look → Option Event
  | entry e => e.besides
  | request _ => none
  | built stats => some (.logged (.built { stats with catalogs := 0 }))

/-- A way to find catalogs that enters nothing else in the journal. -/
def Finder.Discreet (find : Finder) : Prop :=
  ∀ cls nb, ((find cls nb).2.journal.toList.filterMap Event.besides) =
    nb.journal.toList.filterMap Event.besides

/-- Discreet looks enter nothing else in the journal. -/
theorem Notebook.besides_replay {find : Finder} (h : find.Discreet) (ls : List Look)
    (nb : Notebook) : (nb.replay find ls).journal.toList.filterMap Event.besides =
      nb.journal.toList.filterMap Event.besides ++ ls.filterMap Look.besides := by
  induction ls generalizing nb with
  | nil => simp [replay]
  | cons l ls ih =>
    have hcons : nb.replay find (l :: ls) = (l.play find nb).replay find ls := rfl
    rw [hcons, ih]
    cases l with
    | request cls =>
      rw [Look.play, h cls nb]
      rfl
    | entry e =>
      cases hb : e.besides <;> simp [Look.play, emit, Look.besides, hb]
    | built stats => simp [Look.play, log, emit, Look.besides, Event.besides]

/-- Readings are nothing else. -/
theorem ClassTable.besides_readings (t : ClassTable) (cls : ClassPath) :
    (t.readings cls).filterMap Event.besides = [] := by
  simp [readings, Event.besides]

/-- Finding a new catalog each time is discreet. -/
theorem ClassTable.discreet_newCatalog (t : ClassTable) : Finder.Discreet t.newCatalog := by
  intro cls nb
  simp [newCatalog, consult_eq, besides_readings]

/-- Finding a kept catalog is discreet. -/
theorem discreet_catalogOf (t : ClassTable) : Finder.Discreet (catalogOf t) := by
  intro cls nb
  unfold catalogOf
  cases nb.catalogs.get? cls with
  | some cat => rfl
  | none =>
    have hread := t.discreet_newCatalog cls nb
    rcases hnew : t.newCatalog cls nb with ⟨_ | cat, nb'⟩
    · rw [hnew] at hread
      exact hread
    · rw [hnew] at hread
      have hnone : [Event.logged (.catalogBuilt cls cat.instancePoints.length
          cat.staticPoints.length)].filterMap Event.besides = [] := rfl
      simpa [Notebook.log, Notebook.emit, hnone] using hread

/-- Who keeps no catalog when one is found keeps none at all. -/
theorem Notebook.catalogs_replay {find : Finder}
    (h : ∀ cls nb, (find cls nb).2.catalogs = nb.catalogs) (nb : Notebook) (ls : List Look) :
    (nb.replay find ls).catalogs = nb.catalogs := by
  induction ls generalizing nb with
  | nil => rfl
  | cons l ls ih =>
    refine (ih _).trans ?_
    cases l with
    | request cls => exact h cls nb
    | _ => rfl

/-- Finding new catalogs keeps none. -/
theorem catalogs_replay_newCatalog (t : ClassTable) (nb : Notebook) (ls : List Look) :
    (nb.replay t.newCatalog ls).catalogs = nb.catalogs :=
  nb.catalogs_replay t.catalogs_consult ls

/-- Calls have nothing to do with catalogs. -/
theorem filter_isCall_eq (es : List Event) :
    es.filter Event.isCall = (es.filterMap Event.besides).filter Event.isCall := by
  rw [List.filter_filterMap, ← List.filterMap_eq_filter]
  refine List.filterMap_congr fun e _ => ?_
  cases e with
  | logged notice => cases notice <;> rfl
  | _ => rfl

/-! ### With and without kept catalogs -/

/-- Two states that are the same but for catalogs. -/
structure State.SameBesides (s t : State) : Prop where
  /-- Apart from catalogs, the same is remembered. -/
  memory : { s.memory with catalogs := ∅ } = { t.memory with catalogs := ∅ }
  /-- Apart from the journals, the worlds are the same. -/
  world : { s.world with journal := #[] } = { t.world with journal := #[] }
  /-- The journals tell the same besides of catalogs. -/
  journal : s.world.journal.toList.filterMap Event.besides =
    t.world.journal.toList.filterMap Event.besides
  /-- In particular, they tell of the same calls. -/
  calls : s.world.journal.toList.filter Event.isCall = t.world.journal.toList.filter Event.isCall

/-- What became of one notebook by the same looks is the same besides of catalogs. -/
theorem State.Apart.sameBesides {f g : Finder} (hf : f.Discreet) (hg : g.Discreet)
    {s₀ s t : State} (h : State.Apart f g s₀ s₀ s t) : s.SameBesides t := by
  obtain ⟨ls, hs, ht⟩ := h.looks
  have hjournal : s.notebook.journal.toList.filterMap Event.besides =
      t.notebook.journal.toList.filterMap Event.besides := by
    rw [hs, ht, Notebook.besides_replay hf, Notebook.besides_replay hg]
  refine ⟨h.memory, h.world, hjournal, ?_⟩
  have hcalls := congrArg (List.filter Event.isCall) hjournal
  rwa [← filter_isCall_eq, ← filter_isCall_eq] at hcalls

namespace Container

variable (c : Container)

/-- A container that keeps catalogs finds those of the class table. -/
theorem agree_of_finds {s₀ : State} (hs₀ : s₀.Faithful c) (t₀ : State) {g : Finder}
    (hg : ∀ cls nb, (g cls nb).1 = c.classes.catalog cls) :
    Library.Agree (State.Apart (catalogOf c.classes) g s₀ t₀) c (catalogOf c.classes) g where
  like := State.Apart.likeness ..
  shares key := State.Apart.shares _ _ _ _ key
  built h := h.built c
  find cls s t h := by
    obtain ⟨ls, hs, ht⟩ := h.looks
    have hfaithful : s.notebook.Faithful c.classes := by
      rw [hs]
      exact ClassTable.faithful_replay hs₀ ls
    refine ⟨?_, h.memory, h.world, ls ++ [.request cls], ?_, ?_⟩
    · rw [catalogOf_fst, hfaithful.look_eq, hg]
    · rw [Notebook.replay_append, ← hs]
      rfl
    · rw [Notebook.replay_append, ← ht]
      rfl

/-- A container finds the same catalogs if it keeps them and if it builds them anew. -/
theorem agree_apart {s₀ : State} (hs₀ : s₀.Faithful c) (t₀ : State) :
    Library.Agree (State.Apart (catalogOf c.classes) c.classes.newCatalog s₀ t₀) c
      (catalogOf c.classes) c.classes.newCatalog :=
  c.agree_of_finds hs₀ t₀ fun _ _ => rfl

/-- **Keeping catalogs makes no difference.** By any operations, a container comes to the same
results as one that builds each catalog anew, and to a state that is the same but for catalogs. One
list of requests tells what both of them enter in their journals. Of these requests, the first one
for a class makes its catalog kept, if it has one, and then its member table is read again only
along with that of another class that takes over its members. If it has none, then each request
reads the table, reports the same error, and keeps nothing. So the container keeps one catalog for
each class that was requested successfully. -/
theorem kept_catalogs_make_no_difference :
    (∀ ops, c.library.operate ops = c.operate ops) ∧
      ∀ (w : World) (ops : List Operation),
        let new : State := ⟨c.initialMemory, w⟩
        (c.operate ops new = none ↔ c.rebuilding.operate ops new = none) ∧
          ∀ r s, c.operate ops new = some (r, s) → ∃ t ls,
            c.rebuilding.operate ops new = some (r, t) ∧ s.SameBesides t ∧
              s.notebook = new.notebook.replay (catalogOf c.classes) ls ∧
              t.notebook = new.notebook.replay c.classes.newCatalog ls ∧
              c.classes.Serves new.notebook ls ∧
              (c.stats s.memory).catalogs = (c.classes.served ls).length ∧
              t.memory.catalogs = ∅ := by
  refine ⟨c.operate_library, fun w ops => ?_⟩
  intro new
  have hagree := c.agree_apart (c.faithful_initial w) new
  have hfollows : Follows True (State.Apart (catalogOf c.classes) c.classes.newCatalog new new)
      (c.operate ops) (c.rebuilding.operate ops) := by
    rw [← c.operate_library ops]
    exact hagree.follows_operate ops
  have hstart := State.Apart.refl (catalogOf c.classes) c.classes.newCatalog new
  have hsome : ∀ r s, c.operate ops new = some (r, s) → ∃ t,
      c.rebuilding.operate ops new = some (r, t) ∧
        State.Apart (catalogOf c.classes) c.classes.newCatalog new new s t := fun r s =>
    hfollows.eq_some hstart
  refine ⟨⟨hfollows.eq_none hstart, fun hnone => ?_⟩, fun r s hrun => ?_⟩
  · cases hrun : c.operate ops new with
    | none => rfl
    | some p =>
      obtain ⟨t, ht, -⟩ := hsome p.1 p.2 hrun
      rw [hnone] at ht
      cases ht
  · obtain ⟨t, ht, hapart⟩ := hsome r s hrun
    obtain ⟨ls, hs', ht'⟩ := hapart.looks
    have hjournal : s.notebook.journal.toList.filterMap Event.besides =
        t.notebook.journal.toList.filterMap Event.besides := by
      rw [hs', ht', Notebook.besides_replay (discreet_catalogOf _),
        Notebook.besides_replay c.classes.discreet_newCatalog]
    have hserves : c.classes.Serves new.notebook ls := ClassTable.serves rfl ls
    have hcatalogs : s.notebook.catalogs.keys = c.classes.served ls := by
      rw [hs']
      exact hserves.keys
    have hnone : t.notebook.catalogs = ∅ := by
      rw [ht', catalogs_replay_newCatalog]
      rfl
    refine ⟨t, ls, ht, ⟨hapart.memory, hapart.world, hjournal, ?_⟩, hs', ht', hserves, ?_, hnone⟩
    · have hcalls := congrArg (List.filter Event.isCall) hjournal
      rwa [← filter_isCall_eq, ← filter_isCall_eq] at hcalls
    · rw [← hcatalogs]
      exact s.memory.catalogs.size_eq_length_keys

/-- The classes of a smithy: an anvil, and a bellows whose constructor is optional, which is not
allowed. -/
def smithyClasses : ClassTable := .ofList
  [("Anvil", ⟨[.constructor "Anvil" (.reading [] none)], [], .fresh fun _ => none⟩),
    ("Bellows", ⟨[(Member.constructor "Bellows" (.reading [] none)).withOptional true], [],
      .fresh fun _ => none⟩)]

/-- A smithy in which nothing is bound. -/
def smithy : Container := ⟨.standard, .empty, [], smithyClasses⟩

/-- What happens in the smithy: it is asked whether there can be an anvil, two anvils are made, and
two times it is tried to make a bellows. -/
def smithing : List Operation :=
  [.ask (.injectable "Anvil"), .resolve (.injectable "Anvil"), .resolve (.injectable "Anvil"),
    .resolve (.injectable "Bellows"), .resolve (.injectable "Bellows")]

/-- The member table of the anvil is read once, and that of the bellows each time. -/
theorem smithy_keeps_one_catalog : ∃ r s t,
    smithy.operate smithing ⟨smithy.initialMemory, .new⟩ = some (r, s) ∧
      smithy.rebuilding.operate smithing ⟨smithy.initialMemory, .new⟩ = some (r, t) ∧
      s.SameBesides t ∧ (smithy.stats s.memory).catalogs = 1 ∧ t.memory.catalogs = ∅ ∧
      (s.world.journal.toList.filterMap fun | .membersRead cls => some cls | _ => none) =
        ["Anvil", "Bellows", "Bellows"] := by
  have hjournal : (smithy.operate smithing ⟨smithy.initialMemory, .new⟩).map
      (fun p => ((smithy.stats p.2.memory).catalogs, p.2.world.journal.toList.filterMap fun
        | .membersRead cls => some cls
        | _ => none)) = some (1, ["Anvil", "Bellows", "Bellows"]) := by
    decide +kernel
  obtain ⟨⟨r, s⟩, hrun, hs⟩ := Option.map_eq_some_iff.mp hjournal
  obtain ⟨t, -, ht, hsame, -, -, -, -, hnone⟩ :=
    (smithy.kept_catalogs_make_no_difference.2 .new smithing).2 r s hrun
  obtain ⟨hone, hread⟩ := Prod.mk.inj hs
  exact ⟨r, s, t, hrun, ht, hsame, hone, hnone, hread⟩

/-- An annex takes over the members of a hall. -/
def annexClasses : ClassTable := Outline.toTable <| .ofList
  [("Hall", [.member (.constructor "Hall" (.reading [] none)),
      .member (.method "Hall" "open" (.reading [] none))], .fresh fun _ => none),
    ("Annex", [.member (.constructor "Annex" (.reading [] none)), .lifted "Hall"],
      .fresh fun _ => none)]

/-- A building of a hall and an annex, in which nothing is bound. -/
def annex : Container := ⟨.standard, .empty, [], annexClasses⟩

/-- What journals tell of catalogs: of which classes the member tables were read, and for which of
them the catalogs were built. -/
def catalogNotes (es : List Event) : List (ClassPath × Bool) :=
  es.filterMap fun
    | .membersRead cls => some (cls, false)
    | .logged (.catalogBuilt cls ..) => some (cls, true)
    | _ => none

/-- The member table of a hall is read again after its catalog was built, along with that of its
annex. -/
theorem annex_reads_hall_again : ∃ r s,
    annex.operate [.resolve (.injectable "Hall"), .resolve (.injectable "Annex")]
        ⟨annex.initialMemory, .new⟩ = some (r, s) ∧
      catalogNotes s.world.journal.toList = [("Hall", false), ("Hall", true), ("Annex", false),
        ("Hall", false), ("Annex", true)] := by
  have hnotes : (annex.operate [.resolve (.injectable "Hall"), .resolve (.injectable "Annex")]
      ⟨annex.initialMemory, .new⟩).map (fun p => catalogNotes p.2.world.journal.toList) =
        some [("Hall", false), ("Hall", true), ("Annex", false), ("Hall", false),
          ("Annex", true)] := by
    decide +kernel
  obtain ⟨⟨r, s⟩, hrun, hs⟩ := Option.map_eq_some_iff.mp hnotes
  exact ⟨r, s, hrun, hs⟩

end Container

end Wiring
