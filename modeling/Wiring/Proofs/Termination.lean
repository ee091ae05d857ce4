import Wiring.Proofs.Availability
import Wiring.Proofs.Compliance
import Wiring.Proofs.Entries
import Wiring.Proofs.Stages

/-!
# Resolutions That Come to an End

A resolution goes on for ever only in a circle. There are three ways to find out: the depth is used
up, or a slot is found busy by the very resolution that is about to fill it, or a deferred binding
is found to be injected by the one that injects it. If nothing that a dependency needs needs
itself, none of them can happen, and the resolution comes to an end.

## Conventions

What is being created while a dependency is resolved is told by the keys of busy slots and of
deferred bindings that are running. `Container.terminating` is the contract of coming to an end
where only given keys may be so. A resolution that creates a singleton keeps to it for one key
more. How deep it goes is told by chains of dependencies. The keys on a chain without circles are
different, and each but the last is that of a binding or of a declared class.

## Main statements

* `Container.Acyclic`: nothing that a dependency needs needs itself.
* `Container.Shallow`: how long chains of dependencies are.
* `Container.acyclic_of_ranked`: there are no circles where ranks go down.
* `Container.terminating`: the contract of coming to an end.
* `Container.terminating_inSlot`, `Container.terminating_force`: what is done once comes to an end.
* `Container.terminates_resolveWithin`: resolutions come to an end within the length of chains.
* `Container.terminates_resolve`: resolutions without circles come to an end.
* `Container.terminates_injectDeferred`, `Container.terminates_start`: so do builds.
-/

open Relation

namespace Wiring

/-- Whether what a source needs has ranks below `n`, where the class whose members are read for it
may have rank `n` itself. -/
def Source.staysBelow (rank : Key → Nat) (n : Nat) : Source → Bool
  | constructor cls => rank (.ofTy (.component cls)) ≤ n
  | injected d | injectedProvider d _ => rank (.ofTy (.component d.subject.cls)) ≤ n
  | providerType p _ _ => rank p.key < n
  | given _ | provider _ => true

namespace Container

variable {c : Container} {d e f : Dependency} {B R : Key → Prop}

/-! ### Circles -/

/-- A class that is constructed just in time is that of the key. -/
theorem key_eq_of_justInTime {cls : ClassPath} (h : c.justInTime d = some cls) :
    d.key = .ofTy (.component cls) := by
  unfold justInTime at h
  split at h
  · exact Dependency.key_eq_of_justInTime h
  · cases h

/-- Nothing that is needed for a dependency needs itself. -/
def Acyclic (c : Container) (d : Dependency) : Prop :=
  ∀ e, ReflTransGen c.Leads d e → ¬ TransGen c.Leads e e

/-- No key of some set is needed for a dependency. -/
def Free (c : Container) (B : Key → Prop) (d : Dependency) : Prop :=
  ∀ e, ReflTransGen c.Leads d e → ¬ B e.key

/-- What an acyclic dependency leads to is acyclic. -/
theorem Acyclic.leads (h : c.Acyclic d) (hde : c.Leads d e) : c.Acyclic e := fun f hef =>
  h f (.head hde hef)

/-- What is free of keys leads to nothing else. -/
theorem Free.leads (h : c.Free B d) (hde : c.Leads d e) : c.Free B e := fun f hef =>
  h f (.head hde hef)

/-- Everything is free of no keys. -/
theorem free_none (c : Container) (d : Dependency) : c.Free (fun _ => False) d := fun _ _ h => h

/-- What a dependency leads to is told by its key, if that is bound. -/
theorem leads_of_bound {b : Binding} (hb : c.registry.lookup d.key = some b) (hkey : f.key = d.key)
    (h : c.Leads d e) : c.Leads f e := by
  unfold Leads at h ⊢
  rw [hkey, hb]
  rwa [hb] at h

/-- What a dependency leads to is told by its key, if it leads to anything. -/
theorem leads_of_key (hkey : f.key = d.key) (h : c.Leads d e) {e' : Dependency}
    (h' : c.Leads f e') : c.Leads f e := by
  cases hb : c.registry.lookup d.key with
  | some b => exact leads_of_bound hb hkey h
  | none =>
    have hd := h
    have hf := h'
    unfold Leads at hd hf
    rw [hb] at hd
    rw [hkey, hb] at hf
    obtain ⟨cls, hcls, -⟩ := hd
    obtain ⟨cls', hcls', -⟩ := hf
    have hty : Key.ofTy (.component cls') = .ofTy (.component cls) := by
      rw [← key_eq_of_justInTime hcls, ← key_eq_of_justInTime hcls', hkey]
    cases hty
    rw [eq_of_justInTime hcls' hcls]
    exact h

/-- What a bound key needs does not need the key, if it does not need itself. -/
theorem Acyclic.key_ne (h : c.Acyclic e) {b : Binding} (hb : c.registry.lookup d.key = some b)
    (hde : c.Leads d e) : c.Free (· = d.key) e := fun f hef hkey =>
  h f hef (.head' (leads_of_bound hb hkey hde) hef)

/-- A set with one more key. -/
def Also (B : Key → Prop) (key : Key) : Key → Prop := fun k => B k ∨ k = key

/-- A dependency may be free of one key more. -/
theorem Free.also {key : Key} (h : c.Free B d) (h' : c.Free (· = key) d) :
    c.Free (Also B key) d := fun e hde he => he.elim (h e hde) (h' e hde)

/-- What the construction of an object may ask for is listed by a member of its class. -/
theorem exists_member_of_needs {cls : ClassPath} (h : c.ConstructionNeeds cls e) :
    ∃ m ∈ c.classes.members cls, e ∈ m.dependencies := by
  rcases h with ⟨cat, hcat, m, hm, he⟩ | ⟨cat, m, hcat, hm, he⟩
  · have hlisted : m ∈ cat.members := List.mem_append_left _ (List.mem_append_right _ hm)
    exact ⟨m, ClassTable.mem_members hcat hlisted, he⟩
  · have hlisted : m ∈ cat.members :=
      List.mem_append_left _ (List.mem_append_left _ (Option.mem_toList.mpr hm))
    exact ⟨m, ClassTable.mem_members hcat hlisted, he⟩

/-- The members of each class need only keys of lower ranks, and so do the sources of bindings. -/
def Ranked (c : Container) (rank : Key → Nat) : Prop :=
  (∀ entry ∈ c.classes.entries, ∀ m ∈ entry.2.members, ∀ e ∈ m.dependencies,
    rank e.key < rank (.ofTy (.component entry.1))) ∧
  ∀ b ∈ c.registry.toList, b.source.staysBelow rank (rank b.key) = true

instance (c : Container) (rank : Key → Nat) : Decidable (c.Ranked rank) :=
  inferInstanceAs (Decidable (_ ∧ _))

/-- The construction of an object needs only keys of lower ranks. -/
theorem Ranked.needs {rank : Key → Nat} (h : c.Ranked rank) {cls : ClassPath}
    (he : c.ConstructionNeeds cls e) : rank e.key < rank (.ofTy (.component cls)) := by
  obtain ⟨m, hm, he⟩ := exists_member_of_needs he
  unfold ClassTable.members ClassTable.decl at hm
  cases hget : c.classes.get? cls with
  | none =>
    rw [hget] at hm
    cases hm
  | some decl =>
    rw [hget] at hm
    exact h.1 (cls, decl) (Table.mem_of_find hget) m hm e he

/-- Each dependency leads to keys of lower ranks. -/
theorem Ranked.lt {rank : Key → Nat} (h : c.Ranked rank) (hde : c.Leads d e) :
    rank e.key < rank d.key := by
  unfold Leads at hde
  split at hde
  · next b hb =>
    have hmem : b ∈ c.registry.toList := List.mem_map.mpr ⟨_, Table.mem_of_find hb, rfl⟩
    have hsource := h.2 b hmem
    rw [← Registry.key_of_lookup hb]
    cases hsrc : b.source with
    | constructor cls =>
      rw [hsrc] at hde hsource
      exact Nat.lt_of_lt_of_le (h.needs hde) (of_decide_eq_true hsource)
    | injected s | injectedProvider s ty =>
      rw [hsrc] at hde hsource
      exact Nat.lt_of_lt_of_le (h.needs (.inl hde)) (of_decide_eq_true hsource)
    | providerType p cls ty =>
      rw [hsrc] at hde hsource
      rw [show e = p from hde]
      exact of_decide_eq_true hsource
    | given i | provider p =>
      rw [hsrc] at hde
      cases hde
  · obtain ⟨cls, hcls, he⟩ := hde
    rw [key_eq_of_justInTime hcls]
    exact h.needs he

/-! ### Paths -/

/-- The keys of bindings and of declared classes. -/
def nodes (c : Container) : List Key :=
  c.registry.keys ++ c.classes.keys.map fun cls => .ofTy (.component cls)

/-- There is a node for each binding and each class. -/
theorem length_nodes (c : Container) : c.nodes.length = c.registry.size + c.classes.size := by
  unfold nodes Registry.keys Registry.size
  rw [List.length_append, List.length_map, Table.size_eq_length_keys, Table.size_eq_length_keys]

/-- A class that lists a member is declared. -/
theorem mem_keys_of_member {cls : ClassPath} {m : Member} (hm : m ∈ c.classes.members cls) :
    cls ∈ c.classes.keys := by
  rw [← Table.get?_isSome_iff]
  cases hget : c.classes.get? cls with
  | some decl => rfl
  | none =>
    unfold ClassTable.members ClassTable.decl at hm
    rw [hget] at hm
    cases hm

/-- What a dependency leads to is due to a binding or to a class. -/
theorem mem_nodes_of_leads (h : c.Leads d e) : d.key ∈ c.nodes := by
  unfold Leads at h
  cases hb : c.registry.lookup d.key with
  | some b =>
    refine List.mem_append_left _ ((c.registry.contains_iff _).mp ?_)
    rw [Registry.contains_eq_isSome_lookup, hb]
    rfl
  | none =>
    rw [hb] at h
    obtain ⟨cls, hcls, hneeds⟩ := h
    obtain ⟨m, hm, -⟩ := exists_member_of_needs hneeds
    rw [key_eq_of_justInTime hcls]
    exact List.mem_append_right _ (List.mem_map_of_mem (mem_keys_of_member hm))

/-- The keys of what is resolved when a dependency is asked for. -/
structure Path (c : Container) (path : List Key) (d : Dependency) : Prop where
  /-- No key is on the path twice. -/
  nodup : path.Nodup
  /-- The keys on the path are those of bindings and classes. -/
  nodes : path ⊆ c.nodes
  /-- They are keys of what needs the dependency. -/
  leads : ∀ key ∈ path, ∃ a : Dependency, a.key = key ∧ TransGen c.Leads a d

/-- A dependency is a path of its own. -/
theorem path_nil (c : Container) (d : Dependency) : c.Path [] d :=
  ⟨List.nodup_nil, List.nil_subset _, fun _ h => nomatch h⟩

/-- A path that does not come back is not longer than there are nodes. -/
theorem Path.length_le {path : List Key} (h : c.Path path d) : path.length ≤ c.nodes.length :=
  (h.nodup.subperm h.nodes).length_le

/-- A path goes on to what a dependency leads to. -/
theorem Path.cons {path : List Key} (h : c.Path path d) (hd : c.Acyclic d) (hde : c.Leads d e) :
    c.Path (d.key :: path) e := by
  refine ⟨List.nodup_cons.mpr ⟨fun hmem => ?_, h.nodup⟩,
    List.cons_subset.mpr ⟨mem_nodes_of_leads hde, h.nodes⟩, fun key hkey => ?_⟩
  · obtain ⟨a, ha, had⟩ := h.leads d.key hmem
    obtain ⟨a', haa', ha'd⟩ := TransGen.head'_iff.mp had
    exact hd d .refl (.head' (leads_of_key ha.symm haa' hde) ha'd)
  · rcases List.mem_cons.mp hkey with rfl | hkey
    · exact ⟨d, rfl, .single hde⟩
    · obtain ⟨a, ha, had⟩ := h.leads key hkey
      exact ⟨a, ha, had.tail hde⟩

/-! ### Chains -/

/-- No chain of dependencies that starts from `d`, each of which leads to the next, has more than
`n` of them. -/
def Shallow (c : Container) (n : Nat) (d : Dependency) : Prop :=
  ∀ ds, List.IsChain c.Leads (d :: ds) → ds.length < n

namespace Shallow

variable {n m : Nat}

/-- A dependency is a chain by itself. -/
theorem pos (h : c.Shallow n d) : 0 < n := h [] (.singleton d)

/-- A dependency that is shallow is so for a greater depth. -/
theorem mono (h : c.Shallow n d) (hnm : n ≤ m) : c.Shallow m d := fun ds hds =>
  Nat.lt_of_lt_of_le (h ds hds) hnm

/-- Chains from what a dependency leads to are shorter by one. -/
theorem leads (h : c.Shallow (n + 1) d) (hde : c.Leads d e) : c.Shallow n e := fun ds hds =>
  Nat.lt_of_succ_lt_succ (h (e :: ds) (.cons_cons hde hds))

/-- What a shallow dependency reaches is as shallow. -/
theorem reaches (h : c.Shallow n d) (hde : ReflTransGen c.Leads d e) : c.Shallow n e := by
  induction hde with
  | refl => exact h
  | tail _ hef ih =>
    obtain ⟨k, rfl⟩ := Nat.exists_eq_add_of_le' ih.pos
    exact (ih.leads hef).mono (Nat.le_succ k)

/-- Along a circle there are chains of any length. -/
theorem acyclic (h : c.Shallow n d) : c.Acyclic d := by
  intro e hde hcircle
  have he := h.reaches hde
  clear h hde
  induction n with
  | zero => exact Nat.lt_irrefl 0 he.pos
  | succ n ih =>
    obtain ⟨f, hef, hfe⟩ := TransGen.head'_iff.mp hcircle
    exact ih ((he.leads hef).reaches hfe)

end Shallow

/-- Where a number goes down along chains, it bounds them. -/
theorem shallow_of_rank (rank : Dependency → Nat) (h : ∀ d e, c.Leads d e → rank e < rank d)
    (d : Dependency) : c.Shallow (rank d + 1) d := by
  intro ds hds
  induction ds generalizing d with
  | nil => exact Nat.succ_pos _
  | cons e ds ih =>
    obtain ⟨hde, hds⟩ := List.isChain_cons_cons.mp hds
    have hlt := h d e hde
    have hlength := ih e hds
    simp only [List.length_cons] at hlength ⊢
    omega

/-- A rank says how shallow a dependency is. -/
theorem Ranked.shallow {rank : Key → Nat} (h : c.Ranked rank) (d : Dependency) :
    c.Shallow (rank d.key + 1) d := shallow_of_rank (fun d => rank d.key) (fun _ _ => h.lt) d

/-- There are no circles where ranks go down. -/
theorem acyclic_of_ranked (rank : Key → Nat) (h : c.Ranked rank) (d : Dependency) : c.Acyclic d :=
  (h.shallow d).acyclic

/-- A chain goes on from a path, and there is room for both in the nodes. -/
theorem Path.length_add_le {path : List Key} (h : c.Path path d) (hd : c.Acyclic d)
    {ds : List Dependency} (hds : List.IsChain c.Leads (d :: ds)) :
    path.length + ds.length ≤ c.nodes.length := by
  induction ds generalizing d path with
  | nil => exact h.length_le
  | cons e ds ih =>
    obtain ⟨hde, hds⟩ := List.isChain_cons_cons.mp hds
    have hle := ih (h.cons hd hde) (hd.leads hde) hds
    simp only [List.length_cons] at hle ⊢
    omega

/-- Without circles, chains meet each node at most once. -/
theorem Acyclic.shallow (hd : c.Acyclic d) :
    c.Shallow (c.registry.size + c.classes.size + 1) d := fun ds hds => by
  have hle := (c.path_nil d).length_add_le hd hds
  rw [length_nodes, List.length_nil] at hle
  omega

/-- An acyclic dependency is shallow enough for the depth bound. -/
theorem Acyclic.shallow_depthBound (hd : c.Acyclic d) : c.Shallow c.depthBound d :=
  hd.shallow.mono (Nat.le_trans (Nat.le_succ _) (Nat.le_add_right _ circularDepth))

/-! ### The contract -/

/-- The contract of coming to an end where only slots of keys in `B` may be busy and only deferred
bindings of keys in `R` may be running. -/
def terminating (c : Container) (B R : Key → Prop) : Contract where
  Inv s := s.Faithful c ∧ (∀ key, s.memory.slots.get? key = some .busy → B key) ∧
    ∀ key, s.memory.readiness key = .running → R key
  Step _ _ := True
  total := True
  Error _ := True
  Fits _ _ _ := True
  refl _ := trivial
  trans _ _ := trivial
  fits_step _ h := h

/-- What is done on the way to a key is governed by termination. -/
theorem governs_terminating (c : Container) (B R : Key → Prop) : (c.terminating B R).Governs c where
  faithful hs := hs.1
  effect hs h := by
    have hfaithful := c.admitsAll_faithful.effect hs.1 (h.mono fun _ hi => hi.elim)
    refine ⟨⟨hfaithful.1, fun key hkey => hs.2.1 key ?_, fun key hkey => hs.2.2 key ?_⟩, trivial⟩
    · rwa [← h.slots]
    · unfold Memory.readiness at hkey ⊢
      rwa [← h.deferred]
  held _ _ := trivial
  plain _ _ := trivial
  fresh _ _ _ := trivial
  provided _ _ _ := trivial
  provider _ _ _ _ := trivial
  replaced _ _ _ _ := trivial
  lack _ _ _ := trivial
  mistyped _ _ _ := trivial
  member _ _ _ _ _ := trivial
  failure _ _ _ := trivial
  supply _ _ := trivial

/-- Entries in the journal come to an end. -/
theorem terminating_emit (e : Event) : (c.terminating B R).Allows (.emit e) :=
  Contract.Meets.change fun _ hs _ => ⟨hs, trivial⟩

/-- So do marks. -/
theorem terminating_marks (ty : Ty) (g : Except ConfigurationError Instance → Event) :
    Contract.Compliance.Marks (c.terminating B R) ty g := fun _ _ hs _ _ => ⟨hs, trivial⟩

/-- The slot of a key that is not busy is filled, if the instance can be created while the slot is
busy. -/
theorem terminating_inSlot {ty : Ty} {key : Key} (hkey : ¬ B key) {create : Run Instance}
    (hcreate : (c.terminating (Also B key) R).Gives ty create)
    (hplain : (c.terminating B R).Gives ty create) :
    (c.terminating B R).Gives ty (inSlot key create) := by
  intro s hs _
  cases hcell : s.memory.slots.get? key with
  | none =>
    rw [inSlot_of_none hcell]
    exact hplain s hs trivial
  | some cell =>
    cases cell with
    | busy => exact absurd (hs.2.1 key hcell) hkey
    | full i =>
      rw [inSlot_of_full hcell]
      exact ⟨⟨hs, trivial⟩, trivial⟩
    | empty =>
      rw [inSlot_of_empty hcell]
      have hopen : (c.terminating (Also B key) R).Inv
          ⟨s.memory.setSlot key .busy, s.world.log (.creatingSingleton key)⟩ := by
        refine ⟨hs.1, fun k hk => ?_, hs.2.2⟩
        simp only [Memory.setSlot, Table.get?_insert] at hk
        split at hk
        · next heq => exact .inr heq.symm
        · exact .inl (hs.2.1 k hk)
      have ho := hcreate _ hopen trivial
      generalize create _ = o at ho ⊢
      rcases o with _ | ⟨r, t⟩
      · exact absurd trivial ho
      have ht : (c.terminating (Also B key) R).Inv t := by cases r <;> exact ho.1.1
      have hclosed : (c.terminating B R).Inv ⟨t.memory.setSlot key (.ofResult r), t.world⟩ := by
        refine ⟨ht.1, fun k hk => ?_, ht.2.2⟩
        simp only [Memory.setSlot, Table.get?_insert] at hk
        split at hk
        · cases r <;> cases hk
        · next hne => exact (ht.2.1 k hk).resolve_right fun heq => hne heq.symm
      cases r <;> exact ⟨⟨hclosed, trivial⟩, trivial⟩

/-- A deferred binding that is not running can be used, if its object can be injected while it is
running. -/
theorem terminating_force {self : Dependency → Run Instance} {key : Key} {d : Deferral} {ty : Ty}
    (hkey : ¬ R key) (hcarryOut : (c.terminating B (Also R key)).Gives ty (c.carryOut self d)) :
    (c.terminating B R).Gives ty (c.force self key d) := by
  intro s hs _
  cases hready : s.memory.readiness key with
  | ready i =>
    rw [c.force_of_ready self d hready]
    exact ⟨⟨hs, trivial⟩, trivial⟩
  | failed =>
    rw [c.force_of_failed self d hready]
    exact ⟨⟨hs, trivial⟩, trivial⟩
  | running => exact absurd (hs.2.2 key hready) hkey
  | waiting =>
    rw [c.force_of_waiting self d hready]
    have hopen : (c.terminating B (Also R key)).Inv (s.preparing key) := by
      refine ⟨hs.1, hs.2.1, fun k hk => ?_⟩
      rw [State.preparing, Memory.readiness_setReadiness] at hk
      split at hk
      · next heq => exact .inr heq.symm
      · exact .inl (hs.2.2 k hk)
    have ho := hcarryOut _ hopen trivial
    generalize c.carryOut self d _ = o at ho ⊢
    rcases o with _ | ⟨r, t⟩
    · exact absurd trivial ho
    have ht : (c.terminating B (Also R key)).Inv t := by cases r <;> exact ho.1.1
    have hclosed : (c.terminating B R).Inv (t.prepared key r) := by
      refine ⟨ht.1, ht.2.1, fun k hk => ?_⟩
      rw [State.prepared, Memory.readiness_setReadiness] at hk
      split at hk
      · cases r <;> cases hk
      · next hne => exact (ht.2.2 k hk).resolve_right fun heq => hne heq.symm
    cases r <;> exact ⟨⟨hclosed, trivial⟩, trivial⟩

/-! ### Resolution -/

section

variable {self : Dependency → Run Instance} {b : Binding}

/-- What a binding owes if what it needs comes to an end: it provides instances whatever slots are
busy. -/
theorem terminating_provision (hb : c.registry.lookup b.key = some b) (hkey : ¬ R b.key)
    (hself : ∀ R', (∀ k, R' k → Also R b.key k) → ∀ e, c.SourceNeeds b.source e →
      (c.terminating B R').Gives e.key.ty (self e)) :
    (c.terminating B R).Gives b.key.ty (c.provision self b) := by
  have hgoverns := c.governs_terminating B R
  refine Contract.Compliance.provision hgoverns hb (hself R fun k hk => .inl hk) fun d hd => ?_
  refine terminating_force hkey ?_
  refine Contract.Compliance.carryOut (c.governs_terminating B _) hb hd fun e he => ?_
  exact hself _ (fun k hk => hk) e (sourceNeeds_of_deferral hd he)

/-- The same in its scope. -/
theorem terminating_resolveBinding (hb : c.registry.lookup b.key = some b) (hB : ¬ B b.key)
    (hprovision : ∀ B', (∀ k, B' k → Also B b.key k) →
      (c.terminating B' R).Gives b.key.ty (c.provision self b)) :
    (c.terminating B R).Gives b.key.ty (c.resolveBinding self b) := by
  have hsupply : ∀ B', (∀ k, B' k → Also B b.key k) →
      (c.terminating B' R).Gives b.key.ty (c.supply self b) := fun B' hB' =>
    Contract.Compliance.supply (terminating_emit _) (terminating_marks _ _) (hprovision B' hB')
  have hplain := hsupply B fun k hk => .inl hk
  have hgoverns := c.governs_terminating B R
  refine Contract.Compliance.withinScope hgoverns (fun _ _ _ hs _ => ⟨hs, trivial⟩) hb hplain
    (fun _ => ?_) fun accessor _ haccessor => ?_
  · exact terminating_inSlot hB (hsupply _ fun _ hk => hk) hplain
  · exact Contract.Compliance.accessed_keeper hgoverns haccessor fun keeper notice hnotice =>
      Contract.Compliance.keptBy hgoverns (fun _ _ _ hs _ _ => ⟨hs, trivial⟩) keeper b.key hnotice
        hplain

end

/-- A way to resolve a dependency comes to an end, whatever is being created that the dependency
does not need. -/
def Terminates (c : Container) (self : Dependency → Run Instance) (d : Dependency) : Prop :=
  ∀ B R : Key → Prop, c.Free B d → c.Free R d → (c.terminating B R).Gives d.key.ty (self d)

/-- What a dependency needs comes to an end, so it does. -/
theorem terminates_resolveStep {self : Dependency → Run Instance} (hd : c.Acyclic d)
    (hself : ∀ e, c.Leads d e → c.Terminates self e) : c.Terminates (c.resolveStep self) d := by
  intro B R hB hR
  have hgoverns := c.governs_terminating B R
  refine Contract.Compliance.resolveStep hgoverns (terminating_marks _ _) ?_
  refine Contract.Compliance.answer hgoverns
    (fun e he => hself e he B R (hB.leads he) (hR.leads he)) fun b hb => ?_
  have hkey : b.key = d.key := Registry.key_of_lookup hb
  have hb' : c.registry.lookup b.key = some b := by rw [hkey, hb]
  refine terminating_resolveBinding hb' (by rw [hkey]; exact hB d .refl) fun B' hB' => ?_
  refine terminating_provision hb' (by rw [hkey]; exact hR d .refl) fun R' hR' e he => ?_
  -- what the binding needs does not need its key, so the key may be busy and running meanwhile
  have hde : c.Leads d e := leads_of_needs hb he
  have hother : c.Free (· = b.key) e := by
    rw [hkey]
    exact (hd.leads hde).key_ne hb hde
  exact hself e hde B' R' (fun f hf hk => ((hB.leads hde).also hother) f hf (hB' _ hk))
    fun f hf hk => ((hR.leads hde).also hother) f hf (hR' _ hk)

/-- A resolution comes to an end within each depth that no chain exceeds. -/
theorem terminates_resolveWithin {n : Nat} (hd : c.Shallow n d) :
    c.Terminates (c.resolveWithin n) d := by
  induction n generalizing d with
  | zero => exact absurd hd.pos (Nat.lt_irrefl 0)
  | succ n ih => exact terminates_resolveStep hd.acyclic fun e hde => ih (hd.leads hde)

/-- A resolution without circles comes to an end. -/
theorem terminates_resolve (hd : c.Acyclic d) : c.Terminates c.resolve d := fun B R hB hR =>
  terminates_resolveWithin hd.shallow_depthBound B R hB hR

/-! ### Builds -/

/-- What a step of a build does, where dependencies are resolved by `self`. -/
def runBy (c : Container) (self : Dependency → Run Instance) : BuildStep → Run Unit
  | .prepare b d => do
    let _ ← c.force self b.key d
  | .inject cls => c.injectStatics self cls
  | .announce targets => .log (.staticsInjected targets)
  | .create b => do
    .log (.creatingAhead b.key)
    let _ ← c.resolveBinding self b

/-- Steps that resolve dependencies by the container are the steps of its build. -/
theorem runBy_resolve (c : Container) (step : BuildStep) : c.runBy c.resolve step = step.run c := by
  cases step <;> rfl

/-- Nothing that a deferred binding needs needs itself. -/
def AcyclicDeferred (c : Container) : Prop := ∀ (b : Binding) e, c.registry.lookup b.key = some b →
  b.source.isDeferred = true → c.SourceNeeds b.source e → c.Acyclic e

/-- Between steps of a build, no slot is busy and no deferred binding is running. -/
def resting (c : Container) : Contract := c.terminating (fun _ => False) fun _ => False

/-- Nothing is being created to begin with. -/
theorem resting_initial (c : Container) (w : World) : c.resting.Inv ⟨c.initialMemory, w⟩ := by
  refine ⟨c.faithful_initial w, fun key hkey => ?_, fun key hkey => nomatch hkey⟩
  cases eq_empty_of_initialMemory hkey

section

variable {self : Dependency → Run Instance}

/-- At rest, no key is in the way of a dependency that comes to an end. -/
theorem Terminates.rests (h : c.Terminates self d) : c.resting.Gives d.key.ty (self d) :=
  h _ _ (c.free_none d) (c.free_none d)

/-- A deferred binding can be used between steps of a build if there are no circles. -/
theorem resting_prepare {b : Binding} {d : Deferral} (hb : c.registry.lookup b.key = some b)
    (hd : b.source.deferral = some d)
    (h : ∀ e, c.SourceNeeds b.source e → c.Acyclic e ∧ c.Terminates self e) :
    c.resting.Gives (.component d.subject.cls) (c.force self b.key d) := by
  refine terminating_force (fun hfalse => hfalse) ?_
  refine Contract.Compliance.carryOut (c.governs_terminating _ _) hb hd fun e he => ?_
  have hneeds : c.SourceNeeds b.source e := sourceNeeds_of_deferral hd he
  obtain ⟨hacyclic, hself⟩ := h e hneeds
  refine hself _ _ (c.free_none e) ((c.free_none e).also ?_)
  exact hacyclic.key_ne (d := .ofKey b.key) hb (leads_of_needs hb hneeds)

/-- A step of a build comes to an end if there are no circles. -/
theorem terminates_runBy (h : ∀ d, c.Acyclic d) (hself : ∀ d, c.Terminates self d)
    {step : BuildStep} (hstep : c.Does step) : c.resting.Allows (c.runBy self step) := by
  cases step with
  | prepare b d =>
    exact Contract.Meets.bind (resting_prepare hstep.1 hstep.2 fun e _ => ⟨h e, hself e⟩) fun _ =>
      Contract.Meets.succeed fun _ _ _ => trivial
  | inject cls =>
    exact Contract.Compliance.injectStatics (c.governs_terminating _ _)
      (fun e _ _ => terminating_emit e) fun e _ => (hself e).rests
  | announce n => exact terminating_emit _
  | create b =>
    have hbinding : c.resting.Gives b.key.ty (c.resolveBinding self b) := by
      refine terminating_resolveBinding hstep.1 (fun hfalse => hfalse) fun B' hB' => ?_
      refine terminating_provision hstep.1 (fun hfalse => hfalse) fun R' hR' e he => ?_
      have hde : c.Leads (.ofKey b.key) e := leads_of_needs hstep.1 he
      have hother := (c.free_none e).also ((h e).key_ne hstep.1 hde)
      exact hself e B' R' (fun f hf hk => hother f hf (hB' _ hk)) fun f hf hk =>
        hother f hf (hR' _ hk)
    exact Contract.Meets.bind (terminating_emit _) fun _ => Contract.Meets.bind hbinding fun _ =>
      Contract.Meets.succeed fun _ _ _ => trivial

end

/-- The first stage of a build comes to an end if no deferred binding is in a circle. -/
theorem terminates_injectDeferred (h : c.AcyclicDeferred) : c.resting.Allows c.injectDeferred := by
  refine Contract.Meets.each fun b hb => ?_
  have hb' := Registry.lookup_of_mem hb
  unfold prepare
  cases hd : b.source.deferral with
  | none => exact Contract.Meets.succeed fun _ _ _ => trivial
  | some d =>
    have hdeferred : b.source.isDeferred = true := by
      unfold Source.isDeferred
      rw [hd]
      rfl
    refine Contract.Meets.mapError (E := fun _ => True) ?_ fun _ _ => trivial
    refine Contract.Meets.bind (resting_prepare hb' hd fun e he => ?_) fun _ =>
      Contract.Meets.succeed fun _ _ _ => trivial
    exact ⟨h b e hb' hdeferred he, terminates_resolve (h b e hb' hdeferred he)⟩

/-- A build comes to an end if there are no circles. -/
theorem terminates_start (h : ∀ d, c.Acyclic d) : c.resting.Allows c.start := by
  refine Contract.Compliance.start (fun step hstep => ?_) (fun _ _ _ => trivial)
    fun _ => terminating_emit _
  rw [← runBy_resolve]
  exact terminates_runBy h (fun d => terminates_resolve (h d)) hstep

end Container

end Wiring
