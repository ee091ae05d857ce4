/-!
# Tables in Order of First Insertion

A `Table` maps keys to values and remembers the order in which the keys first came in.
Inserting under a key that is already there replaces the value and leaves the key where it
stands. Registries, singleton slots, caches and attribute maps are all tables.

## Main statements

* `get?_insert`: looking up after an insertion.
* `keys_insert`: a new key goes to the end, a known key keeps its place.
* `size_insert`: the size grows exactly when the key is new.
* `get?_isSome_iff`: a key is found exactly when it is listed.
-/

namespace Wiring

/-- A finite map whose keys are listed once each, in order of first insertion. -/
structure Table (κ α : Type) where
  /-- The entries in order of first insertion. -/
  entries : List (κ × α)
  /-- No key is listed twice. -/
  nodup : (entries.map Prod.fst).Nodup
  deriving DecidableEq

namespace Table

variable {κ α : Type}

/-- The table without entries. -/
def empty : Table κ α := ⟨[], List.nodup_nil⟩

instance : EmptyCollection (Table κ α) := ⟨empty⟩

instance : Inhabited (Table κ α) := ⟨empty⟩

/-- The keys in order of first insertion. -/
def keys (t : Table κ α) : List κ := t.entries.map Prod.fst

/-- The values in the order of their keys. -/
def values (t : Table κ α) : List α := t.entries.map Prod.snd

/-- The number of keys. -/
def size (t : Table κ α) : Nat := t.entries.length

/-- Whether there is no key. -/
def isEmpty (t : Table κ α) : Bool := t.entries.isEmpty

variable [DecidableEq κ]

/-- The value of the first entry under `k`. -/
def find (k : κ) : List (κ × α) → Option α
  | [] => none
  | (j, a) :: rest => if j = k then some a else find k rest

/-- Replace the value under `k` where it stands, or append the entry. -/
def put (k : κ) (a : α) : List (κ × α) → List (κ × α)
  | [] => [(k, a)]
  | (j, b) :: rest => if j = k then (j, a) :: rest else (j, b) :: put k a rest

omit [DecidableEq κ] in
@[simp] theorem find_nil [DecidableEq κ] (k : κ) : find k ([] : List (κ × α)) = none := rfl

/-- What is put under a key is found there, and nothing else is changed. -/
theorem find_put (k j : κ) (a : α) (es : List (κ × α)) :
    find j (put k a es) = if k = j then some a else find j es := by
  induction es with
  | nil => simp [put, find]
  | cons e rest ih =>
    obtain ⟨i, b⟩ := e
    by_cases hik : i = k
    · subst hik
      by_cases hij : i = j <;> simp [put, find, hij]
    · by_cases hij : i = j
      · subst hij
        have hki : k ≠ i := fun h => hik h.symm
        simp [put, find, hik, hki]
      · simp [put, find, hik, hij, ih]

/-- A new key comes last. -/
theorem map_fst_put (k : κ) (a : α) (es : List (κ × α)) :
    (put k a es).map Prod.fst =
      if k ∈ es.map Prod.fst then es.map Prod.fst else es.map Prod.fst ++ [k] := by
  induction es with
  | nil => simp [put]
  | cons e rest ih =>
    obtain ⟨i, b⟩ := e
    by_cases hik : i = k
    · subst hik; simp [put]
    · have hki : k ≠ i := fun h => hik h.symm
      by_cases hmem : k ∈ rest.map Prod.fst <;> simp_all [put]

/-- An entry is the one that was put, or an old one. -/
theorem mem_put {k : κ} {a : α} {es : List (κ × α)} {e : κ × α} (h : e ∈ put k a es) :
    e = (k, a) ∨ e ∈ es := by
  induction es with
  | nil => simpa [put] using h
  | cons e' rest ih =>
    obtain ⟨j, b⟩ := e'
    rw [put] at h
    split at h
    · rename_i hjk
      rcases List.mem_cons.1 h with h | h
      · exact .inl (hjk ▸ h)
      · exact .inr (List.mem_cons_of_mem _ h)
    · rcases List.mem_cons.1 h with h | h
      · exact .inr (h ▸ List.mem_cons_self)
      · exact (ih h).imp id (List.mem_cons_of_mem _)

/-- What is found under a key is entered there. -/
theorem mem_of_find {k : κ} {a : α} {es : List (κ × α)} (h : find k es = some a) :
    (k, a) ∈ es := by
  induction es with
  | nil => simp at h
  | cons e rest ih =>
    obtain ⟨j, b⟩ := e
    rw [find] at h
    split at h
    · rename_i hjk
      cases h
      exact hjk ▸ List.mem_cons_self
    · exact List.mem_cons_of_mem _ (ih h)

/-- Different keys stay different. -/
theorem nodup_put {k : κ} {a : α} {es : List (κ × α)} (h : (es.map Prod.fst).Nodup) :
    ((put k a es).map Prod.fst).Nodup := by
  rw [map_fst_put]
  split
  · exact h
  · rename_i hk
    refine List.nodup_append.2 ⟨h, by simp, ?_⟩
    intro x hx y hy
    rw [List.mem_singleton] at hy
    subst hy
    exact fun hxy => hk (hxy ▸ hx)

/-- The value stored under `k`. -/
def get? (t : Table κ α) (k : κ) : Option α := find k t.entries

/-- Whether a value is stored under `k`. -/
def contains (t : Table κ α) (k : κ) : Bool := (t.get? k).isSome

/-- Store `a` under `k`: in the place of the old value, or at the end when `k` is new. -/
def insert (t : Table κ α) (k : κ) (a : α) : Table κ α :=
  ⟨put k a t.entries, nodup_put t.nodup⟩

/-- The table without the entry under `k`. -/
def erase (t : Table κ α) (k : κ) : Table κ α :=
  ⟨t.entries.filter (·.1 ≠ k), t.nodup.sublist (List.filter_sublist.map Prod.fst)⟩

/-- The table of a list of entries, later entries replacing earlier ones. -/
def ofList (es : List (κ × α)) : Table κ α :=
  es.foldl (fun t e => t.insert e.1 e.2) empty

@[simp] theorem get?_empty (k : κ) : (empty : Table κ α).get? k = none := rfl

/-- What is inserted under a key is found there, and nothing else is changed. -/
theorem get?_insert (t : Table κ α) (k j : κ) (a : α) :
    (t.insert k a).get? j = if k = j then some a else t.get? j :=
  find_put k j a t.entries

/-- What is inserted is found. -/
@[simp] theorem get?_insert_self (t : Table κ α) (k : κ) (a : α) :
    (t.insert k a).get? k = some a := by simp [get?_insert]

/-- Other keys are left alone. -/
theorem get?_insert_of_ne (t : Table κ α) {k j : κ} (a : α) (h : k ≠ j) :
    (t.insert k a).get? j = t.get? j := by simp [get?_insert, h]

/-- Nothing is found under a key whose entries are left out. -/
theorem find_filter_ne (k j : κ) (es : List (κ × α)) :
    find j (es.filter (·.1 ≠ k)) = if k = j then none else find j es := by
  induction es with
  | nil => simp
  | cons e rest ih =>
    obtain ⟨i, b⟩ := e
    by_cases hik : i = k
    · subst hik
      by_cases hij : i = j <;> simp_all [find]
    · by_cases hij : i = j
      · subst hij
        have hki : k ≠ i := fun h => hik h.symm
        simp [find, hik, hki]
      · simp_all [find]

/-- Nothing is found under a key that is erased. -/
theorem get?_erase (t : Table κ α) (k j : κ) :
    (t.erase k).get? j = if k = j then none else t.get? j :=
  find_filter_ne k j t.entries

/-- A new key comes last. -/
theorem keys_insert (t : Table κ α) (k : κ) (a : α) :
    (t.insert k a).keys = if k ∈ t.keys then t.keys else t.keys ++ [k] :=
  map_fst_put k a t.entries

/-- Something is found under the keys of entries. -/
theorem find_isSome_iff (k : κ) (es : List (κ × α)) :
    (find k es).isSome ↔ k ∈ es.map Prod.fst := by
  induction es with
  | nil => simp [find]
  | cons e rest ih =>
    obtain ⟨i, b⟩ := e
    by_cases hik : i = k
    · subst hik; simp [find]
    · have hki : k ≠ i := fun h => hik h.symm
      simp_all [find]

/-- Something is found under the keys of a table. -/
theorem get?_isSome_iff (t : Table κ α) (k : κ) : (t.get? k).isSome ↔ k ∈ t.keys :=
  find_isSome_iff k t.entries

/-- A table contains its keys. -/
theorem contains_iff (t : Table κ α) (k : κ) : t.contains k = true ↔ k ∈ t.keys :=
  t.get?_isSome_iff k

/-- A table contains the inserted key and the old ones. -/
theorem contains_insert (t : Table κ α) (k j : κ) (a : α) :
    (t.insert k a).contains j = (decide (k = j) || t.contains j) := by
  unfold contains
  rw [get?_insert]
  by_cases h : k = j <;> simp [h]

/-- What is put under a new key comes last. -/
theorem put_of_not_mem {k : κ} {a : α} {es : List (κ × α)} (h : k ∉ es.map Prod.fst) :
    put k a es = es ++ [(k, a)] := by
  induction es with
  | nil => rfl
  | cons e rest ih =>
    obtain ⟨i, b⟩ := e
    simp only [List.map_cons, List.mem_cons, not_or] at h
    rw [put, if_neg fun hik => h.1 hik.symm, ih h.2, List.cons_append]

/-- Entries under different keys are stored as they are listed. -/
theorem entries_ofList {es : List (κ × α)} (h : (es.map Prod.fst).Nodup) :
    (ofList es).entries = es := by
  have hfold : ∀ (es : List (κ × α)) (t : Table κ α), ((t.entries ++ es).map Prod.fst).Nodup →
      (es.foldl (fun t e => t.insert e.1 e.2) t).entries = t.entries ++ es := by
    intro es
    induction es with
    | nil => intro t _; exact (List.append_nil _).symm
    | cons e rest ih =>
      intro t ht
      have hnew : e.1 ∉ t.entries.map Prod.fst := by
        rw [List.map_append, List.map_cons, List.nodup_append] at ht
        exact fun hmem => ht.2.2 _ hmem _ (by simp) rfl
      have hput : (t.insert e.1 e.2).entries = t.entries ++ [e] := put_of_not_mem hnew
      rw [List.foldl_cons, ih _ (by rw [hput, List.append_assoc]; exact ht), hput,
        List.append_assoc]
      rfl
  exact hfold es empty h

/-- The table of a list has only entries of the list. -/
theorem mem_ofList {es : List (κ × α)} {e : κ × α} (h : e ∈ (ofList es).entries) : e ∈ es := by
  have hfold : ∀ (es : List (κ × α)) (t : Table κ α),
      e ∈ (es.foldl (fun t e => t.insert e.1 e.2) t).entries → e ∈ es ∨ e ∈ t.entries := by
    intro es
    induction es with
    | nil => exact fun t ht => .inr ht
    | cons e' es ih =>
      intro t ht
      rcases ih _ ht with hmem | ht
      · exact .inl (List.mem_cons_of_mem _ hmem)
      · rcases mem_put ht with rfl | ht
        · exact .inl List.mem_cons_self
        · exact .inr ht
  exact (hfold es empty h).resolve_right nofun

omit [DecidableEq κ] in
/-- A table is as large as it has keys. -/
theorem size_eq_length_keys (t : Table κ α) : t.size = t.keys.length := by
  simp [size, keys]

/-- A new key makes a table larger by one. -/
theorem size_insert (t : Table κ α) (k : κ) (a : α) :
    (t.insert k a).size = if k ∈ t.keys then t.size else t.size + 1 := by
  rw [size_eq_length_keys, keys_insert, size_eq_length_keys]
  split <;> simp

omit [DecidableEq κ] in
/-- The keys of a table are different. -/
theorem nodup_keys (t : Table κ α) : t.keys.Nodup := t.nodup

end Table

end Wiring
