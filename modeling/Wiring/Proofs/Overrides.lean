import Mathlib.Data.List.Nodup
import Wiring.Settings.Sources

/-!
# The Order of Variables

An environment comes in no order, and yet its variables are applied one after another, up to the
first that cannot be read. What they come to is told without an order: each of the four settings
has the value of the last pair that is named for it, and whether there is an error is decided by
each pair for itself.

## Conventions

A pair is a name with a value. A pair is readable if its value is, provided that it is named for a
setting whose value must be read; the directives of the log are taken as they are. The value of a
pair does not depend on the settings it is applied to, so nor do the notices and the error that
pairs come to.

## Main statements

* `Variable.ofName?_eq_some_iff`: a variable has one name.
* `BootstrapSettings.Reflects`: the settings that pairs come to.
* `BootstrapSettings.reflects_overrideAll`: pairs that can be applied are reflected.
* `BootstrapSettings.error_overrideAll_eq_none_iff`: which pairs can be applied.
* `BootstrapSettings.exists_rejected`: where applying pairs stops.
* `BootstrapSettings.overrides_without_order`: the order of pairs with different names does not
  matter, and nor does applying them again.
-/

namespace Wiring

/-! ### The names of variables -/

namespace Variable

/-- What the name of a variable goes on with. -/
def suffix : Variable → String
  | stage => "STAGE"
  | eagerSingletons => "EAGER_SINGLETONS"
  | jitBindings => "JIT_BINDINGS"
  | logLevel => "LOG_LEVEL"

/-- The name of a variable. -/
def name (v : Variable) : String := nameStart ++ v.suffix

/-- The variable with a name, if there is one. -/
def ofName? (name : String) : Option Variable := (rest? name).bind ofRest?

/-- What remains after the common start of names is what was appended to it. -/
theorem rest?_eq_some_iff {name rest : String} :
    rest? name = some rest ↔ name = nameStart ++ rest := by
  rw [rest?, Option.map_eq_some_iff]
  constructor
  · rintro ⟨cs, hcs, rfl⟩
    rw [List.isPrefixOf?_eq_some_iff_append_eq] at hcs
    apply String.toList_injective
    rw [String.toList_append, String.toList_ofList, hcs]
  · rintro rfl
    exact ⟨rest.toList, by
      rw [List.isPrefixOf?_eq_some_iff_append_eq, String.toList_append], String.ofList_toList⟩

/-- A variable is told by its suffix. -/
theorem ofRest?_eq_some_iff {rest : String} {v : Variable} :
    ofRest? rest = some v ↔ rest = v.suffix := by
  constructor
  · intro h
    unfold ofRest? at h
    split at h
    all_goals cases h
    all_goals rfl
  · rintro rfl
    cases v <;> rfl

/-- A variable has one name. -/
theorem ofName?_eq_some_iff {name : String} {v : Variable} :
    ofName? name = some v ↔ name = v.name := by
  rw [ofName?, Option.bind_eq_some_iff]
  constructor
  · rintro ⟨rest, hrest, hv⟩
    rw [rest?_eq_some_iff.mp hrest, ofRest?_eq_some_iff.mp hv, Variable.name]
  · rintro rfl
    exact ⟨v.suffix, rest?_eq_some_iff.mpr rfl, ofRest?_eq_some_iff.mpr rfl⟩

/-- Variables have different names. -/
theorem name_injective : Function.Injective name := fun _ _ h =>
  Option.some.inj ((ofName?_eq_some_iff.mpr h).symm.trans (ofName?_eq_some_iff.mpr rfl)).symm

/-- A value can be read for a variable. The directives of the log need no reading. -/
def Accepts (value : String) : Variable → Prop
  | stage => ∃ read, Stage.parse value = .ok read
  | eagerSingletons => ∃ read, readFlag eagerSingletons.name value = .ok read
  | jitBindings => ∃ read, readFlag jitBindings.name value = .ok read
  | logLevel => True

/-- A value cannot be read for a variable, and this is said about it. -/
def Rejects (value message : String) : Variable → Prop
  | stage => Stage.parse value = .error message
  | eagerSingletons => readFlag eagerSingletons.name value = .error message
  | jitBindings => readFlag jitBindings.name value = .error message
  | logLevel => False

end Variable

/-- The value of a pair can be read for the variable that the pair is named for, if it is named
for one. -/
def Readable (p : String × String) : Prop := ∀ v : Variable, p.1 = v.name → v.Accepts p.2

/-- The value of the last pair with a name. -/
def lastValue? (vs : List (String × String)) (name : String) : Option String :=
  (vs.filter (·.1 = name)).getLast?.map Prod.snd

/-- The last value is that of the later list, if there is one. -/
theorem lastValue?_append (vs us : List (String × String)) (name : String) :
    lastValue? (vs ++ us) name = (lastValue? us name).or (lastValue? vs name) := by
  rw [lastValue?, List.filter_append, List.getLast?_append, Option.map_or]
  rfl

/-- A single value counts if it is for the name. -/
theorem lastValue?_singleton (p : String × String) (name : String) :
    lastValue? [p] name = if p.1 = name then some p.2 else none := by
  by_cases h : p.1 = name <;> simp [lastValue?, h]

/-- Among pairs with different names, the last with a name is the only one. -/
theorem lastValue?_perm {vs us : List (String × String)} (hperm : vs.Perm us)
    (hnames : (vs.map Prod.fst).Nodup) (name : String) :
    lastValue? vs name = lastValue? us name := by
  have hshort : (vs.filter (·.1 = name)).length ≤ 1 := by
    have hcount := List.nodup_iff_count_le_one.mp hnames name
    rw [List.count, List.countP_map, List.countP_eq_length_filter] at hcount
    exact hcount
  have hfilter : vs.filter (·.1 = name) = us.filter (·.1 = name) := by
    have hlists := hperm.filter (·.1 = name)
    rcases hvs : vs.filter (·.1 = name) with _ | ⟨p, _ | ⟨q, rest⟩⟩
    · rw [hvs] at hlists ⊢
      exact hlists.nil_eq
    · rw [hvs] at hlists ⊢
      exact List.singleton_perm.mp hlists
    · simp [hvs] at hshort
  rw [lastValue?, hfilter, lastValue?]

namespace BootstrapSettings

/-! ### What pairs come to -/

/-- The setting of a variable is what a value is read as. -/
def Has (s : BootstrapSettings) (value : String) : Variable → Prop
  | .stage => Stage.parse value = .ok s.container.stage
  | .eagerSingletons => ∃ read, s.container.eagerSingletons = some read ∧
      Variable.readFlag Variable.eagerSingletons.name value = .ok read
  | .jitBindings =>
      Variable.readFlag Variable.jitBindings.name value = .ok s.container.jitBindings
  | .logLevel => value = s.logging.level

/-- The setting of a variable is the same. -/
def AgreesOn (s t : BootstrapSettings) : Variable → Prop
  | .stage => s.container.stage = t.container.stage
  | .eagerSingletons => s.container.eagerSingletons = t.container.eagerSingletons
  | .jitBindings => s.container.jitBindings = t.container.jitBindings
  | .logLevel => s.logging.level = t.logging.level

theorem AgreesOn.refl (s : BootstrapSettings) (v : Variable) : s.AgreesOn s v := by
  cases v <;> rfl

theorem AgreesOn.symm {s t : BootstrapSettings} {v : Variable} (h : s.AgreesOn t v) :
    t.AgreesOn s v := by
  cases v <;> exact Eq.symm h

theorem AgreesOn.trans {s t u : BootstrapSettings} {v : Variable} (h : s.AgreesOn t v)
    (h' : t.AgreesOn u v) : s.AgreesOn u v := by
  cases v <;> exact Eq.trans h h'

/-- Settings that agree have the same values. -/
theorem AgreesOn.has {s t : BootstrapSettings} {v : Variable} {value : String}
    (h : s.AgreesOn t v) (ht : t.Has value v) : s.Has value v := by
  cases v <;> simp_all [AgreesOn, Has]

/-- A value is read in one way. -/
theorem Has.agreesOn {s t : BootstrapSettings} {v : Variable} {value : String}
    (hs : s.Has value v) (ht : t.Has value v) : s.AgreesOn t v := by
  cases v with
  | stage => exact Except.ok.inj (hs.symm.trans ht)
  | eagerSingletons =>
    obtain ⟨read, hs, hread⟩ := hs
    obtain ⟨read', ht, hread'⟩ := ht
    obtain rfl : read = read' := Except.ok.inj (hread.symm.trans hread')
    exact hs.trans ht.symm
  | jitBindings => exact Except.ok.inj (hs.symm.trans ht)
  | logLevel => exact hs.symm.trans ht

/-- Settings come from others by pairs: the setting of each variable is the value of the last pair
for it, or as before if there is none, and nothing else is changed. -/
structure Reflects (s : BootstrapSettings) (vs : List (String × String))
    (s' : BootstrapSettings) : Prop where
  /-- The last pair for a variable says what is set. -/
  last : ∀ v : Variable, ∀ value, lastValue? vs v.name = some value → s'.Has value v
  /-- What no pair is for is not changed. -/
  rest : ∀ v : Variable, lastValue? vs v.name = none → s'.AgreesOn s v
  /-- There is more to the log than its directives. -/
  others : s'.logging = { s.logging with level := s'.logging.level }

namespace Reflects

variable {s s' s'' : BootstrapSettings} {vs us : List (String × String)}

/-- No values leave the settings as they are. -/
protected theorem nil (s : BootstrapSettings) : s.Reflects [] s where
  last _ _ h := nomatch h
  rest v _ := .refl s v
  others := rfl

/-- Values one after another are reflected one after another. -/
protected theorem append (h : s.Reflects vs s') (h' : s'.Reflects us s'') :
    s.Reflects (vs ++ us) s'' where
  last v value hlast := by
    rw [lastValue?_append, Option.or_eq_some_iff] at hlast
    rcases hlast with hlast | ⟨hnone, hlast⟩
    · exact h'.last v value hlast
    · exact (h'.rest v hnone).has (h.last v value hlast)
  rest v hnone := by
    rw [lastValue?_append, Option.or_eq_none_iff] at hnone
    exact (h'.rest v hnone.1).trans (h.rest v hnone.2)
  others := by rw [h'.others, h.others]

/-- Once pairs are reflected, they are reflected by what is there already. -/
theorem again (h : s.Reflects vs s') : s'.Reflects vs s' where
  last := h.last
  rest v _ := .refl s' v
  others := rfl

/-- What pairs come to is told by the last values. -/
theorem unique (h : s.Reflects vs s') (h' : s.Reflects us s'')
    (hlast : ∀ v : Variable, lastValue? vs v.name = lastValue? us v.name) : s' = s'' := by
  have hagrees : ∀ v, s'.AgreesOn s'' v := by
    intro v
    rcases hvalue : lastValue? vs v.name with _ | value
    · exact (h.rest v hvalue).trans (h'.rest v (by rw [← hlast, hvalue])).symm
    · exact (h.last v value hvalue).agreesOn (h'.last v value (by rw [← hlast, hvalue]))
  have hlogging : s'.logging = s''.logging := by
    have hlevel : s'.logging.level = s''.logging.level := hagrees .logLevel
    rw [h.others, h'.others, hlevel]
  have hcontainer : s'.container = s''.container := by
    obtain ⟨⟨stage, eager, jit⟩, _⟩ := s'
    obtain ⟨⟨stage', eager', jit'⟩, _⟩ := s''
    obtain rfl : stage = stage' := hagrees .stage
    obtain rfl : eager = eager' := hagrees .eagerSingletons
    obtain rfl : jit = jit' := hagrees .jitBindings
    rfl
  obtain ⟨_, _⟩ := s'
  obtain ⟨_, _⟩ := s''
  rw [BootstrapSettings.mk.injEq]
  exact ⟨hcontainer, hlogging⟩

/-- A pair that is named for a variable sets it. -/
theorem single {v : Variable} {value : String} (hvalue : s'.Has value v)
    (hrest : ∀ u, u ≠ v → s'.AgreesOn s u)
    (hothers : s'.logging = { s.logging with level := s'.logging.level }) :
    s.Reflects [(v.name, value)] s' where
  last u value' hlast := by
    rw [lastValue?_singleton] at hlast
    split at hlast
    · next hname =>
      obtain rfl := Variable.name_injective hname
      exact Option.some.inj hlast ▸ hvalue
    · cases hlast
  rest u hnone := by
    refine hrest u fun hu => ?_
    rw [hu, lastValue?_singleton, if_pos rfl] at hnone
    cases hnone
  others := hothers

/-- A pair that is named for no variable changes nothing. -/
theorem unnamed {p : String × String} (hname : ∀ v : Variable, p.1 ≠ v.name)
    (s : BootstrapSettings) : s.Reflects [p] s where
  last v value hlast := by
    rw [lastValue?_singleton, if_neg (hname v)] at hlast
    cases hlast
  rest v _ := .refl s v
  others := rfl

end Reflects

/-! ### One pair -/

variable {s s' : BootstrapSettings} {v : Variable} {name value : String}

section

variable {ε α β : Type} {x : Except ε α} {f : α → β}

/-- What is set was read. -/
theorem exists_of_map_eq_ok {b : β} (h : x.map f = .ok b) : ∃ a, x = .ok a ∧ f a = b := by
  cases x with
  | error e => cases h
  | ok a => exact ⟨a, rfl, Except.ok.inj h⟩

/-- Mapping a result succeeds if the result is one. -/
theorem exists_map_eq_ok_iff : (∃ b, x.map f = .ok b) ↔ ∃ a, x = .ok a := by
  constructor
  · rintro ⟨b, h⟩
    obtain ⟨a, ha, -⟩ := exists_of_map_eq_ok h
    exact ⟨a, ha⟩
  · rintro ⟨a, rfl⟩
    exact ⟨f a, rfl⟩

/-- Mapping a result fails as the result does. -/
theorem map_eq_error_iff {e : ε} : x.map f = .error e ↔ x = .error e := by
  cases x <;> simp [Except.map]

end

/-- What is set is what is read, and nothing else is changed. -/
theorem reflects_assign (h : s.assign v.name value v = .ok s') :
    s.Reflects [(v.name, value)] s' := by
  cases v with
  | stage =>
    obtain ⟨read, hread, rfl⟩ := exists_of_map_eq_ok h
    refine .single hread (fun u hu => ?_) rfl
    cases u <;> first | exact absurd rfl hu | rfl
  | eagerSingletons =>
    obtain ⟨read, hread, rfl⟩ := exists_of_map_eq_ok h
    refine .single ⟨read, rfl, hread⟩ (fun u hu => ?_) rfl
    cases u <;> first | exact absurd rfl hu | rfl
  | jitBindings =>
    obtain ⟨read, hread, rfl⟩ := exists_of_map_eq_ok h
    refine .single hread (fun u hu => ?_) rfl
    cases u <;> first | exact absurd rfl hu | rfl
  | logLevel =>
    cases h
    refine .single rfl (fun u hu => ?_) rfl
    cases u <;> first | exact absurd rfl hu | rfl

/-- Whether a value can be set depends on the value only. -/
theorem exists_assign_iff : (∃ s', s.assign v.name value v = .ok s') ↔ v.Accepts value := by
  cases v with
  | stage => exact exists_map_eq_ok_iff
  | eagerSingletons => exact exists_map_eq_ok_iff
  | jitBindings => exact exists_map_eq_ok_iff
  | logLevel => exact ⟨fun _ => trivial, fun _ => ⟨_, rfl⟩⟩

/-- Assigning a value fails exactly if the variable rejects it. -/
theorem assign_eq_error_iff {message : String} :
    s.assign v.name value v = .error message ↔ v.Rejects value message := by
  cases v with
  | stage => exact map_eq_error_iff
  | eagerSingletons => exact map_eq_error_iff
  | jitBindings => exact map_eq_error_iff
  | logLevel => exact iff_of_false (fun h => nomatch h) id

/-- A name of no variable overrides nothing. -/
theorem override_of_ofName?_eq_none (h : Variable.ofName? name = none) (value : String) :
    ∃ notices, ∀ s : BootstrapSettings, s.override name value = .ok (s, notices) := by
  rw [Variable.ofName?] at h
  cases hrest : Variable.rest? name with
  | none => exact ⟨[], fun s => by rw [override, hrest]⟩
  | some rest =>
    rw [hrest, Option.bind_some] at h
    exact ⟨[.unknownVariable name], fun s => by simp only [override, hrest, h]⟩

/-- Overriding by the name of a variable assigns the value. -/
theorem override_name (s : BootstrapSettings) (v : Variable) (value : String) :
    s.override v.name value = match s.assign v.name value v with
      | .error message => .error (.configLoad message)
      | .ok s' => .ok (s', [.variableApplied v.name value]) := by
  have hrest : Variable.rest? v.name = some v.suffix := Variable.rest?_eq_some_iff.mpr rfl
  have hv : Variable.ofRest? v.suffix = some v := Variable.ofRest?_eq_some_iff.mpr rfl
  cases hassign : s.assign v.name value v <;> simp only [override, hrest, hv, hassign]

/-- The name of a pair is that of a variable or not. -/
theorem name_cases (name : String) :
    (∃ v : Variable, name = v.name) ∨ Variable.ofName? name = none := by
  cases h : Variable.ofName? name with
  | none => exact .inr rfl
  | some v => exact .inl ⟨v, Variable.ofName?_eq_some_iff.mp h⟩

/-- What is overridden is reflected. -/
theorem reflects_override {notices : List Notice}
    (h : s.override name value = .ok (s', notices)) : s.Reflects [(name, value)] s' := by
  rcases name_cases name with ⟨v, rfl⟩ | hnone
  · rw [override_name] at h
    split at h
    · cases h
    · next hassign =>
      cases h
      exact reflects_assign hassign
  · obtain ⟨notices', hsame⟩ := override_of_ofName?_eq_none hnone value
    rw [hsame] at h
    cases h
    refine .unnamed (fun v hv => ?_) s
    rw [Variable.ofName?_eq_some_iff.mpr hv] at hnone
    cases hnone

/-- Whether a pair can be applied, and what is noted or wrong about it, depends on the pair only. -/
theorem map_snd_override (s s' : BootstrapSettings) (name value : String) :
    (s.override name value).map Prod.snd = (s'.override name value).map Prod.snd := by
  rcases name_cases name with ⟨v, rfl⟩ | hnone
  · rw [override_name, override_name]
    cases hs : s.assign v.name value v with
    | error message =>
      rw [assign_eq_error_iff.mpr (assign_eq_error_iff.mp hs)]
    | ok t =>
      obtain ⟨t', hs'⟩ := exists_assign_iff.mpr (exists_assign_iff.mp ⟨t, hs⟩)
      rw [hs']
      rfl
  · obtain ⟨notices, hsame⟩ := override_of_ofName?_eq_none hnone value
    rw [hsame, hsame]
    rfl

/-- Overriding fails exactly if the variable of that name rejects the value. -/
theorem override_eq_error_iff {e : InfrastructureError} :
    s.override name value = .error e ↔ ∃ v : Variable, name = v.name ∧ ∃ message,
      v.Rejects value message ∧ e = .configLoad message := by
  constructor
  · intro h
    rcases name_cases name with ⟨v, rfl⟩ | hnone
    · rw [override_name] at h
      split at h
      · next message hassign =>
        cases h
        exact ⟨v, rfl, message, assign_eq_error_iff.mp hassign, rfl⟩
      · cases h
    · obtain ⟨notices, hsame⟩ := override_of_ofName?_eq_none hnone value
      rw [hsame] at h
      cases h
  · rintro ⟨v, rfl, message, hrejects, rfl⟩
    rw [override_name, assign_eq_error_iff.mpr hrejects]

/-- Overriding succeeds exactly if the value is readable. -/
theorem exists_override_iff :
    (∃ s' notices, s.override name value = .ok (s', notices)) ↔ Readable (name, value) := by
  constructor
  · rintro ⟨s', notices, h⟩ v hv
    subst hv
    rw [override_name] at h
    split at h
    · cases h
    · next t hassign => exact exists_assign_iff.mp ⟨t, hassign⟩
  · intro h
    rcases name_cases name with ⟨v, rfl⟩ | hnone
    · obtain ⟨s', hassign⟩ := exists_assign_iff.mpr (h v rfl)
      exact ⟨s', _, by rw [override_name, hassign]⟩
    · obtain ⟨notices, hsame⟩ := override_of_ofName?_eq_none hnone value
      exact ⟨s, notices, hsame s⟩

/-! ### Several pairs -/

variable {vs us : List (String × String)}

/-- The first failure ends it. -/
theorem overrideAll_cons_error {e : InfrastructureError} (h : s.override name value = .error e)
    (vs : List (String × String)) : s.overrideAll ((name, value) :: vs) = ⟨s, [], some e⟩ := by
  rw [overrideAll, h]

/-- A success goes on with the others. -/
theorem overrideAll_cons_ok {notices : List Notice}
    (h : s.override name value = .ok (s', notices)) (vs : List (String × String)) :
    s.overrideAll ((name, value) :: vs) =
      { s'.overrideAll vs with notices := notices ++ (s'.overrideAll vs).notices } := by
  rw [overrideAll, h]

/-- Pairs can be applied exactly if each can be read. -/
theorem error_overrideAll_eq_none_iff :
    (s.overrideAll vs).error = none ↔ ∀ p ∈ vs, Readable p := by
  induction vs generalizing s with
  | nil => simp
  | cons p vs ih =>
    obtain ⟨name, value⟩ := p
    rw [List.forall_mem_cons, ← exists_override_iff (s := s)]
    cases h : s.override name value with
    | error e => simp [overrideAll_cons_error h]
    | ok r =>
      obtain ⟨s', notices⟩ := r
      rw [overrideAll_cons_ok h, ih]
      exact ⟨fun hvs => ⟨⟨s', notices, rfl⟩, hvs⟩, And.right⟩

/-- Pairs that can be applied are reflected. -/
theorem reflects_overrideAll (h : (s.overrideAll vs).error = none) :
    s.Reflects vs (s.overrideAll vs).settings := by
  induction vs generalizing s with
  | nil => exact .nil s
  | cons p vs ih =>
    obtain ⟨name, value⟩ := p
    cases hp : s.override name value with
    | error e => simp [overrideAll_cons_error hp] at h
    | ok r =>
      obtain ⟨s', notices⟩ := r
      rw [overrideAll_cons_ok hp] at h ⊢
      exact (reflects_override hp).append (ih h)

/-- Applying pairs stops at the first that cannot be read, with the settings that those before it
come to. -/
theorem exists_rejected {e : InfrastructureError} (h : (s.overrideAll vs).error = some e) :
    ∃ pre name value post, vs = pre ++ (name, value) :: post ∧
      (s.overrideAll pre).error = none ∧
      (s.overrideAll vs).settings = (s.overrideAll pre).settings ∧
      ∃ v : Variable, name = v.name ∧ ∃ message, v.Rejects value message ∧
        e = .configLoad message := by
  induction vs generalizing s with
  | nil => cases h
  | cons p vs ih =>
    obtain ⟨name, value⟩ := p
    cases hp : s.override name value with
    | error e' =>
      rw [overrideAll_cons_error hp] at h ⊢
      cases h
      exact ⟨[], name, value, vs, rfl, rfl, rfl, override_eq_error_iff.mp hp⟩
    | ok r =>
      obtain ⟨s', notices⟩ := r
      rw [overrideAll_cons_ok hp] at h ⊢
      obtain ⟨pre, name', value', post, rfl, hpre, hsettings, hrejected⟩ := ih h
      refine ⟨(name, value) :: pre, name', value', post, rfl, ?_, ?_, hrejected⟩
      · rw [overrideAll_cons_ok hp, hpre]
      · rw [overrideAll_cons_ok hp, hsettings]

/-- What is noted and what is wrong depends on the pairs only. -/
theorem overrideAll_congr (s s' : BootstrapSettings) (vs : List (String × String)) :
    (s.overrideAll vs).notices = (s'.overrideAll vs).notices ∧
      (s.overrideAll vs).error = (s'.overrideAll vs).error := by
  induction vs generalizing s s' with
  | nil => exact ⟨rfl, rfl⟩
  | cons p vs ih =>
    obtain ⟨name, value⟩ := p
    have hsame := map_snd_override s s' name value
    cases hs : s.override name value with
    | error e =>
      have hs' : s'.override name value = .error e := by
        rw [hs] at hsame
        exact map_eq_error_iff.mp hsame.symm
      rw [overrideAll_cons_error hs, overrideAll_cons_error hs']
      exact ⟨rfl, rfl⟩
    | ok r =>
      obtain ⟨t, notices⟩ := r
      rw [hs] at hsame
      obtain ⟨⟨t', notices'⟩, hs', rfl⟩ := exists_of_map_eq_ok hsame.symm
      rw [overrideAll_cons_ok hs, overrideAll_cons_ok hs']
      obtain ⟨hnotices, herror⟩ := ih t t'
      exact ⟨congrArg (notices' ++ ·) hnotices, herror⟩

/-- Nothing is applied after a pair that cannot be read. -/
theorem overrideAll_stops {pre : List (String × String)} {message : String}
    (hpre : (s.overrideAll pre).error = none) (hrejects : v.Rejects value message)
    (post : List (String × String)) :
    (s.overrideAll (pre ++ (v.name, value) :: post)).settings = (s.overrideAll pre).settings := by
  rw [overrideAll_append]
  rcases h : s.overrideAll pre with ⟨s', notices, error⟩
  rw [h] at hpre
  obtain rfl : error = none := hpre
  have hrejected : s'.override v.name value = .error (.configLoad message) :=
    override_eq_error_iff.mpr ⟨v, rfl, message, hrejects, rfl⟩
  simp only [overrideAll_cons_error hrejected]

/-- Applying pairs once more comes to the same. -/
theorem overrideAll_again (s : BootstrapSettings) (vs : List (String × String)) :
    (s.overrideAll vs).settings.overrideAll vs = s.overrideAll vs := by
  have happlied : ∀ vs, (s.overrideAll vs).error = none →
      ((s.overrideAll vs).settings.overrideAll vs).settings = (s.overrideAll vs).settings := by
    intro vs h
    have hagain := (overrideAll_congr (s.overrideAll vs).settings s vs).2.trans h
    exact (reflects_overrideAll hagain).unique (reflects_overrideAll h).again fun _ => rfl
  have hsettings :
      ((s.overrideAll vs).settings.overrideAll vs).settings = (s.overrideAll vs).settings := by
    cases h : (s.overrideAll vs).error with
    | none => exact happlied vs h
    | some e =>
      -- Both times, applying stops after the same pairs, and those can be applied.
      obtain ⟨pre, _, value, post, rfl, hpre, hstopped, v, rfl, message, hrejects, -⟩ :=
        exists_rejected h
      have hagain := (overrideAll_congr (s.overrideAll pre).settings s pre).2.trans hpre
      rw [hstopped, overrideAll_stops hagain hrejects, happlied pre hpre]
  obtain ⟨hnotices, herror⟩ := overrideAll_congr (s.overrideAll vs).settings s vs
  rcases h : (s.overrideAll vs).settings.overrideAll vs with ⟨t, notices, error⟩
  rw [h] at hsettings hnotices herror
  simp only at hsettings hnotices herror
  rw [hsettings, hnotices, herror]

/-- A pair that is named for no variable is as good as no pair. -/
theorem overrideAll_unnamed {p : String × String} (hname : ∀ v : Variable, p.1 ≠ v.name)
    (s : BootstrapSettings) (pre post : List (String × String)) :
    (s.overrideAll (pre ++ p :: post)).settings = (s.overrideAll (pre ++ post)).settings ∧
      (s.overrideAll (pre ++ p :: post)).error = (s.overrideAll (pre ++ post)).error := by
  obtain ⟨name, value⟩ := p
  have hnone : Variable.ofName? name = none := by
    rcases name_cases name with ⟨v, rfl⟩ | hnone
    · exact absurd rfl (hname v)
    · exact hnone
  obtain ⟨notices, hsame⟩ := override_of_ofName?_eq_none hnone value
  rw [overrideAll_append, overrideAll_append]
  rcases s.overrideAll pre with ⟨s', notices', _ | e⟩
  · simp only [overrideAll_cons_ok (hsame s'), and_self]
  · exact ⟨rfl, rfl⟩

/-- Pairs can be applied in each order or in none. -/
theorem error_overrideAll_perm (hperm : vs.Perm us) :
    (s.overrideAll us).error = none ↔ (s.overrideAll vs).error = none := by
  rw [error_overrideAll_eq_none_iff, error_overrideAll_eq_none_iff]
  exact forall_congr' fun p => by rw [hperm.mem_iff]

/-- The settings that pairs with different names come to do not depend on their order. -/
theorem settings_overrideAll_perm (hperm : vs.Perm us) (hnames : (vs.map Prod.fst).Nodup)
    (h : (s.overrideAll vs).error = none) :
    (s.overrideAll us).settings = (s.overrideAll vs).settings :=
  (reflects_overrideAll ((error_overrideAll_perm hperm).mpr h)).unique (reflects_overrideAll h)
    fun v => (lastValue?_perm hperm hnames v.name).symm

/-- **Variables without an order.** Variables can be applied exactly if each pair that is named for
a stage or a truth value can be read. Then each of the four settings is the value of the last pair
for it, or as before, and nothing else is changed. Otherwise there is a first pair that cannot be
read, the error says what is wrong with it, and the settings are those that the pairs before it
come to. A pair whose name does not begin as it should, or goes on in an unknown way, is as good
as none. Applying the same pairs once more changes nothing. Pairs with different names can be
applied in each order or in none, also in the order in which those of an environment are applied,
and come to the same settings. -/
theorem overrides_without_order (s : BootstrapSettings) (vs : List (String × String)) :
    ((s.overrideAll vs).error = none ↔ ∀ p ∈ vs, Readable p) ∧
    ((s.overrideAll vs).error = none → s.Reflects vs (s.overrideAll vs).settings) ∧
    (∀ e, (s.overrideAll vs).error = some e → ∃ pre p post, vs = pre ++ p :: post ∧
      (∀ q ∈ pre, Readable q) ∧
      (∃ v : Variable, p.1 = v.name ∧ ∃ message, v.Rejects p.2 message ∧
        e = .configLoad message) ∧
      (s.overrideAll vs).settings = (s.overrideAll pre).settings ∧
      s.Reflects pre (s.overrideAll vs).settings) ∧
    (∀ pre p post, vs = pre ++ p :: post →
      (¬ Variable.nameStart.toList <+: p.1.toList ∨
        ∃ rest, p.1 = Variable.nameStart ++ rest ∧ ∀ v : Variable, rest ≠ v.suffix) →
      (s.overrideAll vs).settings = (s.overrideAll (pre ++ post)).settings ∧
      (s.overrideAll vs).error = (s.overrideAll (pre ++ post)).error) ∧
    (s.overrideAll vs).settings.overrideAll vs = s.overrideAll vs ∧
    ∀ us, vs.Perm us → (vs.map Prod.fst).Nodup →
      ((s.overrideAll us).error = none ↔ (s.overrideAll vs).error = none) ∧
      ((s.overrideByEnvironment us).error = none ↔ (s.overrideAll vs).error = none) ∧
      ((s.overrideAll vs).error = none →
        (s.overrideAll us).settings = (s.overrideAll vs).settings ∧
        (s.overrideByEnvironment us).settings = (s.overrideAll vs).settings) := by
  refine ⟨error_overrideAll_eq_none_iff, reflects_overrideAll, fun e he => ?_,
    fun pre p post hvs hname => ?_, s.overrideAll_again vs, fun us hperm hnames => ?_⟩
  · obtain ⟨pre, name, value, post, hvs, hpre, hsettings, hrejected⟩ := exists_rejected he
    exact ⟨pre, (name, value), post, hvs, error_overrideAll_eq_none_iff.mp hpre, hrejected,
      hsettings, hsettings ▸ reflects_overrideAll hpre⟩
  · subst hvs
    refine overrideAll_unnamed (fun v hv => ?_) s pre post
    rcases hname with hstart | ⟨rest, hrest, hunknown⟩
    · exact hstart ⟨v.suffix.toList, by rw [hv, Variable.name, String.toList_append]⟩
    · have hsame : Variable.rest? p.1 = some v.suffix := Variable.rest?_eq_some_iff.mpr hv
      rw [Variable.rest?_eq_some_iff.mpr hrest] at hsame
      exact hunknown v (Option.some.inj hsame)
  · have hsorted : vs.Perm (us.mergeSort fun a b => !(b.1 < a.1)) :=
      hperm.trans (List.mergeSort_perm us _).symm
    exact ⟨error_overrideAll_perm hperm, error_overrideAll_perm hsorted, fun h =>
      ⟨settings_overrideAll_perm hperm hnames h, settings_overrideAll_perm hsorted hnames h⟩⟩

/-- What the environment of a theatre says. -/
def theatreVariables : List (String × String) :=
  [("LORN_INJECT_STAGE", "prod"), ("PATH", "/bin"), ("LORN_INJECT_JIT_BINDINGS", " Off "),
    ("LORN_INJECT_CURTAIN", "up")]

/-- What it says when nobody knows whether there is a play. -/
def doubtfulVariables : List (String × String) :=
  [("LORN_INJECT_STAGE", "prod"), ("LORN_INJECT_EAGER_SINGLETONS", "perhaps"),
    ("LORN_INJECT_LOG_LEVEL", "debug")]

/-- The theatre opens in production every night, whatever its environment says first and whatever
the curtain is. When it cannot be read whether to be eager, there is an error, and what stands
before it is set. -/
theorem theatre_opens_every_night :
    (standard.overrideAll theatreVariables.reverse).settings =
      (standard.overrideAll theatreVariables).settings ∧
    (standard.overrideAll theatreVariables).settings.container.stage = .production ∧
    (standard.overrideAll theatreVariables).settings.logging.level = "info" ∧
    (standard.overrideAll theatreVariables).settings =
      (standard.overrideAll (theatreVariables.take 3)).settings ∧
    ∃ pre p post, doubtfulVariables = pre ++ p :: post ∧
      (∃ v : Variable, p.1 = v.name ∧ ∃ message, v.Rejects p.2 message) ∧
      (standard.overrideAll doubtfulVariables).settings = (standard.overrideAll pre).settings := by
  obtain ⟨-, hreflects, -, hunknown, -, hperm⟩ :=
    overrides_without_order standard theatreVariables
  have happlied : (standard.overrideAll theatreVariables).error = none := by decide +kernel
  obtain ⟨-, -, hsame⟩ := hperm theatreVariables.reverse (List.reverse_perm _).symm (by decide)
  have hstage := (hreflects happlied).last .stage "prod" (by decide +kernel)
  have hread : Stage.parse "prod" = .ok .production := by decide +kernel
  obtain ⟨-, -, hstops, -⟩ := overrides_without_order standard doubtfulVariables
  refine ⟨(hsame happlied).1, (Except.ok.inj (hread.symm.trans hstage)).symm,
    (hreflects happlied).rest .logLevel (by decide +kernel),
    (hunknown (theatreVariables.take 3) _ [] rfl (.inr ⟨"CURTAIN", rfl, ?_⟩)).1, ?_⟩
  · intro v
    cases v <;> decide
  · obtain ⟨e, he⟩ := Option.isSome_iff_exists.mp
      (show (standard.overrideAll doubtfulVariables).error.isSome by decide +kernel)
    obtain ⟨pre, p, post, hvs, -, ⟨v, hv, message, hrejects, -⟩, hsettings, -⟩ := hstops e he
    exact ⟨pre, p, post, hvs, ⟨v, hv, message, hrejects⟩, hsettings⟩

end BootstrapSettings

end Wiring
