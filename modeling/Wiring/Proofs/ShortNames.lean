import Mathlib.Data.List.TakeWhile
import Wiring.Key

/-!
# What Short Names Say

The full name of a type is the path of a class, or the mark of an interface type and the path of an
interface, with generic arguments or without. An interface may be joined by others that its
implementations offer as well: `dyn app::Gate + core::marker::Send`. Such a name is a list of
*bounds*, the first of which is the *principal* one, which says what the type is about.

A short name is to drop the module path of the principal bound. What is dropped, though, is all in
front of the last `::` that comes before any generic arguments, and this may stand in a later bound.
Then the principal bound is *hidden*: the short name begins with a later one. This happens exactly
if there is a module path behind the principal bound and no generic arguments in front of it.

## Conventions

Generic arguments are any text between angle brackets. Short names are those of `TypeName.short`,
while `FullName.shortText` is what a short name is to be.

## Main statements

* `FullName.text`: full names as they are written.
* `FullName.IsHidden`: the principal bound does not come to be seen.
* `lastSegment_head_bounds`: what is left of a list of bounds.
* `shortChars_shortChars`, `exists_pos_arguments`: for any text, shortening again changes nothing,
  and the arguments begin at a place between two characters.
* `short_unless_hidden`: the short names of types.
-/

namespace Wiring.TypeName

/-! ### Segments of paths -/

/-- A text without colons in front is passed over. -/
theorem afterColons_append_of_notMem {p : List Char} (h : ':' ∉ p) (s : List Char) :
    afterColons (p ++ s) = afterColons s := by
  induction p with
  | nil => rfl
  | cons c p ih =>
    rw [List.mem_cons, not_or] at h
    rw [List.cons_append, afterColons, ih h.2, if_neg fun hc => h.1 hc.1.symm, Option.or_none]

/-- Whatever stands in front of a pair of colons is passed over. -/
theorem afterColons_append_of_some {s t : List Char} (h : afterColons s = some t) (p : List Char) :
    afterColons (p ++ s) = some t := by
  induction p with
  | nil => exact h
  | cons c p ih => rw [List.cons_append, afterColons, ih, Option.some_or]

/-- A text without colons is its own last segment. -/
theorem lastSegment_eq_self {s : List Char} (h : afterColons s = none) : lastSegment s = s := by
  rw [lastSegment, h, Option.getD_none]

/-- Whatever stands in front of a text with colons is left out of the last segment. -/
theorem lastSegment_append_of_isSome {s : List Char} (h : (afterColons s).isSome) (p : List Char) :
    lastSegment (p ++ s) = lastSegment s := by
  obtain ⟨t, ht⟩ := Option.isSome_iff_exists.mp h
  rw [lastSegment, lastSegment, afterColons_append_of_some ht, ht, Option.getD_some,
    Option.getD_some]

/-- What follows the last `::` is an end of the text, without a `::` of its own. -/
theorem afterColons_eq_some {cs s : List Char} (h : afterColons cs = some s) :
    s <:+ cs ∧ afterColons s = none := by
  induction cs with
  | nil => cases h
  | cons c rest ih =>
    rw [afterColons] at h
    cases hrest : afterColons rest with
    | some t =>
      rw [hrest, Option.some_or] at h
      obtain ⟨hsuffix, hnone⟩ := ih (hrest.trans h)
      exact ⟨hsuffix.trans (List.suffix_cons c rest), hnone⟩
    | none =>
      rw [hrest, Option.none_or, Option.ite_none_right_eq_some] at h
      obtain ⟨⟨-, hcolon⟩, heq⟩ := h
      cases heq
      obtain ⟨t, rfl⟩ := List.head?_eq_some_iff.mp hcolon
      refine ⟨(List.suffix_cons ':' t).trans (List.suffix_cons c _), ?_⟩
      rw [afterColons, Option.or_eq_none_iff] at hrest
      exact hrest.1

/-- The last segment is the end of the text. -/
theorem lastSegment_suffix (cs : List Char) : lastSegment cs <:+ cs := by
  cases h : afterColons cs with
  | none => exact ⟨[], lastSegment_eq_self h⟩
  | some s =>
    rw [lastSegment, h]
    exact (afterColons_eq_some h).1

/-- There are no colons left in the last segment. -/
theorem afterColons_lastSegment (cs : List Char) : afterColons (lastSegment cs) = none := by
  cases h : afterColons cs with
  | none => rw [lastSegment_eq_self h, h]
  | some s =>
    rw [lastSegment, h]
    exact (afterColons_eq_some h).2

/-! ### Heads and arguments -/

/-- The head goes on if there is no bracket yet. -/
theorem head_append_of_notMem {p : List Char} (h : '<' ∉ p) (s : List Char) :
    head (p ++ s) = p ++ head s :=
  List.takeWhile_append_of_pos fun c hc => by simpa using fun heq : c = '<' => h (heq ▸ hc)

/-- The arguments begin at the first bracket. -/
theorem arguments_append_of_notMem {p : List Char} (h : '<' ∉ p) (s : List Char) :
    arguments (p ++ s) = arguments s :=
  List.dropWhile_append_of_pos fun c hc => by simpa using fun heq : c = '<' => h (heq ▸ hc)

/-- There is no bracket in the head. -/
theorem notMem_head (cs : List Char) : '<' ∉ head cs := fun h => by
  simpa using List.mem_takeWhile_imp h

/-- In front of arguments there is nothing more. -/
theorem head_arguments (cs : List Char) : head (arguments cs) = [] := by
  unfold head arguments
  rw [List.takeWhile_eq_nil_iff]
  intro h
  simpa using List.dropWhile_get_zero_not (· ≠ '<') cs h

/-! ### Shortening any text -/

/-- A short name is made of the mark, the last segment of the head, and the arguments. -/
theorem shortChars_split (name : List Char) :
    shortChars name =
      (splitMark name).1 ++ lastSegment (head (splitMark name).2) ++ arguments (splitMark name).2 :=
  rfl

/-- The mark is split off and nothing is lost. -/
theorem splitMark_append (name : List Char) : (splitMark name).1 ++ (splitMark name).2 = name := by
  unfold splitMark
  split
  · next h => exact List.prefix_iff_eq_append.mp (List.isPrefixOf_iff_prefix.mp h)
  · rfl

/-- The mark is that of interfaces, if there is one. -/
theorem fst_splitMark (name : List Char) :
    (splitMark name).1 = interfaceMark ∨ (splitMark name).1 = [] := by
  unfold splitMark
  split
  · exact .inl rfl
  · exact .inr rfl

/-- Characters that are not those of the mark are not in the mark. -/
theorem notMem_fst_splitMark (name : List Char) {c : Char} (h : c ∉ interfaceMark) :
    c ∉ (splitMark name).1 := by
  rcases fst_splitMark name with hmark | hmark
  · rwa [hmark]
  · rw [hmark]
    exact List.not_mem_nil

/-- A text without a module path is short already. -/
theorem shortChars_eq_self {name : List Char} (h : afterColons (head name) = none) :
    shortChars name = name := by
  have hhead : head name = (splitMark name).1 ++ head (splitMark name).2 :=
    (congrArg head (splitMark_append name).symm).trans
      (head_append_of_notMem (notMem_fst_splitMark name (by decide)) _)
  rw [hhead, afterColons_append_of_notMem (notMem_fst_splitMark name (by decide))] at h
  rw [shortChars_split, lastSegment_eq_self h, List.append_assoc, head_append_arguments,
    splitMark_append]

/-- A short name has no module path. -/
theorem afterColons_head_shortChars (name : List Char) :
    afterColons (head (shortChars name)) = none := by
  have hsegment : '<' ∉ lastSegment (head (splitMark name).2) := fun h =>
    notMem_head _ ((lastSegment_suffix _).subset h)
  rw [shortChars_split, List.append_assoc,
    head_append_of_notMem (notMem_fst_splitMark name (by decide)), head_append_of_notMem hsegment,
    head_arguments, List.append_nil,
    afterColons_append_of_notMem (notMem_fst_splitMark name (by decide)), afterColons_lastSegment]

/-- A short name is as short as it gets. -/
theorem shortChars_shortChars (name : List Char) :
    shortChars (shortChars name) = shortChars name :=
  shortChars_eq_self (afterColons_head_shortChars name)

/-- The number of bytes in front of the arguments is a place in the text where a character begins,
or the end of the text, and the arguments are what follows there. -/
theorem exists_pos_arguments (cs : List Char) :
    ∃ p : (String.ofList cs).Pos, p.offset.byteIdx = (String.ofList (head cs)).utf8ByteSize ∧
      ((String.ofList cs).sliceFrom p).copy = String.ofList (arguments cs) := by
  have happend : String.ofList cs = String.ofList (head cs) ++ String.ofList (arguments cs) := by
    rw [← String.ofList_append, head_append_arguments]
  have hvalid : (String.ofList (head cs)).rawEndPos.IsValid (String.ofList cs) :=
    String.Pos.Raw.isValid_iff_exists_append.mpr ⟨_, _, happend, rfl⟩
  have hsplits : String.Pos.Splits (⟨_, hvalid⟩ : (String.ofList cs).Pos)
      (String.ofList (head cs)) (String.ofList (arguments cs)) := ⟨happend, rfl⟩
  exact ⟨_, rfl, hsplits.copy_sliceFrom_eq⟩

/-! ### Full names -/

/-- The characters that separate the parts of a full name. -/
def separators : List Char := [':', '<', '>', '+', ' ']

/-- The name of a module, a class or an interface. -/
structure Identifier where
  /-- Its characters. -/
  chars : List Char
  /-- There are some. -/
  nonempty : chars ≠ []
  /-- None of them separates the parts of a name. -/
  plain : ∀ c ∈ chars, c ∉ separators
  /-- It is not the word that marks interface types. -/
  ordinary : chars ≠ "dyn".toList

/-- A path with its generic arguments. -/
structure Bound where
  /-- The modules that lead to what is named. -/
  modules : List Identifier
  /-- What is named. -/
  name : Identifier
  /-- What stands between angle brackets, if there are any. -/
  generics : Option (List Char)

/-- The full name of a type. -/
structure FullName where
  /-- Whether it is marked as that of an interface type. -/
  isInterface : Bool
  /-- The principal bound. -/
  principal : Bound
  /-- The bounds that follow. -/
  others : List Bound

namespace Bound

/-- The module path. -/
def pathText (b : Bound) : List Char := b.modules.flatMap fun m => m.chars ++ [':', ':']

/-- The generic arguments in their brackets. -/
def genericsText (b : Bound) : List Char :=
  match b.generics with
  | some inner => '<' :: inner ++ ['>']
  | none => []

/-- The last segment with its generic arguments. -/
def ownText (b : Bound) : List Char := b.name.chars ++ b.genericsText

/-- A bound as it is written. -/
def text (b : Bound) : List Char := b.pathText ++ b.ownText

end Bound

/-- Bounds that follow others as they are written. -/
def moreText (bs : List Bound) : List Char := bs.flatMap fun b => " + ".toList ++ b.text

/-- The bounds up to the first that has generic arguments. -/
def inFront : List Bound → List Bound
  | [] => []
  | b :: bs => b :: if b.generics.isSome then [] else inFront bs

/-- There is a module path among bounds, in front of any generic arguments. -/
def HasPath (bs : List Bound) : Prop := ∃ b ∈ inFront bs, b.modules ≠ []

instance (bs : List Bound) : Decidable (HasPath bs) :=
  inferInstanceAs (Decidable (∃ b ∈ inFront bs, b.modules ≠ []))

/-- A bound without generic arguments is followed by bounds with a module path. -/
def Bound.IsHidden (b : Bound) (bs : List Bound) : Prop := b.generics = none ∧ HasPath bs

instance (b : Bound) (bs : List Bound) : Decidable (b.IsHidden bs) :=
  inferInstanceAs (Decidable (b.generics = none ∧ HasPath bs))

/-- What is left of a bound and those that follow. -/
def kept : Bound → List Bound → List Char
  | b, [] => b.ownText
  | b, c :: bs => if b.IsHidden (c :: bs) then kept c bs else b.ownText ++ moreText (c :: bs)

namespace FullName

/-- The mark of an interface type, if there is one. -/
def markText (n : FullName) : List Char := if n.isInterface then interfaceMark else []

/-- A full name as it is written. -/
def text (n : FullName) : String :=
  String.ofList (n.markText ++ (n.principal.text ++ moreText n.others))

/-- The full name without the module path of its principal bound. -/
def shortText (n : FullName) : String :=
  String.ofList (n.markText ++ (n.principal.ownText ++ moreText n.others))

/-- The principal bound is hidden by the others. -/
def IsHidden (n : FullName) : Prop := n.principal.IsHidden n.others

end FullName

/-! ### The parts of full names -/

namespace Identifier

variable (x : Identifier)

/-- Separators are not among the characters of an identifier. -/
theorem notMem {c : Char} (h : c ∈ separators) : c ∉ x.chars := fun hc => x.plain c hc h

/-- An identifier does not begin with a separator. -/
theorem head?_append_ne {c : Char} (h : c ∈ separators) (s : List Char) :
    (x.chars ++ s).head? ≠ some c := by
  obtain ⟨d, rest, hd⟩ := List.exists_cons_of_ne_nil x.nonempty
  rw [hd, List.cons_append, List.head?_cons]
  intro heq
  cases heq
  exact x.notMem h (by rw [hd]; exact List.mem_cons_self)

/-- An identifier ends at the next separator. -/
theorem takeWhile_append {s : List Char} (h : ∀ c ∈ s.head?, c ∈ separators) :
    (x.chars ++ s).takeWhile (· ∉ separators) = x.chars := by
  rw [List.takeWhile_append_of_pos fun c hc => decide_eq_true (x.plain c hc)]
  cases s with
  | nil => exact List.append_nil _
  | cons c rest =>
    rw [List.takeWhile_cons_of_neg (by simpa using h c rfl), List.append_nil]

end Identifier

namespace Bound

variable (b : Bound)

/-- There are no brackets in a path. -/
theorem notMem_pathText : '<' ∉ b.pathText := by
  unfold pathText
  rw [List.mem_flatMap]
  rintro ⟨m, -, hm⟩
  rcases List.mem_append.mp hm with hm | hm
  · exact m.notMem (by decide) hm
  · exact absurd hm (by decide)

/-- A path does not begin with a separator. -/
theorem head?_path_append_ne {c : Char} (h : c ∈ separators) (s : List Char) :
    (b.pathText ++ (b.name.chars ++ s)).head? ≠ some c := by
  unfold pathText
  cases b.modules with
  | nil => exact b.name.head?_append_ne h s
  | cons m ms =>
    rw [List.flatMap_cons, List.append_assoc, List.append_assoc]
    exact m.head?_append_ne h _

/-- A module path is dropped. -/
theorem lastSegment_path_append {s : List Char} :
    lastSegment (b.pathText ++ (b.name.chars ++ s)) = lastSegment (b.name.chars ++ s) := by
  obtain ⟨modules, name, generics⟩ := b
  induction modules with
  | nil => rfl
  | cons m ms ih =>
    have hhead := head?_path_append_ne ⟨ms, name, generics⟩ (c := ':') (by decide) s
    have hstep := lastSegment_append_colons m.chars hhead
    rw [← ih, ← hstep]
    simp [pathText]

/-- A module path is found. -/
theorem isSome_afterColons_path_append (h : b.modules ≠ []) (s : List Char) :
    (afterColons (b.pathText ++ s)).isSome := by
  obtain ⟨m, ms, hm⟩ := List.exists_cons_of_ne_nil h
  have hpath : b.pathText ++ s =
      m.chars ++ ':' :: ':' :: ((ms.flatMap fun m => m.chars ++ [':', ':']) ++ s) := by
    simp [pathText, hm]
  rw [hpath, afterColons_append]
  rfl

end Bound

/-! ### Lists of bounds -/

/-- Further bounds are written after plus signs. -/
theorem moreText_cons (b : Bound) (bs : List Bound) :
    moreText (b :: bs) = " + ".toList ++ (b.text ++ moreText bs) := by
  rw [moreText, List.flatMap_cons, List.append_assoc]
  rfl

/-- A bound with generics is the last one in front. -/
theorem inFront_cons_of_isSome {b : Bound} (h : b.generics.isSome) (bs : List Bound) :
    inFront (b :: bs) = [b] := by
  rw [inFront, if_pos h]

/-- A bound without generics is in front, and so are those in front after it. -/
theorem inFront_cons_of_none {b : Bound} (h : b.generics = none) (bs : List Bound) :
    inFront (b :: bs) = b :: inFront bs := by
  rw [inFront, if_neg (by rw [h]; exact Bool.false_ne_true)]

/-- No bounds have no path. -/
theorem not_hasPath_nil : ¬HasPath [] := by simp [HasPath, inFront]

/-- In front of the arguments of a bound and those that follow, there is its path, its name, and
what is in front of the arguments of what follows. -/
theorem head_bounds (b : Bound) (bs : List Bound) :
    head (b.text ++ moreText bs) =
      b.pathText ++ (b.name.chars ++ head (b.genericsText ++ moreText bs)) := by
  rw [Bound.text, Bound.ownText, List.append_assoc, List.append_assoc,
    head_append_of_notMem b.notMem_pathText, head_append_of_notMem (b.name.notMem (by decide))]

/-- The arguments are those from the generics on. -/
theorem arguments_bounds (b : Bound) (bs : List Bound) :
    arguments (b.text ++ moreText bs) = arguments (b.genericsText ++ moreText bs) := by
  rw [Bound.text, Bound.ownText, List.append_assoc, List.append_assoc,
    arguments_append_of_notMem b.notMem_pathText,
    arguments_append_of_notMem (b.name.notMem (by decide))]

/-- Generic arguments are arguments, with all that follows. -/
theorem head_generics {b : Bound} (h : b.generics.isSome) (s : List Char) :
    head (b.genericsText ++ s) = [] ∧ arguments (b.genericsText ++ s) = b.genericsText ++ s := by
  obtain ⟨inner, hinner⟩ := Option.isSome_iff_exists.mp h
  simp only [Bound.genericsText, hinner, head, arguments]
  exact ⟨rfl, rfl⟩

/-- Bounds without generics have no text for them. -/
theorem genericsText_of_none {b : Bound} (h : b.generics = none) : b.genericsText = [] := by
  rw [Bound.genericsText, h]

/-- A module path is found in front of the arguments of bounds if and only if there is one. -/
theorem isSome_afterColons_head (bs : List Bound) :
    (afterColons (head (moreText bs))).isSome ↔ HasPath bs := by
  induction bs with
  | nil => exact iff_of_false Bool.false_ne_true not_hasPath_nil
  | cons b bs ih =>
    rw [moreText_cons, head_append_of_notMem (by decide), head_bounds,
      afterColons_append_of_notMem (by decide)]
    by_cases hpath : b.modules = []
    · have hnone : b.pathText = [] := by rw [Bound.pathText, hpath, List.flatMap_nil]
      rw [hnone, List.nil_append, afterColons_append_of_notMem (b.name.notMem (by decide))]
      rcases Option.eq_none_or_eq_some b.generics with hg | ⟨inner, hg⟩
      · rw [genericsText_of_none hg, List.nil_append, ih]
        simp [HasPath, inFront_cons_of_none hg, hpath]
      · have hsome : b.generics.isSome := by rw [hg]; rfl
        rw [(head_generics hsome _).1]
        simp [HasPath, inFront_cons_of_isSome hsome, hpath, afterColons]
    · exact iff_of_true (b.isSome_afterColons_path_append hpath _)
        ⟨b, by rw [inFront]; exact List.mem_cons_self, hpath⟩

/-- A bound that is not hidden is seen, with all that follows. -/
theorem lastSegment_head_of_seen {b : Bound} {bs : List Bound} (h : ¬b.IsHidden bs) :
    lastSegment (head (b.text ++ moreText bs)) ++ arguments (b.text ++ moreText bs) =
      b.ownText ++ moreText bs := by
  have hcolon : ':' ∉ b.name.chars := b.name.notMem (by decide)
  rw [head_bounds, arguments_bounds, b.lastSegment_path_append, Bound.ownText, List.append_assoc]
  rcases Option.eq_none_or_eq_some b.generics with hg | ⟨inner, hg⟩
  · have hpath : ¬HasPath bs := fun hpath => h ⟨hg, hpath⟩
    have hnone : afterColons (head (moreText bs)) = none := by
      rwa [← isSome_afterColons_head, Option.not_isSome_iff_eq_none] at hpath
    rw [genericsText_of_none hg, List.nil_append,
      lastSegment_eq_self (by rw [afterColons_append_of_notMem hcolon, hnone]), List.append_assoc,
      head_append_arguments]
  · obtain ⟨hhead, harguments⟩ := head_generics (b := b) (by rw [hg]; rfl) (moreText bs)
    rw [hhead, harguments,
      lastSegment_eq_self (by rw [afterColons_append_of_notMem hcolon, afterColons]),
      List.append_nil]

/-- A hidden bound is passed over. -/
theorem lastSegment_head_of_hidden {b c : Bound} {bs : List Bound} (h : b.IsHidden (c :: bs)) :
    lastSegment (head (b.text ++ moreText (c :: bs))) ++
        arguments (b.text ++ moreText (c :: bs)) =
      lastSegment (head (c.text ++ moreText bs)) ++ arguments (c.text ++ moreText bs) := by
  obtain ⟨hg, hpath⟩ := h
  have hplus : '<' ∉ " + ".toList := by decide
  have hfound : (afterColons (head (c.text ++ moreText bs))).isSome := by
    rwa [← isSome_afterColons_head, moreText_cons, head_append_of_notMem hplus,
      afterColons_append_of_notMem (by decide)] at hpath
  rw [head_bounds, arguments_bounds, b.lastSegment_path_append, genericsText_of_none hg,
    List.nil_append, moreText_cons, head_append_of_notMem hplus, arguments_append_of_notMem hplus,
    ← List.append_assoc, lastSegment_append_of_isSome hfound]

/-- What is left of a bound and those that follow when their text is shortened. -/
theorem lastSegment_head_bounds (b : Bound) (bs : List Bound) :
    lastSegment (head (b.text ++ moreText bs)) ++ arguments (b.text ++ moreText bs) =
      kept b bs := by
  induction bs generalizing b with
  | nil =>
    rw [lastSegment_head_of_seen fun h => not_hasPath_nil h.2]
    exact List.append_nil _
  | cons c bs ih =>
    rw [kept]
    split
    · next h => rw [lastSegment_head_of_hidden h, ih]
    · next h => exact lastSegment_head_of_seen h

/-- What is kept is not longer than what is written. -/
theorem length_kept_le (b : Bound) (bs : List Bound) :
    (kept b bs).length ≤ (b.text ++ moreText bs).length := by
  rw [← lastSegment_head_bounds, List.length_append]
  have hle := (lastSegment_suffix (head (b.text ++ moreText bs))).length_le
  have hall := congrArg List.length (head_append_arguments (b.text ++ moreText bs))
  rw [List.length_append] at hall
  omega

/-- All is kept behind the module path if and only if the bound is not hidden. -/
theorem kept_eq_iff (b : Bound) (bs : List Bound) :
    kept b bs = b.ownText ++ moreText bs ↔ ¬b.IsHidden bs := by
  cases bs with
  | nil => exact iff_of_true (List.append_nil _).symm fun h => not_hasPath_nil h.2
  | cons c bs =>
    rw [kept]
    split
    · next h =>
      -- What is kept is no longer than the text behind the bound and the plus sign.
      refine iff_of_false (fun heq => ?_) (not_not_intro h)
      have hle := length_kept_le c bs
      rw [heq, moreText_cons, List.length_append, List.length_append] at hle
      have hplus : " + ".toList.length = 3 := rfl
      omega
    · next h => exact iff_of_true rfl h

/-! ### Short names of full names -/

/-- Bounds begin with an identifier, behind which there is a separator, if anything. -/
theorem exists_takeWhile (b : Bound) (bs : List Bound) :
    ∃ x : Identifier, (b.text ++ moreText bs).takeWhile (· ∉ separators) = x.chars := by
  rw [Bound.text, Bound.ownText, List.append_assoc, List.append_assoc]
  cases hmodules : b.modules with
  | nil =>
    refine ⟨b.name, ?_⟩
    rw [Bound.pathText, hmodules, List.flatMap_nil, List.nil_append]
    refine b.name.takeWhile_append ?_
    cases hg : b.generics with
    | some inner => simp [Bound.genericsText, hg, separators]
    | none =>
      rw [genericsText_of_none hg, List.nil_append]
      cases bs with
      | nil => simp [moreText]
      | cons c bs => simp [moreText_cons, separators]
  | cons m ms =>
    refine ⟨m, ?_⟩
    rw [Bound.pathText, hmodules, List.flatMap_cons, List.append_assoc, List.append_assoc]
    exact m.takeWhile_append (by simp [separators])

namespace FullName

variable (n : FullName)

/-- The mark is told from the bounds. -/
theorem splitMark_text :
    splitMark (n.markText ++ (n.principal.text ++ moreText n.others)) =
      (n.markText, n.principal.text ++ moreText n.others) := by
  unfold splitMark markText
  cases n.isInterface with
  | true => simp
  | false =>
    rw [if_neg Bool.false_ne_true, List.nil_append, if_neg]
    intro h
    -- Otherwise the bounds would begin with the word of the mark.
    obtain ⟨s, hs⟩ := List.isPrefixOf_iff_prefix.mp h
    obtain ⟨x, hx⟩ := exists_takeWhile n.principal n.others
    refine x.ordinary ?_
    rw [← hx, ← hs]
    rfl

/-- The short name of a name that is written out keeps the mark, and what is kept of the bounds. -/
theorem short_text :
    short n.text = String.ofList (n.markText ++ kept n.principal n.others) := by
  rw [short, text, String.toList_ofList, shortChars_eq n.splitMark_text, List.append_assoc,
    lastSegment_head_bounds]

/-- The short name of a name is the intended one, unless something is hidden. -/
theorem short_text_eq_iff : short n.text = n.shortText ↔ ¬n.IsHidden := by
  rw [short_text, shortText, String.ofList_inj, List.append_cancel_left_eq, kept_eq_iff, IsHidden]

/-- The short name of a type, the texts of its keys, and what reading it takes. The principal bound
is named behind the mark, without its module path and with all that follows, if and only if it is
not hidden; otherwise the short name begins with the bound that hides it. Shortening again changes
nothing, and the generic arguments are cut off where a character begins. -/
theorem short_unless_hidden :
    short n.text = String.ofList (n.markText ++ kept n.principal n.others) ∧
    (short n.text = n.shortText ↔ ¬n.IsHidden) ∧
    short (short n.text) = short n.text ∧
    (∃ p : (String.ofList (splitMark n.text.toList).2).Pos,
      p.offset.byteIdx = (String.ofList (head (splitMark n.text.toList).2)).utf8ByteSize ∧
      ((String.ofList (splitMark n.text.toList).2).sliceFrom p).copy =
        String.ofList (arguments (splitMark n.text.toList).2)) ∧
    ∀ ty : Ty, ty.fullName = n.text →
      ((NamedType.ofTy ty).name = n.shortText ↔ ¬n.IsHidden) ∧
      ((Key.ofTy ty).text = "Key[" ++ n.shortText ++ "]" ↔ ¬n.IsHidden) ∧
      ∀ q : Qualifier, ((Key.ofTy ty).qualifiedBy q).text =
        "Key[" ++ q.text ++ " " ++ n.shortText ++ "]" ↔ ¬n.IsHidden := by
  refine ⟨n.short_text, n.short_text_eq_iff, ?_, exists_pos_arguments _,
    fun ty hty => ⟨?_, ?_, fun q => ?_⟩⟩
  · rw [short, short, String.toList_ofList, shortChars_shortChars]
  · rw [NamedType.name, NamedType.ofTy, hty, n.short_text_eq_iff]
  · have hname : ty.name = short n.text := congrArg short hty
    rw [← n.short_text_eq_iff, ← hname]
    simp [Key.text, Key.ofTy, String.ext_iff]
  · have hname : ty.name = short n.text := congrArg short hty
    rw [← n.short_text_eq_iff, ← hname]
    simp [Key.text, Key.ofTy, Key.qualifiedBy, String.ext_iff]

/-- An interface with generic arguments that can be sent. -/
def sendableGate : FullName where
  isInterface := true
  principal :=
    { modules := [⟨"app".toList, by decide, by simp [separators], by decide⟩]
      name := ⟨"Gate".toList, by decide, by simp [separators], by decide⟩
      generics := some "app::Ticket".toList }
  others :=
    [{ modules := [⟨"core".toList, by decide, by simp [separators], by decide⟩,
        ⟨"marker".toList, by decide, by simp [separators], by decide⟩]
       name := ⟨"Send".toList, by decide, by simp [separators], by decide⟩
       generics := none }]

/-- An interface without generic arguments that can be sent. -/
def sendableService : FullName where
  isInterface := true
  principal :=
    { modules := [⟨"app".toList, by decide, by simp [separators], by decide⟩]
      name := ⟨"Service".toList, by decide, by simp [separators], by decide⟩
      generics := none }
  others := sendableGate.others

/-- The gate is seen, with its arguments and with what it is joined by. -/
theorem sendableGate_is_seen :
    (Ty.interface "app::Gate<app::Ticket> + core::marker::Send").fullName = sendableGate.text ∧
    (Key.ofTy (.interface "app::Gate<app::Ticket> + core::marker::Send")).text =
      "Key[dyn Gate<app::Ticket> + core::marker::Send]" := by
  have hty : (Ty.interface "app::Gate<app::Ticket> + core::marker::Send").fullName =
      sendableGate.text := by decide +kernel
  have hseen : ¬sendableGate.IsHidden := fun h => by cases h.1
  have hkey := (((short_unless_hidden sendableGate).2.2.2.2 _ hty).2.1).mpr hseen
  exact ⟨hty, hkey.trans (by decide +kernel)⟩

/-- The service is hidden: its short name is not that of the service, and its key is written like
that of a clock. -/
theorem sendableService_is_lost :
    sendableService.text = "dyn app::Service + core::marker::Send" ∧
    sendableService.shortText = "dyn Service + core::marker::Send" ∧
    short "dyn app::Service + core::marker::Send" = "dyn Send" ∧
    (Key.ofTy (.interface "app::Service + core::marker::Send")).text =
      (Key.ofTy (.interface "app::Clock + core::marker::Send")).text := by
  decide +kernel

end FullName

end Wiring.TypeName
