/-!
# Short Type Names

A type is known by the path to its declaration, such as `app::mail::Sender<app::mail::Draft>`.
Messages show it under its short name: the module path in front of the name is dropped, while
the arguments in angle brackets and a leading `dyn ` stay as they are.

## Conventions

The text is cut at the first `<`. What stands before it is the head, and the short name keeps
what follows the last `::` of the head.

## Main statements

* `lastSegment_append_colons`: the last segment of `p ++ "::" ++ s` is that of `s`.
* `shortChars_eq`: a short name is the lead, the last segment of the head, and the arguments.
-/

namespace Wiring.TypeName

/-- What follows the last `::`, if there is a `::` at all. -/
def afterColons : List Char → Option (List Char)
  | [] => none
  | c :: rest =>
    (afterColons rest).or (if c = ':' ∧ rest.head? = some ':' then some rest.tail else none)

/-- The last segment of a path: what follows the last `::`, or the whole path. -/
def lastSegment (path : List Char) : List Char := (afterColons path).getD path

/-- The mark of an interface type in front of its path. -/
def interfaceMark : List Char := "dyn ".toList

/-- A name split into its interface mark, if it has one, and the rest. -/
def splitMark (name : List Char) : List Char × List Char :=
  if interfaceMark.isPrefixOf name then
    (interfaceMark, name.drop interfaceMark.length)
  else ([], name)

/-- The part of a name in front of its arguments. -/
def head (name : List Char) : List Char := name.takeWhile (· ≠ '<')

/-- The arguments of a name, from the first `<` on. -/
def arguments (name : List Char) : List Char := name.dropWhile (· ≠ '<')

/-- The short form of a type name, as characters. -/
def shortChars (name : List Char) : List Char :=
  let (mark, rest) := splitMark name
  mark ++ lastSegment (head rest) ++ arguments rest

/-- The short form of a type name: its path is dropped, its arguments are kept. -/
def short (name : String) : String := String.ofList (shortChars name.toList)

theorem head_append_arguments (name : List Char) : head name ++ arguments name = name :=
  List.takeWhile_append_dropWhile

theorem shortChars_eq {mark rest : List Char} {name : List Char}
    (h : splitMark name = (mark, rest)) :
    shortChars name = mark ++ lastSegment (head rest) ++ arguments rest := by
  simp [shortChars, h]

theorem afterColons_append (p s : List Char) :
    afterColons (p ++ ':' :: ':' :: s) = some ((afterColons (':' :: s)).getD s) := by
  induction p with
  | nil =>
    rw [List.nil_append, afterColons]
    cases afterColons (':' :: s) <;> simp
  | cons c p ih => rw [List.cons_append, afterColons, ih, Option.some_or]

theorem afterColons_colon_cons {s : List Char} (h : s.head? ≠ some ':') :
    afterColons (':' :: s) = afterColons s := by
  simp [afterColons, h]

theorem lastSegment_append_colons {s : List Char} (p : List Char) (h : s.head? ≠ some ':') :
    lastSegment (p ++ ':' :: ':' :: s) = lastSegment s := by
  simp [lastSegment, afterColons_append, afterColons_colon_cons h]

end Wiring.TypeName
