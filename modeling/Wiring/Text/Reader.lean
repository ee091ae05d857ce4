/-!
# Readers

A reader takes something off the front of a text: it gives what it has read and the rest of the
text, or it refuses. Readers that repeat are given a number of rounds that no text exceeds, as
each round takes at least one character.

## Main statements

* `Reader.many`, `Reader.separated`: repeated reading.
* `Reader.all`: reading a whole text.
* `char_eq_some_iff`: a reader of one character takes exactly that.
-/

namespace Wiring.Text

/-- What takes something off the front of a text. -/
abbrev Reader (α : Type) := List Char → Option (α × List Char)

namespace Reader

variable {α β : Type}

/-- Take the character `c`. -/
def char (c : Char) : Reader Unit
  | [] => none
  | d :: rest => if d = c then some ((), rest) else none

/-- Take the given characters. -/
def literal : List Char → Reader Unit
  | [], cs => some ((), cs)
  | c :: word, cs => (char c cs).bind fun (_, rest) => literal word rest

/-- Take one character of a class. -/
def oneOf (p : Char → Bool) : Reader Char
  | [] => none
  | c :: rest => if p c then some (c, rest) else none

/-- Take characters of a class, as many as there are. -/
def run (p : Char → Bool) (cs : List Char) : List Char × List Char := cs.span p

/-- Take at least one character of a class, as many as there are. -/
def run1 (p : Char → Bool) : Reader (List Char) := fun cs =>
  match cs.span p with
  | ([], _) => none
  | (read, rest) => some (read, rest)

/-- Leave characters of a class out. -/
def skip (p : Char → Bool) (cs : List Char) : List Char := cs.dropWhile p

/-- Take exactly `n` characters of a class. -/
def exactly (p : Char → Bool) : Nat → Reader (List Char)
  | 0, cs => some ([], cs)
  | n + 1, cs => do
    let (c, rest) ← oneOf p cs
    let (more, rest) ← exactly p n rest
    return (c :: more, rest)

/-- Take what `r` takes or, if it refuses, nothing. -/
def optional (r : Reader α) (cs : List Char) : Option α × List Char :=
  match r cs with
  | some (a, rest) => (some a, rest)
  | none => (none, cs)

/-- Take what `r` takes or, if it refuses, what `r'` takes. -/
def orElse (r r' : Reader α) : Reader α := fun cs => (r cs).or (r' cs)

/-- Take with `r` until it refuses, at most `rounds` times. -/
def many (r : Reader α) : Nat → List Char → List α × List Char
  | 0, cs => ([], cs)
  | rounds + 1, cs =>
    match r cs with
    | none => ([], cs)
    | some (a, rest) =>
      let (as, rest) := many r rounds rest
      (a :: as, rest)

/-- Take with `r`, and again after each separator, at most `rounds` times. -/
def separated (r : Reader α) (separator : Reader β) : Nat → Reader (List α)
  | 0, _ => none
  | rounds + 1, cs => do
    let (a, rest) ← r cs
    match separator rest with
    | none => return ([a], rest)
    | some (_, rest) =>
      let (as, rest) ← separated r separator rounds rest
      return (a :: as, rest)

/-- Take a whole text. -/
def all (r : Reader α) (s : String) : Option α :=
  match r s.toList with
  | some (a, []) => some a
  | _ => none

theorem char_eq_some_iff {c : Char} {cs rest : List Char} :
    char c cs = some ((), rest) ↔ cs = c :: rest := by
  cases cs with
  | nil => simp [char]
  | cons d ds =>
    by_cases h : d = c <;> simp [char, h]

theorem length_of_char {c : Char} {cs rest : List Char} (h : char c cs = some ((), rest)) :
    rest.length < cs.length := by
  rw [char_eq_some_iff.1 h]
  simp

end Reader

/-- The value of a hexadecimal digit. -/
def hexValue (c : Char) : Nat :=
  if c.isDigit then c.toNat - '0'.toNat
  else if 'a' ≤ c && c ≤ 'f' then c.toNat - 'a'.toNat + 10
  else c.toNat - 'A'.toNat + 10

/-- Whether a character is a hexadecimal digit. -/
def isHexDigit (c : Char) : Bool :=
  c.isDigit || ('a' ≤ c && c ≤ 'f') || ('A' ≤ c && c ≤ 'F')

/-- The number that digits stand for in a base. -/
def valueOf (base : Nat) (digits : List Char) : Nat :=
  digits.foldl (fun n c => base * n + hexValue c) 0

/-- The character with a given code point, if there is one. -/
def scalar? (n : Nat) : Option Char :=
  if n < 0xD800 || (0xDFFF < n && n < 0x110000) then some (Char.ofNat n) else none

end Wiring.Text
