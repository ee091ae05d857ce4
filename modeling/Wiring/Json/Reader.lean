import Wiring.Document
import Wiring.Json.Basic
import Wiring.Text.Reader

/-!
# Reading JSON

JSON texts as values. Blanks are spaces, tabs and line ends; nothing else may stand around a
value. A string whose escapes leave a surrogate alone is read, but makes up no text.

## Main statements

* `Json.ofText?`: the value of a whole text.
* `Json.decode`: the text of the parts of a string.
* `Json.toDocument`: a value as the content of a settings file.
-/

namespace Wiring.Json

open Text Text.Reader

/-- The characters that may stand between the tokens of a text. -/
def isSpace (c : Char) : Bool := c = ' ' || c = '\t' || c = '\n' || c = '\r'

/-! ### Strings -/

/-- A part of a string: a character or an escaped code unit. -/
inductive Part where
  /-- A character. -/
  | char (c : Char)
  /-- A code unit of 16 bits. -/
  | unit (n : Nat)
  deriving DecidableEq

/-- The character that a backslash and `c` stand for. -/
def escape? : Char → Option Char
  | '"' => some '"'
  | '\\' => some '\\'
  | '/' => some '/'
  | 'b' => some '\x08'
  | 'f' => some '\x0c'
  | 'n' => some '\n'
  | 'r' => some '\r'
  | 't' => some '\t'
  | _ => none

/-- The parts of a string up to its closing quote. -/
def parts : Reader (List Part)
  | [] => none
  | '"' :: rest => some ([], rest)
  | '\\' :: 'u' :: a :: b :: c :: d :: rest =>
    if [a, b, c, d].all isHexDigit then
      (parts rest).map fun (ps, rest) => (.unit (valueOf 16 [a, b, c, d]) :: ps, rest)
    else none
  | '\\' :: e :: rest =>
    match escape? e with
    | some c => (parts rest).map fun (ps, rest) => (.char c :: ps, rest)
    | none => none
  | c :: rest =>
    if c = '\\' || c.toNat < 0x20 then none
    else (parts rest).map fun (ps, rest) => (.char c :: ps, rest)

/-- Whether a code unit begins a pair. -/
def isHigh (n : Nat) : Bool := 0xD800 ≤ n && n ≤ 0xDBFF

/-- Whether a code unit ends a pair. -/
def isLow (n : Nat) : Bool := 0xDC00 ≤ n && n ≤ 0xDFFF

/-- The text of the parts of a string, if no surrogate stands alone. -/
def decode : List Part → Option (List Char)
  | [] => some []
  | .char c :: rest => (decode rest).map (c :: ·)
  | .unit n :: rest =>
    if isHigh n then
      match rest with
      | .unit m :: rest =>
        if isLow m then
          (decode rest).map (Char.ofNat (0x10000 + 0x400 * (n - 0xD800) + (m - 0xDC00)) :: ·)
        else none
      | _ => none
    else if isLow n then none
    else (decode rest).map (Char.ofNat n :: ·)

/-- A string. -/
def stringBody : Reader (Option String) := fun cs => do
  let (_, rest) ← char '"' cs
  let (ps, rest) ← parts rest
  return ((decode ps).map String.ofList, rest)

/-! ### Numbers -/

/-- The digits after a decimal point, with the point. -/
def fraction : Reader (List Char) := fun cs => do
  let (_, rest) ← char '.' cs
  let (digits, rest) ← run1 Char.isDigit rest
  return ('.' :: digits, rest)

/-- An exponent. -/
def exponent : Reader (List Char) := fun cs => do
  let (e, rest) ← oneOf (fun c => c = 'e' || c = 'E') cs
  let (sign, rest) := optional (oneOf fun c => c = '+' || c = '-') rest
  let (digits, rest) ← run1 Char.isDigit rest
  return (e :: sign.toList ++ digits, rest)

/-- The digits in front of a decimal point: no zero in front of another digit. -/
def whole : Reader (List Char) := fun cs => do
  let (digits, rest) ← run1 Char.isDigit cs
  if digits.head? = some '0' && digits.length ≠ 1 then none else return (digits, rest)

/-- Take what `r` takes, if it begins with a character of a class, and refuse if it should but
does not; take nothing if the text does not begin so. -/
def ifBegins (p : Char → Bool) (r : Reader (List Char)) : Reader (List Char) := fun cs =>
  match cs with
  | c :: _ => if p c then r cs else some ([], cs)
  | [] => some ([], cs)

/-- A number. -/
def numberText : Reader String := fun cs => do
  let (sign, rest) := optional (oneOf (· = '-')) cs
  let (digits, rest) ← whole rest
  let (frac, rest) ← ifBegins (· = '.') fraction rest
  let (exp, rest) ← ifBegins (fun c => c = 'e' || c = 'E') exponent rest
  return (String.ofList (sign.toList ++ digits ++ frac ++ exp), rest)

/-! ### Values -/

/-- Take what `r` takes, with blanks around it. -/
def spaced {α : Type} (r : Reader α) : Reader α := fun cs =>
  (r (skip isSpace cs)).map fun (a, rest) => (a, skip isSpace rest)

/-- Items separated by commas, up to a closing mark. -/
def items {α : Type} (item : Reader α) (close : Char) : Reader (List α) := fun cs =>
  orElse
    (fun cs => (char close (skip isSpace cs)).map fun (_, rest) => ([], rest))
    (fun cs => do
      let (read, rest) ← separated (spaced item) (char ',') cs.length cs
      let (_, rest) ← char close rest
      return (read, rest))
    cs

/-- A member of an object. -/
def member (value : Reader Json) : Reader (Option String × Json) := fun cs => do
  let (name, rest) ← stringBody cs
  let (_, rest) ← char ':' (skip isSpace rest)
  let (v, rest) ← value (skip isSpace rest)
  return ((name, v), rest)

/-- A value in which arrays and objects nest no deeper than `depth`. -/
def value : Nat → Reader Json
  | 0, _ => none
  | depth + 1, cs =>
    match cs with
    | '"' :: _ => (stringBody cs).map fun (s, rest) => (.string s, rest)
    | '[' :: rest => (items (value depth) ']' rest).map fun (vs, rest) => (.array vs, rest)
    | '\x7b' :: rest =>
      (items (member (value depth)) '\x7d' rest).map fun (ms, rest) => (.object ms, rest)
    | 'n' :: _ => (literal "null".toList cs).map fun (_, rest) => (.null, rest)
    | 't' :: _ => (literal "true".toList cs).map fun (_, rest) => (.bool true, rest)
    | 'f' :: _ => (literal "false".toList cs).map fun (_, rest) => (.bool false, rest)
    | _ => (numberText cs).map fun (text, rest) => (.number text, rest)

/-- The value of a whole text. Values nest no deeper than the text is long. -/
def ofText? (s : String) : Option Json := all (spaced (value (s.length + 1))) s

mutual

/-- A value as the content of a settings file. -/
def toDocument : Json → Document
  | null => .null
  | bool b => .flag b
  | number _ => .other
  | string text => .text text
  | array vs => .list (toDocuments vs)
  | object ms => .table (toEntries ms)

/-- The items of an array as the content of a settings file. -/
def toDocuments : List Json → List Document
  | [] => []
  | v :: vs => v.toDocument :: toDocuments vs

/-- The members of an object as the content of a settings file. -/
def toEntries : List (Option String × Json) → List (Option String × Document)
  | [] => []
  | (name, v) :: ms => (name, v.toDocument) :: toEntries ms

end

end Wiring.Json
