import Wiring.Text.Reader

/-!
# Scalars of TOML

Strings, numbers, and dates of TOML. Texts are read as values; of a number or date only its
form and range matter. A whole number must fit into 64 bits with sign, a fraction must not
exceed the range of a double, and a date must be one of the calendar.

## Main statements

* `Toml.stringText`: the text of a string in any of its four forms.
* `Toml.numeral`: a number or date.
* `Toml.daysIn`: the length of a month.
-/

namespace Wiring.Toml

open Text Text.Reader

/-- Blanks within a line. -/
def isBlank (c : Char) : Bool := c = ' ' || c = '\t'

/-- The end of a line. -/
def lineEnd : Reader Unit
  | '\n' :: rest => some ((), rest)
  | '\r' :: '\n' :: rest => some ((), rest)
  | _ => none

/-- Characters that may stand in comments. -/
def isPlain (c : Char) : Bool := c = '\t' || (0x20 ≤ c.toNat && c.toNat ≠ 0x7F)

/-- A comment, up to the end of its line. -/
def comment : Reader Unit := fun cs => (char '#' cs).map fun (_, rest) => ((), skip isPlain rest)

/-! ### Strings -/

/-- The character that a backslash and `c` stand for. -/
def escape? : Char → Option Char
  | '"' => some '"'
  | '\\' => some '\\'
  | 'b' => some '\x08'
  | 'f' => some '\x0c'
  | 'n' => some '\n'
  | 'r' => some '\r'
  | 't' => some '\t'
  | _ => none

/-- What follows a backslash: a character by its letter or its code point. -/
def escape : Reader Char
  | 'u' :: rest => do
    let (digits, rest) ← exactly isHexDigit 4 rest
    return (← scalar? (valueOf 16 digits), rest)
  | 'U' :: rest => do
    let (digits, rest) ← exactly isHexDigit 8 rest
    return (← scalar? (valueOf 16 digits), rest)
  | c :: rest => (escape? c).map fun d => (d, rest)
  | [] => none

/-- A character of a string of one line in double quotes. -/
def basicChar : Reader Char
  | '\\' :: rest => escape rest
  | '"' :: _ => none
  | c :: rest => if isPlain c then some (c, rest) else none
  | [] => none

/-- A character of a string of one line in single quotes. -/
def literalChar : Reader Char
  | '\'' :: _ => none
  | c :: rest => if isPlain c then some (c, rest) else none
  | [] => none

/-- A string of one line between quotes. -/
def lineString (quote : Char) (content : Reader Char) : Reader String := fun cs => do
  let (_, rest) ← char quote cs
  let (text, rest) := many content rest.length rest
  let (_, rest) ← char quote rest
  return (String.ofList text, rest)

/-- The end of a line within a string, or what `content` takes. -/
def orLineEnd (content : Reader (List Char)) : Reader (List Char) :=
  orElse (fun cs => (lineEnd cs).map fun (_, rest) => (['\n'], rest)) content

/-- A backslash at the end of a line, with the blanks and line ends after it. -/
def continuation : Reader (List Char) := fun cs => do
  let (_, rest) ← char '\\' cs
  let (_, rest) ← lineEnd (skip isBlank rest)
  let (_, rest) := many (orElse lineEnd fun cs =>
    (oneOf isBlank cs).map fun (_, rest) => ((), rest)) rest.length rest
  return ([], rest)

/-- A piece of a string of several lines in double quotes. -/
def basicPiece : Reader (List Char) :=
  orLineEnd <| orElse continuation fun cs => (basicChar cs).map fun (c, rest) => ([c], rest)

/-- A piece of a string of several lines in single quotes. -/
def literalPiece : Reader (List Char) :=
  orLineEnd fun cs => (literalChar cs).map fun (c, rest) => ([c], rest)

/-- One or two quotes, with content after them. -/
def innerQuotes (quote : Char) (piece : Reader (List Char)) : Reader (List Char) := fun cs =>
  let (quotes, rest) := run (· = quote) cs
  if quotes.length = 1 || quotes.length = 2 then
    (piece rest).map fun (text, rest) => (quotes ++ text, rest)
  else none

/-- A string of several lines: up to two quotes may stand in a row anywhere, also in front of
the closing ones. A line end right after the opening quotes does not count. -/
def blockString (quote : Char) (piece : Reader (List Char)) : Reader String := fun cs => do
  let (_, rest) ← literal [quote, quote, quote] cs
  let (_, rest) := optional lineEnd rest
  let (pieces, rest) := many (orElse piece (innerQuotes quote piece)) rest.length rest
  let (closing, rest) := run (· = quote) rest
  if closing.length < 3 then none
  else
    let extra := min (closing.length - 3) 2
    return (String.ofList (pieces.flatten ++ List.replicate extra quote),
      closing.drop (extra + 3) ++ rest)

/-- A string in any of its forms. -/
def stringText : Reader String := fun cs =>
  match cs with
  | '"' :: '"' :: '"' :: _ => blockString '"' basicPiece cs
  | '\'' :: '\'' :: '\'' :: _ => blockString '\'' literalPiece cs
  | '"' :: _ => lineString '"' basicChar cs
  | '\'' :: _ => lineString '\'' literalChar cs
  | _ => none

/-! ### Numbers -/

/-- Digits of a class; single underscores may stand between them. -/
def digitRun (p : Char → Bool) : Reader (List Char) := fun cs => do
  let (first, rest) ← oneOf p cs
  let (more, rest) := many (orElse (oneOf p) fun cs =>
    (char '_' cs).bind fun (_, rest) => oneOf p rest) rest.length rest
  if rest.head? = some '_' then none else return (first :: more, rest)

/-- A sign, if there is one: whether it is a minus. -/
def sign (cs : List Char) : Bool × List Char :=
  match cs with
  | '-' :: rest => (true, rest)
  | '+' :: rest => (false, rest)
  | _ => (false, cs)

/-- The digits of a decimal number: a single zero, or digits that begin with another one. -/
def wholeDigits : Reader (List Char) := fun cs =>
  match cs with
  | '0' :: rest => some (['0'], rest)
  | _ => digitRun Char.isDigit cs

/-- A decimal number with sign that fits into 64 bits. -/
def decimalInteger : Reader Unit := fun cs => do
  let (negative, rest) := sign cs
  let (digits, rest) ← wholeDigits rest
  let n := valueOf 10 digits
  if n < Nat.pow 2 63 || (negative && n = Nat.pow 2 63) then return ((), rest) else none

/-- A number in base 16, 8 or 2 that fits into 64 bits with sign. -/
def basedInteger : Reader Unit
  | '0' :: 'x' :: rest => based 16 isHexDigit rest
  | '0' :: 'o' :: rest => based 8 (fun c => '0' ≤ c && c ≤ '7') rest
  | '0' :: 'b' :: rest => based 2 (fun c => c = '0' || c = '1') rest
  | _ => none
where
  /-- The digits behind the mark of a base. -/
  based (base : Nat) (p : Char → Bool) : Reader Unit := fun cs => do
    let (digits, rest) ← digitRun p cs
    if valueOf base digits < Nat.pow 2 63 then return ((), rest) else none

/-- Whether `m` times ten to the power of `e` rounds to more than a double holds. The decision
for far exponents needs no powers. -/
def overflows (m : Nat) (e : Int) : Bool :=
  let limit := Nat.pow 2 1024 - Nat.pow 2 970
  let digits := (Nat.toDigits 10 m).length
  if m = 0 then false
  else if (310 : Int) < e + digits then true
  else if e + digits < 300 then false
  else if 0 ≤ e then limit ≤ m * Nat.pow 10 e.toNat
  else limit * Nat.pow 10 (-e).toNat ≤ m

/-- The exponent of a fraction. -/
def exponent : Reader Int := fun cs => do
  let (_, rest) ← oneOf (fun c => c = 'e' || c = 'E') cs
  let (negative, rest) := sign rest
  let (digits, rest) ← digitRun Char.isDigit rest
  let n : Int := valueOf 10 digits
  return (if negative then -n else n, rest)

/-- The digits behind a decimal point. -/
def fraction : Reader (List Char) := fun cs => do
  let (_, rest) ← char '.' cs
  digitRun Char.isDigit rest

/-- A number with a decimal point, an exponent, or both. -/
def float : Reader Unit := fun cs => do
  let (negative, rest) := sign cs
  let (digits, rest) ← wholeDigits rest
  let (frac, rest) ← match rest with
    | '.' :: _ => fraction rest
    | 'e' :: _ | 'E' :: _ => some ([], rest)
    | _ => none
  let (exp, rest) ← match rest with
    | 'e' :: _ | 'E' :: _ => exponent rest
    | _ => some (0, rest)
  if !negative && overflows (valueOf 10 (digits ++ frac)) (exp - frac.length) then none
  else return ((), rest)

/-- Infinity or no number. -/
def specialFloat : Reader Unit := fun cs =>
  let (_, rest) := sign cs
  orElse (literal "inf".toList) (literal "nan".toList) rest

/-! ### Dates and times -/

/-- Whether a year has a 29th of February. -/
def isLeap (year : Nat) : Bool := year % 4 = 0 && (year % 100 ≠ 0 || year % 400 = 0)

/-- The number of days in a month of a year. -/
def daysIn (year month : Nat) : Nat :=
  if month = 2 then if isLeap year then 29 else 28
  else if month ∈ [4, 6, 9, 11] then 30
  else 31

/-- A number of exactly `n` digits, from `low` to `high`. -/
def fixed (n low high : Nat) : Reader Nat := fun cs => do
  let (digits, rest) ← exactly Char.isDigit n cs
  let v := valueOf 10 digits
  if low ≤ v && v ≤ high then return (v, rest) else none

/-- A date. -/
def date : Reader Unit := fun cs => do
  let (year, rest) ← fixed 4 0 9999 cs
  let (_, rest) ← char '-' rest
  let (month, rest) ← fixed 2 1 12 rest
  let (_, rest) ← char '-' rest
  let (_, rest) ← fixed 2 1 (daysIn year month) rest
  return ((), rest)

/-- A time of day. A minute may have a leap second. -/
def time : Reader Unit := fun cs => do
  let (_, rest) ← fixed 2 0 23 cs
  let (_, rest) ← char ':' rest
  let (_, rest) ← fixed 2 0 59 rest
  let (_, rest) ← char ':' rest
  let (_, rest) ← fixed 2 0 60 rest
  match rest with
  | '.' :: rest => do
    let (_, rest) ← run1 Char.isDigit rest
    return ((), rest)
  | _ => return ((), rest)

/-- A distance from the time zone of the zero meridian. -/
def offset : Reader Unit
  | 'Z' :: rest => some ((), rest)
  | 'z' :: rest => some ((), rest)
  | c :: rest =>
    if c = '+' || c = '-' then do
      let (_, rest) ← fixed 2 0 23 rest
      let (_, rest) ← char ':' rest
      let (_, rest) ← fixed 2 0 59 rest
      return ((), rest)
    else none
  | [] => none

/-- A date, possibly with a time of day, which may have an offset; or a time of day alone. -/
def dateTime : Reader Unit :=
  orElse
    (fun cs => do
      let (_, rest) ← date cs
      let (_, rest) := optional (fun cs => do
        let (_, rest) ← oneOf (fun c => c = 'T' || c = 't' || c = ' ') cs
        let (_, rest) ← time rest
        return ((), (optional offset rest).2)) rest
      return ((), rest))
    time

/-- What a numeral stands for. -/
inductive Numeral where
  /-- A number. -/
  | number
  /-- A date or time. -/
  | date
  deriving DecidableEq

/-- Whether a number or date is written so far that nothing may follow directly. -/
def endsToken : List Char → Bool
  | [] => true
  | c :: _ => isBlank c || c = '\n' || c = '\r' || c = '#' || c = ',' || c = ']' || c = '\x7d'

/-- Take what `r` takes, if it takes a whole token. -/
def token {α : Type} (r : Reader α) : Reader α := fun cs =>
  (r cs).bind fun (a, rest) => if endsToken rest then some (a, rest) else none

/-- A number or date. -/
def numeral : Reader Numeral := fun cs =>
  let number := [specialFloat, float, basedInteger, decimalInteger].foldr
    (fun r r' => orElse (token r) r') fun _ => none
  orElse
    (fun cs => (token dateTime cs).map fun (_, rest) => (.date, rest))
    (fun cs => (number cs).map fun (_, rest) => (.number, rest)) cs

end Wiring.Toml
