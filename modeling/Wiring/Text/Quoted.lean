import Wiring.Text.Hidden

/-!
# Quoted Text

Detailed output writes a text between double quotes. Quotes, backslashes, tabs, line ends and
the null character are written with a backslash, and every other hidden character by its code
point in braces.

## Main statements

* `quoted`: the quoted form of a text.
* `escaped_of_plain`: a character that shows by itself is written as it is.
-/

namespace Wiring.Text

/-- A character by its code point, in lower case hexadecimal digits between braces. -/
def byCodePoint (c : Char) : List Char :=
  ['\\', 'u', '\x7b'] ++ Nat.toDigits 16 c.toNat ++ ['\x7d']

/-- How a character is written between quotes. -/
def escaped (c : Char) : List Char :=
  if c = '"' then ['\\', '"']
  else if c = '\\' then ['\\', '\\']
  else if c = '\t' then ['\\', 't']
  else if c = '\n' then ['\\', 'n']
  else if c = '\r' then ['\\', 'r']
  else if c.toNat = 0 then ['\\', '0']
  else if isHidden c then byCodePoint c
  else [c]

/-- A text between quotes, with escapes for what would not show as it is. -/
def quoted (s : String) : String :=
  String.ofList ('"' :: s.toList.flatMap escaped ++ ['"'])

theorem escaped_of_plain {c : Char} (hq : c ≠ '"') (hb : c ≠ '\\') (hc : isHidden c = false) :
    escaped c = [c] := by
  have hidden {d : Char} (hd : isHidden d = true) : c ≠ d := by
    rintro rfl
    simp [hc] at hd
  have h0 : c.toNat ≠ 0 := fun h => by
    have := isHidden_of_lt_space (c := c) (by omega)
    simp [hc] at this
  simp [escaped, hq, hb, hc, h0, hidden (d := '\t') (by decide), hidden (d := '\n') (by decide),
    hidden (d := '\r') (by decide)]

end Wiring.Text
