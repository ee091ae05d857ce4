/-!
# JSON Values

JSON values, and the compact text that stands for them. Members of an object are kept in the
order in which they are listed.

## Main statements

* `Json.compact`: the text of a value, without blanks.
* `Json.ofMap`: an object with its members in the order of their names.
-/

namespace Wiring

/-- A JSON value. -/
inductive Json where
  /-- The null value. -/
  | null
  /-- A truth value. -/
  | bool (b : Bool)
  /-- A number, by the text it is written with. -/
  | number (text : String)
  /-- A string. A string whose escapes do not make up a text has none. -/
  | string (text : Option String)
  /-- An array. -/
  | array (items : List Json)
  /-- An object, with its members in order. -/
  | object (members : List (Option String × Json))

namespace Json

/-- A string with a text. -/
def str (s : String) : Json := string (some s)

/-- The object with the given members. -/
def ofFields (fields : List (String × Json)) : Json :=
  object (fields.map fun (name, value) => (some name, value))

/-- The object with the given members, in the order of their names. -/
def ofMap (fields : List (String × Json)) : Json :=
  ofFields (fields.mergeSort fun a b => !(b.1 < a.1))

/-- The hexadecimal escape of a control character. -/
def controlEscape (c : Char) : List Char :=
  let digits := Nat.toDigits 16 c.toNat
  ['\\', 'u'] ++ List.replicate (4 - digits.length) '0' ++ digits

/-- How a character is written in a string. -/
def escaped (c : Char) : List Char :=
  if c = '"' then ['\\', '"']
  else if c = '\\' then ['\\', '\\']
  else if c = '\x08' then ['\\', 'b']
  else if c = '\t' then ['\\', 't']
  else if c = '\n' then ['\\', 'n']
  else if c = '\x0c' then ['\\', 'f']
  else if c = '\r' then ['\\', 'r']
  else if c.toNat < 0x20 then controlEscape c
  else [c]

/-- A string as it is written. -/
def quoted (s : String) : String := String.ofList ('"' :: s.toList.flatMap escaped ++ ['"'])

mutual

/-- The text of a value, without blanks. -/
def compact : Json → String
  | null => "null"
  | bool true => "true"
  | bool false => "false"
  | number text => text
  | string text => quoted (text.getD "")
  | array items => "[" ++ compactItems items ++ "]"
  | object members => "\x7b" ++ compactMembers members ++ "\x7d"

/-- The items of an array, separated by commas. -/
def compactItems : List Json → String
  | [] => ""
  | [item] => item.compact
  | item :: items => item.compact ++ "," ++ compactItems items

/-- The members of an object, separated by commas. -/
def compactMembers : List (Option String × Json) → String
  | [] => ""
  | [(name, value)] => quoted (name.getD "") ++ ":" ++ value.compact
  | (name, value) :: members =>
    quoted (name.getD "") ++ ":" ++ value.compact ++ "," ++ compactMembers members

end

end Json

end Wiring
