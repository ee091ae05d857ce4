import Wiring.Document
import Wiring.Toml.Scalar

/-!
# Reading TOML

A TOML text is a sequence of sections. A section has a header, except for the first, and pairs
of dotted keys and values. Headers and dotted keys name tables, and each table is given in one
way only: by its header, by dotted keys, or as a value between braces. A table that was only
passed through on the way to a header may still get a header of its own.

## Main statements

* `Toml.ofText?`: the content of a whole text.
* `Toml.descend`: reaching a table through the tables above it.
* `Toml.addPair`: adding the value of a dotted key to a table.
-/

namespace Wiring.Toml

open Text Text.Reader

/-! ### Tables -/

/-- How a table came to be. -/
inductive Origin where
  /-- It has a header, or it is the whole text. -/
  | header
  /-- It is passed through by the header of another table. -/
  | passage
  /-- It is named by a dotted key. -/
  | dotted
  deriving DecidableEq

/-- What is stored under a key. -/
inductive Node where
  /-- A value. -/
  | value (d : Document)
  /-- A table. -/
  | table (origin : Origin) (entries : List (String × Node))
  /-- Tables with the same header: the last one, and the earlier ones from the last on. -/
  | tables (last : List (String × Node)) (earlier : List (List (String × Node)))

/-- A table that is being put together. -/
structure Section where
  /-- How it came to be. -/
  origin : Origin
  /-- Its entries in order. -/
  entries : List (String × Node)

/-- What is stored under a key of a list of entries. -/
def find (key : String) : List (String × Node) → Option Node
  | [] => none
  | (k, n) :: rest => if k = key then some n else find key rest

/-- Store a node under a key. -/
def store (key : String) (n : Node) : List (String × Node) → List (String × Node)
  | [] => [(key, n)]
  | (k, m) :: rest => if k = key then (k, n) :: rest else (k, m) :: store key n rest

/-- Change the table that is reached from `s` through the keys of a path. Tables that are not
there are made with origin `made`; on the way of a dotted key, no table with a header may be
passed. -/
def descend (made : Origin) (change : Section → Option Section) :
    List String → Section → Option Section
  | [], s => change s
  | key :: path, s => do
    let n ← match find key s.entries with
      | none => (descend made change path ⟨made, []⟩).map fun t => Node.table t.origin t.entries
      | some (.value _) => none
      | some (.tables last earlier) =>
        (descend made change path ⟨.header, last⟩).map fun t => Node.tables t.entries earlier
      | some (.table origin entries) =>
        if made = .dotted && origin = .header then none
        else
          (descend made change path ⟨origin, entries⟩).map fun t => Node.table t.origin t.entries
    return { s with entries := store key n s.entries }

/-- Add the value of a dotted key, given as the keys of its tables and its last key. The table
that the value goes to must be one of dotted keys, unless the key has no dots. -/
def addPair (s : Section) (path : List String) (key : String) (d : Document) : Option Section :=
  descend .dotted
    (fun t =>
      if (t.origin = .dotted) = path.isEmpty then none
      else if (find key t.entries).isSome then none
      else some { t with entries := store key (.value d) t.entries })
    path s

/-- Split off the last of several keys. -/
def splitLast : List String → Option (List String × String)
  | [] => none
  | [key] => some ([], key)
  | key :: rest => (splitLast rest).map fun (path, last) => (key :: path, last)

/-- Add pairs of dotted keys and values, in order. -/
def addPairs : Section → List (List String × Document) → Option Section
  | s, [] => some s
  | s, (keys, d) :: rest => do
    let (path, key) ← splitLast keys
    addPairs (← addPair s path key d) rest

/-- Add a section with a header to the table of the whole text. -/
def addTable (root : Section) (keys : List String) (pairs : List (List String × Document)) :
    Option Section := do
  let (path, key) ← splitLast keys
  descend .passage
    (fun parent => do
      let entries ← match find key parent.entries with
        | none => some []
        | some (.table .passage entries) => some entries
        | _ => none
      let t ← addPairs ⟨.header, entries⟩ pairs
      return { parent with entries := store key (.table .header t.entries) parent.entries })
    path root

/-- Add a section with the header of one of several tables to the table of the whole text. -/
def addToTables (root : Section) (keys : List String)
    (pairs : List (List String × Document)) : Option Section := do
  let (path, key) ← splitLast keys
  descend .passage
    (fun parent => do
      let earlier ← match find key parent.entries with
        | none => some []
        | some (.tables last earlier) => some (last :: earlier)
        | _ => none
      let t ← addPairs ⟨.header, []⟩ pairs
      return { parent with entries := store key (.tables t.entries earlier) parent.entries })
    path root

mutual

/-- What is stored under a key, as the content of a settings file. -/
def Node.toDocument : Node → Document
  | .value d => d
  | .table _ entries => .table (toEntries entries)
  | .tables last earlier => .list (toTables earlier ++ [.table (toEntries last)])

/-- The entries of a table as the content of a settings file. -/
def toEntries : List (String × Node) → List (Option String × Document)
  | [] => []
  | (key, n) :: rest => (some key, n.toDocument) :: toEntries rest

/-- Earlier tables with one header as the content of a settings file, the first one first. -/
def toTables : List (List (String × Node)) → List Document
  | [] => []
  | entries :: rest => toTables rest ++ [.table (toEntries entries)]

end

/-- The field under which a date is kept in a table of its own. -/
def dateField : String := "date"

/-! ### Keys and values -/

/-- How deep lists and braces may nest, and how many keys a dotted key may have. -/
def nestingLimit : Nat := 79

/-- Characters of a key that needs no quotes. -/
def isBare (c : Char) : Bool := c.isAlphanum || c = '-' || c = '_'

/-- A key without dots. -/
def simpleKey : Reader String := fun cs =>
  match cs with
  | '"' :: _ => lineString '"' basicChar cs
  | '\'' :: _ => lineString '\'' literalChar cs
  | _ => (run1 isBare cs).map fun (key, rest) => (String.ofList key, rest)

/-- A dotted key, with blanks around it. -/
def key : Reader (List String) := fun cs => do
  let spaced : Reader String := fun cs =>
    (simpleKey (skip isBlank cs)).map fun (k, rest) => (k, skip isBlank rest)
  let (keys, rest) ← separated spaced (char '.') (cs.length + 1) cs
  if keys.length ≤ nestingLimit then return (keys, rest) else none

/-- A dotted key and its value. -/
def pair (value : Reader Document) : Reader (List String × Document) := fun cs => do
  let (keys, rest) ← key cs
  let (_, rest) ← char '=' rest
  let (d, rest) ← value (skip isBlank rest)
  return ((keys, d), skip isBlank rest)

/-- Leave out blanks, line ends and comments between the items of a list. -/
def skipLines (cs : List Char) : List Char :=
  (many (fun cs =>
    orElse (fun cs => (run1 isBlank cs).map fun (_, rest) => ((), rest))
      (orElse lineEnd fun cs => (comment cs).bind fun (_, rest) => lineEnd rest) cs)
    cs.length cs).2

/-- The items of a list behind its opening bracket, up to and with the closing one. A comma may
stand behind the last item. -/
def listItems (value : Reader Document) : Nat → Reader (List Document)
  | 0, _ => none
  | rounds + 1, cs =>
    match skipLines cs with
    | ']' :: rest => some ([], rest)
    | cs => do
      let (d, rest) ← value cs
      match skipLines rest with
      | ',' :: rest => do
        let (ds, rest) ← listItems value rounds rest
        return (d :: ds, rest)
      | ']' :: rest => return ([d], rest)
      | _ => none

/-- The pairs of a table between braces, behind the opening brace, up to and with the closing
one. -/
def bracedPairs (value : Reader Document) : Reader (List (List String × Document)) := fun cs =>
  match skip isBlank cs with
  | '\x7d' :: rest => some ([], rest)
  | cs => do
    let (pairs, rest) ← separated (pair value) (char ',') (cs.length + 1) cs
    let (_, rest) ← char '\x7d' rest
    return (pairs, rest)

/-- A value without parts: a string, a truth value, a number or a date. -/
def scalar : Reader Document := fun cs =>
  match cs with
  | '"' :: _ | '\'' :: _ => (stringText cs).map fun (s, rest) => (.text (some s), rest)
  | 't' :: _ => (literal "true".toList cs).map fun (_, rest) => (.flag true, rest)
  | 'f' :: _ => (literal "false".toList cs).map fun (_, rest) => (.flag false, rest)
  | _ =>
    (numeral cs).map fun (n, rest) =>
      (match n with
        | .number => .other
        | .date => .table [(some dateField, .text (some ""))], rest)

/-- A value in which lists and braces nest no deeper than `depth`. -/
def value : Nat → Reader Document
  | 0, cs => scalar cs
  | depth + 1, cs =>
    match cs with
    | '[' :: rest =>
      (listItems (value depth) (rest.length + 1) rest).map fun (ds, rest) => (.list ds, rest)
    | '\x7b' :: rest => do
      let (pairs, rest) ← bracedPairs (value depth) rest
      let t ← addPairs ⟨.header, []⟩ pairs
      return (.table (toEntries t.entries), rest)
    | _ => scalar cs

/-! ### Lines -/

/-- A line of a text. -/
inductive Line where
  /-- A line without content. -/
  | empty
  /-- The header of a table. -/
  | header (keys : List String)
  /-- The header of one of several tables. -/
  | headerOfMany (keys : List String)
  /-- A dotted key and its value. -/
  | pair (keys : List String) (d : Document)

/-- The rest of a line behind its content: blanks and a comment. -/
def endOfLine : Reader Unit := fun cs =>
  let rest := (optional comment (skip isBlank cs)).2
  match rest with
  | [] => some ((), [])
  | _ => lineEnd rest

/-- A header between brackets. -/
def headerKeys (opening closing : List Char) : Reader (List String) := fun cs => do
  let (_, rest) ← literal opening cs
  let (keys, rest) ← key rest
  let (_, rest) ← literal closing rest
  return (keys, rest)

/-- A line with its end. -/
def line : Reader Line := fun cs =>
  let (l, rest) := (match skip isBlank cs with
    | [] => (some Line.empty, [])
    | c :: rest =>
      if c = '\n' || c = '\r' || c = '#' then (some .empty, c :: rest)
      else if c = '[' then
        match rest with
        | '[' :: _ =>
          match headerKeys ['[', '['] [']', ']'] (c :: rest) with
          | some (keys, rest) => (some (.headerOfMany keys), rest)
          | none => (none, [])
        | _ =>
          match headerKeys ['['] [']'] (c :: rest) with
          | some (keys, rest) => (some (.header keys), rest)
          | none => (none, [])
      else
        match Toml.pair (value nestingLimit) (c :: rest) with
        | some ((keys, d), rest) => (some (.pair keys d), rest)
        | none => (none, []))
  l.bind fun l => (endOfLine rest).map fun (_, rest) => (l, rest)

/-- The lines of a text, at most `rounds` of them. -/
def lines : Nat → List Char → Option (List Line)
  | _, [] => some []
  | 0, _ => none
  | rounds + 1, cs => do
    let (l, rest) ← line cs
    return l :: (← lines rounds rest)

/-! ### Sections -/

/-- The pairs in front of the next header, and the lines from that header on. -/
def leadingPairs : List Line → List (List String × Document) × List Line
  | .empty :: rest => leadingPairs rest
  | .pair keys d :: rest =>
    let (pairs, rest) := leadingPairs rest
    ((keys, d) :: pairs, rest)
  | ls => ([], ls)

/-- Add the sections that begin with the headers among lines. -/
def addSections : Section → List Line → Option Section
  | root, [] => some root
  | root, .header keys :: rest => do
    addSections (← addTable root keys (leadingPairs rest).1) rest
  | root, .headerOfMany keys :: rest => do
    addSections (← addToTables root keys (leadingPairs rest).1) rest
  | root, _ :: rest => addSections root rest

/-- The content of a whole text. A byte order mark may stand in front of it. -/
def ofText? (s : String) : Option Document := do
  let cs := match s.toList with
    | '\ufeff' :: rest => rest
    | cs => cs
  let ls ← lines (cs.length + 1) cs
  let root ← addPairs ⟨.header, []⟩ (leadingPairs ls).1
  let root ← addSections root ls
  return .table (toEntries root.entries)

end Wiring.Toml
