import Wiring.Pattern.Basic
import Wiring.Text.Blank
import Wiring.Text.Number
import Wiring.Text.Reader

/-!
# Reading Patterns

The notation of patterns. The patterns here are conditions of a log filter. A condition ends at
its first closing brace, so whatever needs a closing brace is refused: a repetition with
counts, and a character or property in braces.

## Conventions

While the flag `verbose` is on, blanks between the parts of a pattern do not count, nor do
comments from a number sign to the end of the line.

## Main statements

* `Pattern.ofChars?`: the pattern of a whole text.
* `Pattern.skipVerbose_of_plain`: nothing is left out in front of a character that counts.
-/

namespace Wiring.Pattern

open Text Text.Reader

/-! ### Blanks and comments -/

/-- Leave out blanks and comments. -/
def skipVerbose (inComment : Bool) : List Char → List Char
  | [] => []
  | c :: rest =>
    if inComment then skipVerbose (c ≠ '\n') rest
    else if Text.isBlank c then skipVerbose false rest
    else if c = '#' then skipVerbose true rest
    else c :: rest

/-- Leave out what does not count. -/
def skipping (verbose : Bool) (cs : List Char) : List Char :=
  if verbose then skipVerbose false cs else cs

/-- The next character that counts. Of a comment only the number sign is passed over. -/
def peek (verbose : Bool) (cs : List Char) : Option Char :=
  if verbose then
    let beyond := match cs.dropWhile Text.isBlank with
      | '#' :: rest => rest.dropWhile Text.isBlank
      | rest => rest
    beyond.head?.or cs.head?
  else cs.head?

/-! ### Escapes -/

/-- Hexadecimal digits, as many as are asked for. -/
def hexDigits (verbose : Bool) : Nat → Reader (List Char)
  | 0, cs => some ([], cs)
  | n + 1, cs => do
    let (c, rest) ← oneOf isHexDigit (skipping verbose cs)
    let (more, rest) ← hexDigits verbose n rest
    return (c :: more, rest)

/-- A character by the hexadecimal digits of its code point. -/
def hexChar (verbose : Bool) (digits : Nat) : Reader Pattern := fun cs => do
  let (ds, rest) ← hexDigits verbose digits cs
  return (.char ⟨← scalar? (valueOf 16 ds), digits = 2⟩, rest)

/-- What a backslash and a letter stand for, apart from characters in digits and properties. -/
def ofEscape? (c : Char) : Option Pattern :=
  if c ∈ ['d', 's', 'w'] then some (.set (.shorthand false))
  else if c ∈ ['D', 'S', 'W'] then some (.set (.shorthand true))
  else if c ∈ ['b', 'B', '<', '>'] then some .wordBoundary
  else if c ∈ ['A', 'z'] then some .edge
  else
    match c with
    | 'a' => some (.char ⟨'\x07', false⟩)
    | 'f' => some (.char ⟨'\x0c', false⟩)
    | 't' => some (.char ⟨'\t', false⟩)
    | 'n' => some (.char ⟨'\n', false⟩)
    | 'r' => some (.char ⟨'\r', false⟩)
    | 'v' => some (.char ⟨'\x0b', false⟩)
    | _ => if c.toNat < 0x80 && !c.isAlphanum then some (.char ⟨c, false⟩) else none

/-- What follows a backslash. -/
def escape (verbose : Bool) : Reader Pattern
  | [] => none
  | 'x' :: rest => hexChar verbose 2 rest
  | 'u' :: rest => hexChar verbose 4 rest
  | 'U' :: rest => hexChar verbose 8 rest
  | c :: rest =>
    if c = 'p' || c = 'P' then
      match skipping verbose rest with
      | [] => none
      | d :: rest => if d = '\x7b' || d = '\\' then none else some (.set .property, rest)
    else (ofEscape? c).map fun p => (p, rest)

/-! ### Sets of characters -/

/-- The names of classes. -/
def classNames : List String :=
  ["alnum", "alpha", "ascii", "blank", "cntrl", "digit", "graph", "lower", "print", "punct",
   "space", "upper", "word", "xdigit"]

/-- A class by its name, behind the opening bracket: whether it is negated. -/
def namedClass : Reader Bool
  | ':' :: rest =>
    let (negated, rest) := match rest with
      | '^' :: rest => (true, rest)
      | rest => (false, rest)
    match rest.span (· ≠ ':') with
    | (name, ':' :: ']' :: rest) =>
      if classNames.contains (String.ofList name) then some (negated, rest) else none
    | _ => none
  | _ => none

/-- A part of a set that needs no brackets of its own. -/
def setPart (verbose : Bool) : Reader Pattern
  | [] => none
  | '\\' :: rest => escape verbose rest
  | c :: rest => some (.char ⟨c, false⟩, rest)

/-- A part of a set as a set. -/
def asSet? : Pattern → Option CharSet
  | .char c => some (.single c)
  | .set s => some s
  | _ => none

/-- A part of a set, or a range from one character to another. A hyphen in front of the closing
bracket or of a second hyphen makes no range. -/
def setRange (verbose : Bool) : Reader CharSet := fun cs => do
  let (first, rest) ← setPart verbose cs
  match skipping verbose rest with
  | [] => none
  | c :: rest =>
    if c ≠ '-' || peek verbose rest = some ']' || peek verbose rest = some '-' then
      return (← asSet? first, c :: rest)
    else
      let (last, rest) ← setPart verbose (skipping verbose rest)
      match first, last with
      | .char a, .char b => if a.char ≤ b.char then return (.range a b, rest) else none
      | _, _ => none

/-- Whether a text goes on with a mark that combines the sets around it. -/
def startsCombination : List Char → Bool
  | a :: b :: _ => a = b && (a = '&' || a = '-' || a = '~')
  | _ => false

/-- The set behind a combining mark, with the one in front of it. -/
def combine : Option CharSet → CharSet → CharSet
  | none, right => right
  | some left, right => .combined left right

/-- Hyphens at the beginning of a set, which stand for themselves. -/
def leadingHyphens (verbose : Bool) : Nat → List Char → List CharSet × List Char
  | 0, cs => ([], cs)
  | rounds + 1, cs =>
    match cs with
    | '-' :: rest =>
      let (items, rest) := leadingHyphens verbose rounds (skipping verbose rest)
      (.single ⟨'-', false⟩ :: items, rest)
    | _ => ([], cs)

/-- What a set begins with: whether it is negated, and the hyphens, or the closing bracket, that
stand for themselves. -/
def setOpening (verbose : Bool) (cs : List Char) : (Bool × List CharSet) × List Char :=
  let cs := skipping verbose cs
  let (negated, cs) := match cs with
    | '^' :: rest => (true, skipping verbose rest)
    | _ => (false, cs)
  match leadingHyphens verbose cs.length cs with
  | ([], ']' :: rest) => ((negated, [.single ⟨']', false⟩]), skipping verbose rest)
  | (items, rest) => ((negated, items), rest)

mutual

/-- A set in brackets, behind the opening one. -/
def bracketed (verbose : Bool) : Nat → Reader CharSet
  | 0, _ => none
  | rounds + 1, cs => do
    let ((negated, items), rest) := setOpening verbose cs
    let (content, rest) ← setItems verbose none items rounds rest
    return (.bracketed negated content, rest)

/-- The rest of a set, up to and with the closing bracket, after `items` and a set `left` in
front of a combining mark. -/
def setItems (verbose : Bool) (left : Option CharSet) (items : List CharSet) :
    Nat → Reader CharSet
  | 0, _ => none
  | rounds + 1, cs =>
    match skipping verbose cs with
    | [] => none
    | '[' :: rest => do
      let (item, rest) ← match namedClass rest with
        | some (negated, rest) => some (.named negated, rest)
        | none => bracketed verbose rounds rest
      setItems verbose left (items ++ [item]) rounds rest
    | ']' :: rest => some (combine left (.ofItems items), rest)
    | cs =>
      if startsCombination cs then
        setItems verbose (some (combine left (.ofItems items))) [] rounds (cs.drop 2)
      else do
        let (item, rest) ← setRange verbose cs
        setItems verbose left (items ++ [item]) rounds rest

end

/-! ### Groups -/

/-- What the reading of a pattern depends on. -/
structure Context where
  /-- Whether blanks and comments do not count. -/
  verbose : Bool
  /-- The names of groups so far. -/
  names : List (List Char)

/-- Switches, written as letters behind or in front of a minus sign. -/
def readSwitches (on : Bool) (sofar : Switches) : List Char → Option Switches
  | [] => some sofar
  | '-' :: rest => if on && !rest.isEmpty then readSwitches false sofar rest else none
  | c :: rest => do
    let flag ← PatternFlag.ofLetter? c
    if sofar.any (·.1 = flag) then none else readSwitches on (sofar ++ [(flag, on)]) rest

/-- Whether a text can be the name of a group. -/
def isGroupName : List Char → Bool
  | [] => false
  | c :: rest =>
    (c = '_' || isLetter c) &&
      rest.all fun d => d = '_' || d = '.' || d = '[' || d = ']' || isLetterOrNumber d

/-- How a group begins. -/
inductive Opening where
  /-- There are only switches, and the group ends with them. -/
  | switches (s : Switches)
  /-- The content follows, for which there may be switches and a name. -/
  | content (s : Switches) (name : Option (List Char))

/-- The rest of the name of a group, up to the angle bracket behind it. -/
def groupName : Reader Opening := fun cs =>
  match cs.span (· ≠ '>') with
  | (name, '>' :: rest) => if isGroupName name then some (.content [] (some name), rest) else none
  | _ => none

/-- The switches at the beginning of a group. -/
def groupSwitches : Reader Opening := fun cs => do
  let (word, rest) := cs.span fun c => c ≠ ':' && c ≠ ')'
  let s ← readSwitches true [] word
  match rest with
  | ':' :: rest => return (.content s none, rest)
  | ')' :: rest => if s.isEmpty then none else return (.switches s, rest)
  | _ => none

/-- What follows the opening parenthesis of a group. A group that looks ahead or behind is
refused. -/
def groupOpening : Reader Opening
  | '?' :: '=' :: _ | '?' :: '!' :: _ => none
  | '?' :: '<' :: '=' :: _ | '?' :: '<' :: '!' :: _ => none
  | '?' :: 'P' :: '<' :: rest | '?' :: '<' :: rest => groupName rest
  | '?' :: rest => groupSwitches rest
  | cs => some (.content [] none, cs)

/-- Take note of the name of a group, which no other group may have. -/
def Context.naming (ctx : Context) : Option (List Char) → Option Context
  | none => some ctx
  | some name => if name ∈ ctx.names then none else some { ctx with names := name :: ctx.names }

/-- The context of the rest of a group after switches. -/
def Context.switch (ctx : Context) (s : Switches) : Context :=
  { ctx with verbose := s.setting .verbose ctx.verbose }

/-! ### Patterns -/

/-- Repeat the last of some patterns. Nothing and switches cannot be repeated. -/
def repeatLast : List Pattern → Option (List Pattern)
  | [] => none
  | [.empty] => none
  | [.switches _] => none
  | [p] => some [.repetition p]
  | p :: ps => (repeatLast ps).map (p :: ·)

/-- A part of a pattern that is neither a group nor a set in brackets. -/
def simplePart (verbose : Bool) : Reader Pattern
  | [] => none
  | '\\' :: rest => escape verbose rest
  | '.' :: rest => some (.dot, rest)
  | '^' :: rest => some (.edge, rest)
  | '$' :: rest => some (.edge, rest)
  | c :: rest => some (.char ⟨c, false⟩, rest)

mutual

/-- The branches of a choice, up to the end of the group or text. -/
def branches : Nat → Context → List Char → Option (List Pattern × Context × List Char)
  | 0, _, _ => none
  | rounds + 1, ctx, cs => do
    let (parts, ctx, rest) ← sequenceFrom [] rounds ctx cs
    match rest with
    | '|' :: rest =>
      let (more, ctx, rest) ← branches rounds ctx rest
      return (.ofSequence parts :: more, ctx, rest)
    | _ => return ([.ofSequence parts], ctx, rest)

/-- The rest of a sequence of patterns after `parts`, up to the end of the branch. -/
def sequenceFrom (parts : List Pattern) :
    Nat → Context → List Char → Option (List Pattern × Context × List Char)
  | 0, _, _ => none
  | rounds + 1, ctx, cs =>
    match skipping ctx.verbose cs with
    | [] => some (parts, ctx, [])
    | c :: rest =>
      if c = '|' || c = ')' then some (parts, ctx, c :: rest)
      else if c = '(' then do
        let (opening, rest) ← groupOpening (skipping ctx.verbose rest)
        match opening with
        | .switches s => sequenceFrom (parts ++ [.switches s]) rounds (ctx.switch s) rest
        | .content s name =>
          let inner ← (ctx.switch s).naming name
          let (ps, after, rest) ← branches rounds inner rest
          let (_, rest) ← Reader.char ')' rest
          sequenceFrom (parts ++ [.group s (.ofBranches ps)]) rounds
            { after with verbose := ctx.verbose } rest
      else if c = '[' then do
        let (s, rest) ← bracketed ctx.verbose rounds rest
        sequenceFrom (parts ++ [.set s]) rounds ctx rest
      else if c = '?' || c = '*' || c = '+' then do
        let parts ← repeatLast parts
        sequenceFrom parts rounds ctx (optional (Reader.char '?') rest).2
      else if c = '\x7b' then none
      else do
        let (part, rest) ← simplePart ctx.verbose (c :: rest)
        sequenceFrom (parts ++ [part]) rounds ctx rest

end

/-- How deep a pattern may nest. -/
def depthLimit : Nat := 250

/-- The pattern of a whole text. Two rounds suffice for each character: one for the branch that
it may begin, and one for itself. -/
def ofChars? (cs : List Char) : Option Pattern := do
  let (ps, _, rest) ← branches (2 * cs.length + 2) ⟨false, []⟩ cs
  let p := ofBranches ps
  if rest.isEmpty && p.depth ≤ depthLimit then return p else none

theorem skipVerbose_of_plain {c : Char} {cs : List Char} (hb : Text.isBlank c = false)
    (hc : c ≠ '#') : skipVerbose false (c :: cs) = c :: cs := by
  simp [skipVerbose, hb, hc]

end Wiring.Pattern
