/-!
# Patterns

The texts that a pattern describes do not matter here, only how the pattern is put together:
from characters, sets of characters in brackets, assertions, repetitions, groups and choices.
Switches in a group change how the rest of the group is understood.

## Main statements

* `Pattern`, `CharSet`: patterns and the sets of characters in them.
* `Pattern.depth`: how deep a pattern nests.
* `Pattern.ofSequence`, `Pattern.ofBranches`: a sequence or choice of one is no sequence or
  choice.
-/

namespace Wiring

/-- What a switch changes. -/
inductive PatternFlag where
  /-- The case of letters does not matter. -/
  | ignoreCase
  /-- Assertions about a text hold of each of its lines. -/
  | multiLine
  /-- A dot stands for line ends, too. -/
  | dotAll
  /-- Repetitions prefer few rounds. -/
  | swapGreed
  /-- Characters are meant and not bytes. -/
  | unicode
  /-- A line may end with a carriage return and a line feed. -/
  | carriageReturn
  /-- Blanks and comments in the pattern do not count. -/
  | verbose
  deriving DecidableEq

/-- The flag that is written as a letter. -/
def PatternFlag.ofLetter? : Char → Option PatternFlag
  | 'i' => some ignoreCase
  | 'm' => some multiLine
  | 's' => some dotAll
  | 'U' => some swapGreed
  | 'u' => some unicode
  | 'R' => some carriageReturn
  | 'x' => some verbose
  | _ => none

/-- Flags that are turned on or off. -/
abbrev Switches := List (PatternFlag × Bool)

/-- How a flag is set after some switches, when it was set to `before`. -/
def Switches.setting (s : Switches) (f : PatternFlag) (before : Bool) : Bool :=
  ((s.find? (·.1 = f)).map Prod.snd).getD before

/-- A character that stands for itself. -/
structure PatternChar where
  /-- The character. -/
  char : Char
  /-- Whether it is written as a byte, with two hexadecimal digits. -/
  asByte : Bool

/-- A set of characters. -/
inductive CharSet where
  /-- One character. -/
  | single (c : PatternChar)
  /-- The characters from one to another. -/
  | range (first last : PatternChar)
  /-- A class with a name, or what is not in it. -/
  | named (negated : Bool)
  /-- A class with a letter, digits for one, or what is not in it. -/
  | shorthand (negated : Bool)
  /-- The characters with a property. -/
  | property
  /-- What is in any of some sets. -/
  | union (items : List CharSet)
  /-- What results from two sets by intersection or difference. -/
  | combined (left right : CharSet)
  /-- A set in brackets, or what is not in it. -/
  | bracketed (negated : Bool) (content : CharSet)

/-- A pattern. -/
inductive Pattern where
  /-- Nothing. -/
  | empty
  /-- Switches for the rest of the group. -/
  | switches (s : Switches)
  /-- A character. -/
  | char (c : PatternChar)
  /-- Any character. -/
  | dot
  /-- The edge of a word, or a place that is no such edge. -/
  | wordBoundary
  /-- The edge of a text or line. -/
  | edge
  /-- A character of a set. -/
  | set (s : CharSet)
  /-- A pattern that is repeated. -/
  | repetition (p : Pattern)
  /-- A pattern in parentheses, with switches for it. -/
  | group (s : Switches) (p : Pattern)
  /-- Patterns one after the other. -/
  | sequence (ps : List Pattern)
  /-- A choice of patterns. -/
  | choice (ps : List Pattern)

/-- The set of what is in some sets. -/
def CharSet.ofItems : List CharSet → CharSet
  | [s] => s
  | items => union items

mutual

/-- How deep a set nests. -/
def CharSet.depth : CharSet → Nat
  | union [] => 0
  | union items => depthOfItems items + 1
  | combined left right => max left.depth right.depth + 1
  | bracketed _ content => content.depth + 1
  | _ => 0

/-- How deep the deepest of some sets nests. -/
def CharSet.depthOfItems : List CharSet → Nat
  | [] => 0
  | s :: items => max s.depth (depthOfItems items)

end

namespace Pattern

/-- The pattern of some patterns one after the other. -/
def ofSequence : List Pattern → Pattern
  | [] => empty
  | [p] => p
  | ps => sequence ps

/-- The pattern of a choice. -/
def ofBranches : List Pattern → Pattern
  | [p] => p
  | ps => choice ps

mutual

/-- How deep a pattern nests. -/
def depth : Pattern → Nat
  | set s => s.depth
  | repetition p => p.depth + 1
  | group _ p => p.depth + 1
  | sequence ps => depthOfAll ps + 1
  | choice ps => depthOfAll ps + 1
  | _ => 0

/-- How deep the deepest of some patterns nests. -/
def depthOfAll : List Pattern → Nat
  | [] => 0
  | p :: ps => max p.depth (depthOfAll ps)

end

end Pattern

theorem Switches.setting_nil (f : PatternFlag) (before : Bool) :
    Switches.setting [] f before = before := rfl

theorem Pattern.depth_ofSequence_singleton (p : Pattern) :
    (Pattern.ofSequence [p]).depth = p.depth := rfl

end Wiring
