import Wiring.Pattern.Basic

/-!
# What Patterns Need

Some patterns cannot be turned into a matcher, because they need what the matcher does not have:
tables of the properties and cases of characters beyond ASCII, single bytes that make up no
character, or a look at the words around a place. What a pattern needs depends on the switches
that are in force where its parts stand.

## Main statements

* `Pattern.needs`: what a pattern needs.
* `Pattern.fault`: why a pattern cannot be turned into a matcher.
* `Pattern.needs_char_standard`: a character by itself needs nothing.
-/

namespace Wiring

/-- What a pattern may need. -/
inductive PatternNeed where
  /-- The properties of characters beyond ASCII. -/
  | properties
  /-- The cases of letters beyond ASCII. -/
  | letterCases
  /-- Bytes that make up no character. -/
  | bytes
  /-- The edges of words beyond ASCII. -/
  | wordEdges
  deriving DecidableEq

/-- How the parts of a pattern are understood. -/
structure PatternMode where
  /-- Whether the case of letters does not matter. -/
  ignoreCase : Bool
  /-- Whether characters are meant and not bytes. -/
  unicode : Bool

namespace PatternMode

/-- How a pattern is understood unless switches say otherwise. -/
def standard : PatternMode := ⟨false, true⟩

/-- The mode after switches. -/
def switch (m : PatternMode) (s : Switches) : PatternMode :=
  ⟨s.setting .ignoreCase m.ignoreCase, s.setting .unicode m.unicode⟩

/-- What a character needs whose case may not matter. -/
def caseNeeds (m : PatternMode) : List PatternNeed :=
  if m.unicode && m.ignoreCase then [.letterCases] else []

/-- What bytes beyond ASCII need. -/
def byteNeeds (m : PatternMode) (beyond : Bool) : List PatternNeed :=
  if !m.unicode && beyond then [.bytes] else []

end PatternMode

/-- Whether a character is beyond ASCII. -/
def PatternChar.isBeyond (c : PatternChar) : Bool := 0x80 ≤ c.char.toNat

mutual

/-- What a set of characters needs. A set of bytes may only hold those of ASCII. -/
def CharSet.needs (m : PatternMode) : CharSet → List PatternNeed
  | single c => m.caseNeeds ++ m.byteNeeds c.isBeyond
  | range first last => m.caseNeeds ++ m.byteNeeds (first.isBeyond || last.isBeyond)
  | named negated => m.caseNeeds ++ m.byteNeeds negated
  | shorthand negated => if m.unicode then [.properties] else m.byteNeeds negated
  | property => [.properties]
  | union items => needsOfItems m items
  | combined left right => left.needs m ++ right.needs m
  | bracketed negated content => content.needs m ++ m.byteNeeds negated

/-- What some sets of characters need. -/
def CharSet.needsOfItems (m : PatternMode) : List CharSet → List PatternNeed
  | [] => []
  | s :: items => s.needs m ++ needsOfItems m items

end

namespace Pattern

mutual

/-- What a pattern needs, and the mode after it. -/
def needs (m : PatternMode) : Pattern → List PatternNeed × PatternMode
  | empty => ([], m)
  | switches s => ([], m.switch s)
  | char c => (m.caseNeeds ++ m.byteNeeds (c.asByte && c.isBeyond), m)
  | dot => (m.byteNeeds true, m)
  | wordBoundary => (if m.unicode then [.wordEdges] else [], m)
  | edge => ([], m)
  | set s => (s.needs m, m)
  | repetition p => p.needs m
  | group s p => ((p.needs (m.switch s)).1, m)
  | sequence ps => needsOfAll m ps
  | choice ps => needsOfAll m ps

/-- What patterns need, each in the mode after the one before it, and the mode after them. -/
def needsOfAll (m : PatternMode) : List Pattern → List PatternNeed × PatternMode
  | [] => ([], m)
  | p :: ps =>
    let (first, m) := p.needs m
    let (others, m) := needsOfAll m ps
    (first ++ others, m)

end

/-- Why a pattern cannot be turned into a matcher. -/
inductive Fault where
  /-- It is not a pattern, or needs tables or bytes that are not there. -/
  | unreadable
  /-- It looks for the edges of words. -/
  | wordEdges
  deriving DecidableEq

/-- The text of a fault. -/
def Fault.message : Fault → String
  | unreadable => "error building NFA"
  | wordEdges =>
    "unsupported regex feature for DFAs: cannot build DFAs for regexes with Unicode word " ++
      "boundaries; switch to ASCII word boundaries, or heuristically enable Unicode word " ++
      "boundaries or use a different regex engine"

/-- Why a pattern cannot be turned into a matcher, if so. -/
def fault (p : Pattern) : Option Fault :=
  let needed := (p.needs .standard).1
  if needed.any (· ≠ .wordEdges) then some .unreadable
  else if needed.isEmpty then none
  else some .wordEdges

theorem needs_char_standard (c : PatternChar) : (char c).needs .standard = ([], .standard) := rfl

theorem fault_char (c : PatternChar) : (char c).fault = none := rfl

end Pattern

end Wiring
