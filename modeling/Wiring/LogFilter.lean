import Wiring.Settings.Basic
import Wiring.Error
import Wiring.Pattern.Needs
import Wiring.Pattern.Reader

/-!
# Log Filters

What is logged is said by a list of directives, separated by commas. A directive is a level, the
name of a target, or a target with a level: `info`, `db`, `db=debug`. A target may also name a
span, with a condition on its fields: `db[query{table}]=trace`. A condition names a field and
possibly its value, which is a number or a pattern: `db[query{table=user.*}]`. Setting up the
log checks the directives, and fails even then if the log is taken already, which the journal
does.

## Conventions

Blanks around a directive do not count when the directive is split into its parts. Yet levels
and conditions are cut from the directive with its blanks, by their places among the parts, so
blanks in front of the directive shift them. Places are counted in bytes.

## Main statements

* `LogFilter.fault`: what is wrong with directives.
* `LogFilter.cut_append`: a part of ASCII characters is cut out by its place.
* `LoggingConfig.setUp`: setting up the log.
* `LoggingConfig.setUp_taken`: why this fails while the journal takes the log.
-/

namespace Wiring

namespace LogFilter

/-- What may be wrong with a directive. -/
inductive Fault where
  /-- It does not have the form of a directive. -/
  | malformed
  /-- Its level is unknown. -/
  | unknownLevel
  /-- The pattern of a field cannot be used. -/
  | badPattern (f : Pattern.Fault)
  deriving DecidableEq

/-- The text of a fault. -/
def Fault.message : Fault → String
  | malformed => "invalid filter directive"
  | unknownLevel =>
    "error parsing level filter: expected one of \"off\", \"error\", \"warn\", \"info\", " ++
      "\"debug\", \"trace\", or a number 0-5"
  | badPattern f => "invalid field filter: " ++ f.message

/-! ### Levels -/

/-- Whether a number is written in digits, with a plus sign or without, and names a level. -/
def isLevelNumber (word : List Char) : Bool :=
  let digits := match word with
    | '+' :: digits => digits
    | digits => digits
  !digits.isEmpty && digits.all Char.isDigit && Text.valueOf 10 digits ≤ 5

/-- Whether a word is a level, in whatever case. Nothing at all is one too. -/
def isLevel (word : List Char) : Bool :=
  word.isEmpty || isLevelNumber word ||
    ["off", "error", "warn", "info", "debug", "trace"].contains (String.ofList word).toLower

/-- What is wrong behind the equals sign of a directive, given its level. -/
def levelFault (level : List Char) : Option Fault :=
  if isLevel level then none else some .unknownLevel

/-! ### Conditions on fields -/

/-- Whether a text is the exponent of a number, or nothing. -/
def isExponent : List Char → Bool
  | [] => true
  | e :: rest =>
    let digits := match rest with
      | '+' :: digits | '-' :: digits => digits
      | digits => digits
    (e = 'e' || e = 'E') && !digits.isEmpty && digits.all Char.isDigit

/-- Whether a text is a number without a sign: digits with or without a point among them, and
possibly an exponent. -/
def isUnsigned (cs : List Char) : Bool :=
  let (whole, rest) := cs.span Char.isDigit
  let (fraction, rest) := match rest with
    | '.' :: rest => rest.span Char.isDigit
    | rest => ([], rest)
  !(whole ++ fraction).isEmpty && isExponent rest

/-- Whether a value is a number, finite or not. -/
def isNumeral (value : List Char) : Bool :=
  let cs := match value with
    | '+' :: cs | '-' :: cs => cs
    | cs => cs
  isUnsigned cs || ["inf", "infinity", "nan"].contains (String.ofList cs).toLower

/-- What is wrong with the value that a condition asks of a field. What is not a number is a
pattern. -/
def valueFault (value : List Char) : Option Fault :=
  if isNumeral value then none
  else
    match Pattern.ofChars? value with
    | none => some (.badPattern .unreadable)
    | some p => p.fault.map .badPattern

/-- What is wrong with a condition. A second equals sign ends the value. -/
def conditionFault (condition : List Char) : Option Fault :=
  if condition.isEmpty then some .malformed
  else
    match condition.dropWhile (· ≠ '=') with
    | '=' :: rest => valueFault (rest.takeWhile (· ≠ '='))
    | _ => none

/-! ### Directives -/

/-- What is left of a text without its first `n` bytes. -/
def dropBytes : Nat → List Char → List Char
  | 0, cs => cs
  | _, [] => []
  | n + 1, c :: cs => dropBytes (n + 1 - c.utf8Size) cs

/-- The first `n` bytes of a text. -/
def takeBytes : Nat → List Char → List Char
  | 0, _ => []
  | _, [] => []
  | n + 1, c :: cs => c :: takeBytes (n + 1 - c.utf8Size) cs

/-- The part of a text from one byte up to another. -/
def cut (first last : Nat) (cs : List Char) : List Char :=
  takeBytes (last - first) (dropBytes first cs)

/-- The parts of a directive that checking goes through. -/
inductive Place where
  /-- Nothing was read. -/
  | start
  /-- Inside of a level or the name of a target. -/
  | word
  /-- Inside of the name of a span. -/
  | span
  /-- Inside of a condition on a field, which begins at a byte. -/
  | field (first : Nat)
  /-- Behind the condition. -/
  | fields
  /-- Behind a span. -/
  | target
  deriving DecidableEq

/-- Where a character leads: to another place, to the end of a condition, to the level, or to a
fault. -/
inductive Move where
  /-- Go on. -/
  | go (place : Place)
  /-- The condition that began at a byte is complete. -/
  | condition (first : Nat)
  /-- What follows is the level. -/
  | level
  /-- The character must not stand here. -/
  | refuse
  deriving DecidableEq

/-- Whether a directive may begin with a character. -/
def canBegin (c : Char) : Bool := c = '-' || c = ':' || c = '_' || Text.isLetterOrNumber c

/-- Where a character leads from a place; `next` is the byte behind the character. -/
def Place.step (c : Char) (next : Nat) : Place → Move
  | start => if c = '[' then .go span else if canBegin c then .go word else .refuse
  | word => if c = '=' then .level else if c = '[' then .go span else .go word
  | span =>
    if c = ']' then .go target else if c = '\x7b' then .go (field next) else .go span
  | field first => if c = '\x7d' then .condition first else .go (field first)
  | fields => if c = ']' then .go target else .refuse
  | target => if c = '=' then .level else .refuse

/-- Whether a directive may end at a place. -/
def Place.isEnd : Place → Bool
  | word | target => true
  | _ => false

/-- What is wrong with the rest of a directive, from a place on; `position` bytes were read,
and `whole` is the directive with its blanks. -/
def faultFrom (whole : List Char) (position : Nat) : Place → List Char → Option Fault
  | place, [] => if place.isEnd then none else some .malformed
  | place, c :: rest =>
    let next := position + c.utf8Size
    match place.step c next with
    | .go place => faultFrom whole next place rest
    | .condition first =>
      (conditionFault (cut first position whole)).or (faultFrom whole next .fields rest)
    | .level => levelFault (dropBytes next whole)
    | .refuse => some .malformed

/-- What is wrong with a directive. -/
def directiveFault (directive : List Char) : Option Fault :=
  faultFrom directive 0 .start (Text.trimChars directive)

/-- The parts of a list between separators. -/
def pieces (separator : Char) : List Char → List (List Char)
  | [] => [[]]
  | c :: rest =>
    if c = separator then [] :: pieces separator rest
    else
      match pieces separator rest with
      | [] => [[c]]
      | piece :: more => (c :: piece) :: more

/-- The first fault in a list of directives; between two commas there may be nothing. -/
def fault (directives : String) : Option Fault :=
  ((pieces ',' directives.toList).filter (!·.isEmpty)).findSome? directiveFault

theorem isLevel_nil : isLevel [] = true := rfl

/-- Characters of one byte each are dropped by their number. -/
theorem dropBytes_append {cs : List Char} (h : ∀ c ∈ cs, c.utf8Size = 1) (rest : List Char) :
    dropBytes cs.length (cs ++ rest) = rest := by
  induction cs with
  | nil => cases rest <;> simp [dropBytes]
  | cons c cs ih =>
    rw [List.length_cons, List.cons_append, dropBytes, h c (by simp)]
    exact ih fun d hd => h d (by simp [hd])

/-- Characters of one byte each are taken by their number. -/
theorem takeBytes_append {cs : List Char} (h : ∀ c ∈ cs, c.utf8Size = 1) (rest : List Char) :
    takeBytes cs.length (cs ++ rest) = cs := by
  induction cs with
  | nil => simp [takeBytes]
  | cons c cs ih =>
    rw [List.length_cons, List.cons_append, takeBytes, h c (by simp)]
    exact congrArg (c :: ·) (ih fun d hd => h d (by simp [hd]))

/-- Characters of one byte each are cut by their numbers. -/
theorem cut_append {cs ds : List Char} (hc : ∀ c ∈ cs, c.utf8Size = 1)
    (hd : ∀ d ∈ ds, d.utf8Size = 1) (rest : List Char) :
    cut cs.length (cs.length + ds.length) (cs ++ (ds ++ rest)) = ds := by
  rw [cut, dropBytes_append hc, Nat.add_sub_cancel_left, takeBytes_append hd]

/-- Pieces make up what was split into them. -/
theorem intercalate_pieces (separator : Char) (cs : List Char) :
    List.intercalate [separator] (pieces separator cs) = cs := by
  induction cs with
  | nil => rfl
  | cons c rest ih =>
    rw [pieces]
    split
    · rename_i h
      subst h
      cases hp : pieces c rest with
      | nil =>
        exfalso
        revert hp
        cases rest with
        | nil => simp [pieces]
        | cons d ds =>
          simp only [pieces]
          split
          · simp
          · split <;> simp
      | cons piece more =>
        rw [hp] at ih
        rw [← ih]
        simp [List.intercalate, List.intersperse]
    · cases hp : pieces separator rest with
      | nil =>
        rw [hp] at ih
        simp only [List.intercalate, List.intersperse, List.flatten_nil] at ih
        simp [List.intercalate, ← ih]
      | cons piece more =>
        rw [hp] at ih
        rw [← ih]
        cases more <;> simp [List.intercalate, List.intersperse]

end LogFilter

/-- The error of a filter that is at fault. -/
def LogFilter.Fault.error (f : LogFilter.Fault) (level : String) : InfrastructureError :=
  .bootstrapFailed ("无效的日志级别 '" ++ level ++ "': " ++ f.message)

/-- The error of a log that is refused. -/
def LogFilter.refusalError (reason : String) : InfrastructureError :=
  .bootstrapFailed ("日志初始化失败: " ++ reason)

/-- The reason for which a log is refused that is taken already. -/
def LogFilter.takenReason : String := "a global default trace dispatcher has already been set"

namespace LoggingConfig

/-- Why logging cannot be set up: the filter is at fault, or the log is taken already. -/
def setupError (c : LoggingConfig) : InfrastructureError :=
  match LogFilter.fault c.level with
  | some fault => fault.error c.level
  | none => LogFilter.refusalError LogFilter.takenReason

/-- Set up the log, which may be refused for some reason. The filter is checked first. -/
def setUp (c : LoggingConfig) (refusal : Option String) : Except InfrastructureError Unit :=
  match LogFilter.fault c.level, refusal with
  | some fault, _ => .error (fault.error c.level)
  | none, some reason => .error (LogFilter.refusalError reason)
  | none, none => .ok ()

/-- Logging cannot be set up twice. -/
theorem setUp_taken (c : LoggingConfig) :
    c.setUp (some LogFilter.takenReason) = .error c.setupError := by
  unfold setUp setupError
  cases LogFilter.fault c.level <;> rfl

end LoggingConfig

end Wiring
