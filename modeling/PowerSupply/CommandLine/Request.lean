/-
# What a command line asks for

The switches of the command line with their spellings, the request that a command
line amounts to, and the refusal of one that makes no sense.

A switch has a long and a short spelling.  A flag stands alone and a parameter takes
a value.  `Switch.spelled?` finds the switch of a spelling.
-/

import PowerSupply.Fault
import PowerSupply.Text.Integer

namespace PowerSupply
namespace CommandLine

/-- A switch that stands alone. -/
inductive Flag where
  | help
  | list
  | json
  | watch
  | verbose
  deriving DecidableEq, Repr

/-- A switch that takes a value. -/
inductive Parameter where
  | interval
  | root
  | config
  deriving DecidableEq, Repr

/-- A switch of the command line. -/
inductive Switch where
  | flag (f : Flag)
  | parameter (p : Parameter)
  deriving DecidableEq, Repr

namespace Switch

/-- All switches in the order of the help text. -/
def all : List Switch :=
  [.flag .help, .flag .list, .flag .json, .flag .watch, .parameter .interval, .parameter .root,
   .parameter .config, .flag .verbose]

/-- The spellings of a switch, in the order in which they are shown. -/
def spellings : Switch → List String
  | .flag .help => ["-h", "--help"]
  | .flag .list => ["--list", "-l"]
  | .flag .json => ["--json", "-j"]
  | .flag .watch => ["--watch", "-w"]
  | .flag .verbose => ["--verbose", "-v"]
  | .parameter .interval => ["--interval", "-i"]
  | .parameter .root => ["--root", "-r"]
  | .parameter .config => ["--config", "-c"]

/-- A switch as diagnostics name it. -/
def label (s : Switch) : String := "/".intercalate s.spellings

/-- Each spelling with its switch, in order. -/
def table : List (String × Switch) := all.flatMap fun s => s.spellings.map (·, s)

/-- The switch with a given spelling. -/
def spelled? (spelling : String) : Option Switch :=
  (table.find? fun e => e.1 = spelling).map (·.2)

/-- The spellings that start with a text, each with its switch. -/
def completions (start : List Char) : List (String × Switch) :=
  table.filter fun e => start.isPrefixOf e.1.toList

end Switch

/-- The value of a parameter.  It may be given as a blank, with two dashes in its
place. -/
inductive Given (α : Type) where
  | absent
  | blank
  | value (a : α)
  deriving DecidableEq, Repr

/-- What a command line asks for. -/
structure Request where
  list : Bool := false
  json : Bool := false
  watch : Bool := false
  verbose : Bool := false
  interval : Given Int := .absent
  root : Given Path := .absent
  config : Given Path := .absent
  deriving DecidableEq, Repr

/-- What is wrong with the value of a switch. -/
inductive ValueProblem where
  /-- A parameter has no value. -/
  | missing
  /-- A flag has one. -/
  | ignored (text : String)
  /-- An interval is not a whole number. -/
  | notWhole (text : String)
  /-- An interval is below one. -/
  | belowOne (text : String)
  deriving DecidableEq, Repr

/-- The wording of a problem. -/
def ValueProblem.message : ValueProblem → String
  | .missing => "expected one argument"
  | .ignored text => "ignored explicit argument " ++ Text.quoted text
  | .notWhole text => "invalid _positive_int value: " ++ Text.quoted text
  | .belowOne text => "must be at least 1, got " ++ text

/-- Why a command line is refused. -/
inductive Refusal where
  /-- A word abbreviates several switches. -/
  | ambiguous (word : String) (candidates : List String)
  /-- A switch has a bad value. -/
  | badValue (s : Switch) (p : ValueProblem)
  /-- Words are left over. -/
  | unrecognized (words : List String)
  deriving DecidableEq, Repr

/-- The wording of a refusal. -/
def Refusal.message : Refusal → String
  | .ambiguous word candidates =>
    "ambiguous option: " ++ word ++ " could match " ++ ", ".intercalate candidates
  | .badValue s p => "argument " ++ s.label ++ ": " ++ p.message
  | .unrecognized words => "unrecognized arguments: " ++ " ".intercalate words

/-- The number of at least one that a text consists of, which must not have too many
digits. -/
def positiveInt (text : String) : Except Fault Int :=
  if Text.digitLimit < Text.openingDigits text.toList then
    .error (.notWhole (.tooManyDigits (Text.openingDigits text.toList)))
  else
    match Text.whole? text.toList with
    | none => .error (.notWhole (.malformed text))
    | some n => if n < 1 then .error (.belowOne text) else .ok n

/-- A positive integer is what is read, it is at least one, and its digits are not too
many. -/
theorem positiveInt_eq_ok_iff {text : String} {n : Int} :
    positiveInt text = .ok n ↔
      Text.whole? text.toList = some n ∧ Text.openingDigits text.toList ≤ Text.digitLimit ∧
        1 ≤ n := by
  unfold positiveInt
  by_cases hd : Text.digitLimit < Text.openingDigits text.toList
  · rw [if_pos hd]
    simp [Nat.not_le.2 hd]
  rw [if_neg hd]
  cases Text.whole? text.toList with
  | none => simp
  | some k =>
    by_cases h : k < 1
    · simp [h]; omega
    · simp [h, Nat.not_lt.1 hd]; omega

end CommandLine
end PowerSupply
