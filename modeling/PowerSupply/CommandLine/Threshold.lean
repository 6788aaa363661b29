/-
# Which notes are shown

The log shows the notes from a threshold on.  The threshold is given by the name of a
level, in capital or small letters; a name that is no level stands for warnings.  Two
names denote something else instead, the layout of a log line and the table of the styles
of layouts, and are refused.
-/

import PowerSupply.Note

namespace PowerSupply
namespace CommandLine

/-- The capitals of a letter, as far as they can occur in a name: of the ASCII letters,
of the two others whose capital is one of ASCII, and of the two that join `s` and `t`. -/
def capitals (c : Char) : List Char :=
  if c = 'ı' then ['I'] else if c = 'ſ' then ['S']
  else if c = 'ﬅ' ∨ c = 'ﬆ' then ['S', 'T'] else [c.toUpper]

/-- The rank that is shown unless something else is asked for. -/
def usualThreshold : Nat := Level.warning.rank

/-- The layout of a log line. -/
def layout : String := "%(levelname)s:%(name)s:%(message)s"

/-- The table of the styles of layouts, as it is shown. -/
def layoutStyles : String :=
  "\x7b'%': (<class 'logging.PercentStyle'>, '" ++ layout ++ "'), " ++
    "'\x7b': (<class 'logging.StrFormatStyle'>, " ++
    "'\x7blevelname\x7d:\x7bname\x7d:\x7bmessage\x7d'), " ++
    "'$': (<class 'logging.StringTemplateStyle'>, " ++
    "'$\x7blevelname\x7d:$\x7bname\x7d:$\x7bmessage\x7d')\x7d"

/-- The threshold that the name of a level stands for. -/
def thresholdOf (name : String) : Except Fault Nat :=
  let name := String.ofList (name.toList.flatMap capitals)
  if name = "CRITICAL" ∨ name = "FATAL" then .ok 50
  else if name = "ERROR" then .ok Level.error.rank
  else if name = "WARNING" ∨ name = "WARN" then .ok Level.warning.rank
  else if name = "INFO" then .ok Level.info.rank
  else if name = "DEBUG" then .ok Level.debug.rank
  else if name = "NOTSET" then .ok 0
  else if name = "BASIC_FORMAT" then .error (.unknownLevel (.text layout))
  else if name = "_STYLES" then .error (.unknownLevel (.other layoutStyles))
  else .ok usualThreshold

/-- The notes from a threshold on. -/
def shown (threshold : Nat) (notes : List Note) : List Note :=
  notes.filter fun n => threshold ≤ n.level.rank

/-- Every note is shown from the rank of debugging notes on. -/
theorem shown_debug (notes : List Note) : shown Level.debug.rank notes = notes := by
  refine List.filter_eq_self.2 fun n _ => ?_
  cases n.level <;> decide

end CommandLine
end PowerSupply
