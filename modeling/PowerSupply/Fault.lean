/-
# Faults

Everything that can stop an operation, each with the account of it that is shown.
File errors that an operation reports and survives are not faults; they appear in
the log (`PowerSupply.Note`).
-/

import PowerSupply.FileTree.Basic
import PowerSupply.Json.Display
import PowerSupply.Text.Integer
import PowerSupply.Text.Utf8

namespace PowerSupply

/-- Why a snapshot and a source of constants cannot be bound. -/
inductive BindingError where
  | missingConstant (name : String)
  | notAnInteger (name : String) (value : Json)
  | missingFields (className : String) (fields : List String)

/-- The account of a failed binding. -/
def BindingError.message : BindingError → String
  | .missingConstant name => "Unable to find constant " ++ name
  | .notAnInteger name value =>
    "Constant " ++ name ++ " is not an integer: " ++ value.literal
  | .missingFields className fields =>
    "Snapshot " ++ className ++ " is missing field(s): " ++ ", ".intercalate fields

/-- Why no integer can be made of a text. -/
inductive NumeralDefect where
  /-- The text is not a whole number. -/
  | malformed (text : String)
  /-- The text has more digits than an integer is made of. -/
  | tooManyDigits (count : Nat)

/-- What is wrong with a text that is not a whole number, shown in at most two
hundred characters. -/
def notWholeShown (text : String) : String := String.ofList ((Text.quoted text).toList.take 200)

/-- The account of a text that no integer can be made of. -/
def NumeralDefect.message : NumeralDefect → String
  | .malformed text => "invalid literal for int() with base 10: " ++ notWholeShown text
  | .tooManyDigits count =>
    "Exceeds the limit (" ++ toString Text.digitLimit ++
      " digits) for integer string conversion: value has " ++ toString count ++
      " digits; use sys.set_int_max_str_digits() to increase the limit"

/-- What the name of a logging level denotes where it denotes no level. -/
inductive LevelDefect where
  /-- A text. -/
  | text (content : String)
  /-- Something else, which is shown like this. -/
  | other (shown : String)

/-- The account of a name that denotes no level. -/
def LevelDefect.message : LevelDefect → String
  | .text content => "Unknown level: " ++ Text.quoted content
  | .other shown => "Level not an integer or a valid string: " ++ shown

/-- A reason for an operation to stop. -/
inductive Fault where
  /-- A snapshot and its constants cannot be bound. -/
  | binding (e : BindingError)
  /-- The voltage divisor is zero. -/
  | divisionByZero
  /-- The voltage divisor is a floating-point zero. -/
  | floatDivisionByZero
  /-- A quotient is beyond the floating-point range. -/
  | quotientTooLarge
  /-- There is no integer for an infinity. -/
  | infinityTruncated
  /-- There is no integer for what is not a number. -/
  | nanTruncated
  /-- A path contains the NUL character. -/
  | embeddedNul
  /-- The file system refuses a request that has to succeed. -/
  | file (e : FileError) (path : Path)
  /-- A provider failed. -/
  | provider (text : String)
  /-- A settings file is not UTF-8. -/
  | undecodable (d : Utf8.Defect)
  /-- The supply root in the settings is not a text. -/
  | rootNotText (kind : String)
  /-- There is no home directory to keep the settings in. -/
  | noHome
  /-- The path of the settings file was left blank. -/
  | blankSettingsPath
  /-- The name of a logging level denotes something else. -/
  | unknownLevel (d : LevelDefect)
  /-- No integer can be made of a text. -/
  | notWhole (d : NumeralDefect)
  /-- A whole number is below one. -/
  | belowOne (text : String)
  /-- A field of a value that never changes was to be assigned. -/
  | frozenField (name : String)
  /-- A text to be decoded is absent. -/
  | absentText
  /-- A path to be looked at is absent. -/
  | absentPath
  /-- Fewer than no bytes were to be read. -/
  | negativeSize
  /-- The number of bytes to be read is beyond a machine word. -/
  | sizeBeyondWord
  /-- The number of bytes to be read is beyond the longest text. -/
  | sizeBeyondText
  /-- The number of bytes to be read is beyond what memory holds. -/
  | outOfMemory
  /-- A number of bytes is of this kind, and not an integer. -/
  | sizeNotWhole (kind : String)
  /-- A report was asked for before the constants were bound. -/
  | notBound
  /-- A report or a refresh was asked for before discovery. -/
  | notDiscovered
  /-- A report lacks a member. -/
  | missingMember (key : String)
  /-- A value of the first kind cannot be divided by one of the second. -/
  | notDivisible (dividend divisor : String)
  /-- A name of this kind is not a text. -/
  | notText (kind : String)
  /-- A value of this kind has no members that can be named. -/
  | noMembers (kind : String)
  /-- A value of this kind has no keys to be laid over another value. -/
  | noKeys (kind : String)
  /-- A value of this kind cannot be searched for a key. -/
  | notSearchable (kind : String)
  /-- A text was to be given a member. -/
  | fixedText

namespace Fault

/-- The account of a fault. -/
def message : Fault → String
  | .binding e => e.message
  | .divisionByZero => "division by zero"
  | .floatDivisionByZero => "float division by zero"
  | .quotientTooLarge => "integer division result too large for a float"
  | .infinityTruncated => "cannot convert float infinity to integer"
  | .nanTruncated => "cannot convert float NaN to integer"
  | .embeddedNul => "embedded null byte"
  | .file e path => e.message path
  | .provider text => text
  | .undecodable d => d.message
  | .rootNotText kind => "expected str, bytes or os.PathLike object, not " ++ kind
  | .noHome => "Could not determine home directory."
  | .blankSettingsPath => "'list' object has no attribute 'exists'"
  | .unknownLevel d => d.message
  | .notWhole d => d.message
  | .belowOne text => "must be at least 1, got " ++ text
  | .frozenField name => "cannot assign to field " ++ Text.quoted name
  | .absentText => "'NoneType' object is not subscriptable"
  | .absentPath => "'NoneType' object has no attribute 'is_file'"
  | .negativeSize => "read length must be non-negative or -1"
  | .sizeBeyondWord => "cannot fit 'int' into an index-sized integer"
  | .sizeBeyondText => "byte string is too large"
  | .outOfMemory => ""
  | .sizeNotWhole kind => "argument should be integer or None, not '" ++ kind ++ "'"
  | .notBound => "'NoneType' object has no attribute 'status_name'"
  | .notDiscovered => "'NoneType' object has no attribute 'paths'"
  | .missingMember key => Text.quoted key
  | .notDivisible dividend divisor =>
    "unsupported operand type(s) for /: '" ++ dividend ++ "' and '" ++ divisor ++ "'"
  | .notText kind => "'" ++ kind ++ "' object has no attribute 'replace'"
  | .noMembers "list" => "list indices must be integers or slices, not str"
  | .noMembers "str" => "string indices must be integers, not 'str'"
  | .noMembers kind => "'" ++ kind ++ "' object is not subscriptable"
  | .noKeys kind => "'" ++ kind ++ "' object has no attribute 'items'"
  | .notSearchable kind => "argument of type '" ++ kind ++ "' is not iterable"
  | .fixedText => "'str' object does not support item assignment"

end Fault
end PowerSupply
