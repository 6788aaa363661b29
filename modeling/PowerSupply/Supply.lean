/-
# Power supplies: type, status and health

The words that the kernel's power-supply class uses in its attribute files, and the
variants they stand for.

* The type is an exact word; several kinds of USB charger count as mains.
* The status is decided by the first letter alone.
* The health is decided by the first letter, except that words with `O` and `U` are
  told apart by the whole text.

`Status.ofText?` and `Health.ofText?` give nothing for a text outside the
vocabulary; such a text counts as unknown.
-/

namespace PowerSupply

/-- The kind of a power-supply device. -/
inductive SupplyType where
  | unknown
  | ac
  | usb
  | wireless
  | battery
  deriving DecidableEq, Repr

namespace SupplyType

/-- All types in order. -/
def all : List SupplyType := [.unknown, .ac, .usb, .wireless, .battery]

/-- The name of a type. -/
def name : SupplyType → String
  | .unknown => "UNKNOWN"
  | .ac => "AC"
  | .usb => "USB"
  | .wireless => "WIRELESS"
  | .battery => "BATTERY"

/-- The type that a word of a `type` attribute stands for. -/
def ofWord? (word : String) : Option SupplyType :=
  if word = "Battery" then some .battery
  else if word = "Mains" then some .ac
  else if word = "USB_DCP" then some .ac
  else if word = "USB_CDP" then some .ac
  else if word = "USB_ACA" then some .ac
  else if word = "USB" then some .usb
  else if word = "Wireless" then some .wireless
  else none

/-- The type that the content of a `type` attribute stands for; what is absent or
not listed is unknown. -/
def ofText (text : Option String) : SupplyType := (text.bind ofWord?).getD .unknown

/-- The types that can charge a battery, in order. -/
def chargers : List SupplyType := [.ac, .usb, .wireless]

/-- Whether a device of this type is a charger. -/
def isCharger (t : SupplyType) : Bool := chargers.contains t

end SupplyType

/-- The charge status of the battery. -/
inductive Status where
  | unknown
  | charging
  | discharging
  | notCharging
  | full
  deriving DecidableEq, Repr

namespace Status

/-- All variants in order. -/
def all : List Status := [.unknown, .charging, .discharging, .notCharging, .full]

/-- The name of a variant. -/
def name : Status → String
  | .unknown => "UNKNOWN"
  | .charging => "CHARGING"
  | .discharging => "DISCHARGING"
  | .notCharging => "NOT_CHARGING"
  | .full => "FULL"

/-- The name of a variant in small letters. -/
def label : Status → String
  | .unknown => "unknown"
  | .charging => "charging"
  | .discharging => "discharging"
  | .notCharging => "not_charging"
  | .full => "full"

/-- The status that a text stands for, by its first letter. -/
def ofText? (text : String) : Option Status :=
  match text.toList with
  | 'C' :: _ => some .charging
  | 'D' :: _ => some .discharging
  | 'F' :: _ => some .full
  | 'N' :: _ => some .notCharging
  | 'U' :: _ => some .unknown
  | _ => none

theorem mem_all (s : Status) : s ∈ all := by cases s <;> decide

end Status

/-- The health of the battery. -/
inductive Health where
  | unknown
  | good
  | overheat
  | dead
  | overVoltage
  | unspecifiedFailure
  | cold
  deriving DecidableEq, Repr

namespace Health

/-- All variants in order. -/
def all : List Health :=
  [.unknown, .good, .overheat, .dead, .overVoltage, .unspecifiedFailure, .cold]

/-- The name of a variant. -/
def name : Health → String
  | .unknown => "UNKNOWN"
  | .good => "GOOD"
  | .overheat => "OVERHEAT"
  | .dead => "DEAD"
  | .overVoltage => "OVER_VOLTAGE"
  | .unspecifiedFailure => "UNSPECIFIED_FAILURE"
  | .cold => "COLD"

/-- The name of a variant in small letters. -/
def label : Health → String
  | .unknown => "unknown"
  | .good => "good"
  | .overheat => "overheat"
  | .dead => "dead"
  | .overVoltage => "over_voltage"
  | .unspecifiedFailure => "unspecified_failure"
  | .cold => "cold"

/-- The health that a text stands for, by its first letter where one word has it and
by the whole text where several do. -/
def ofText? (text : String) : Option Health :=
  match text.toList with
  | 'C' :: _ => some .cold
  | 'D' :: _ => some .dead
  | 'G' :: _ => some .good
  | _ =>
    if text = "Overheat" then some .overheat
    else if text = "Over voltage" then some .overVoltage
    else if text = "Unspecified failure" then some .unspecifiedFailure
    else if text = "Unknown" then some .unknown
    else none

theorem mem_all (h : Health) : h ∈ all := by cases h <;> decide

end Health
end PowerSupply
