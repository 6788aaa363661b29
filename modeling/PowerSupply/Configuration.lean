/-
# Configurations: what discovery resolved

A configuration names the files from which a refresh reads: one path per battery
quantity, where a quantity without a path has no file, and the chargers by name.

The charge level has three possible sources, the capacity alone or a pair of a
present and a full amount, measured as charge or as energy.  `levelSource` takes the
first of them that is complete.
-/

import PowerSupply.Json.Basic
import PowerSupply.Path

namespace PowerSupply

/-- Where the charge level comes from. -/
inductive LevelSource where
  | capacity
  | charge
  | energy
  deriving DecidableEq, Repr

/-- The name of a level source. -/
def LevelSource.name : LevelSource → String
  | .capacity => "capacity"
  | .charge => "charge"
  | .energy => "energy"

/-- The attribute files of the battery, one per quantity. -/
structure AttributePaths where
  status : Option Path := none
  health : Option Path := none
  present : Option Path := none
  capacity : Option Path := none
  chargeNow : Option Path := none
  chargeFull : Option Path := none
  energyNow : Option Path := none
  energyFull : Option Path := none
  voltage : Option Path := none
  temperature : Option Path := none
  technology : Option Path := none
  deriving DecidableEq, Repr

namespace AttributePaths

/-- The paths under the names of their quantities, in order. -/
def entries (p : AttributePaths) : List (String × Option Path) :=
  [("status", p.status), ("health", p.health), ("present", p.present), ("capacity", p.capacity),
   ("charge_now", p.chargeNow), ("charge_full", p.chargeFull), ("energy_now", p.energyNow),
   ("energy_full", p.energyFull), ("voltage", p.voltage), ("temperature", p.temperature),
   ("technology", p.technology)]

/-- The source of the level: the capacity, else a complete pair. -/
def levelSource (p : AttributePaths) : Option LevelSource :=
  if p.capacity.isSome then some .capacity
  else if p.chargeNow.isSome && p.chargeFull.isSome then some .charge
  else if p.energyNow.isSome && p.energyFull.isSome then some .energy
  else none

/-- The files of the present and the full amount, where the level comes from a
pair. -/
def levelPair (p : AttributePaths) : Option (Path × Path) :=
  match p.levelSource with
  | some .charge => do return (← p.chargeNow, ← p.chargeFull)
  | some .energy => do return (← p.energyNow, ← p.energyFull)
  | _ => none

/-- A quantity of the battery that a configuration may have no file for. -/
inductive Quantity where
  | status
  | health
  | present
  | level
  | voltage
  | temperature
  | technology
  deriving DecidableEq, Repr

namespace Quantity

/-- All quantities in order. -/
def all : List Quantity :=
  [.status, .health, .present, .level, .voltage, .temperature, .technology]

/-- The name of a quantity. -/
def name : Quantity → String
  | .status => "status"
  | .health => "health"
  | .present => "present"
  | .level => "level"
  | .voltage => "voltage"
  | .temperature => "temperature"
  | .technology => "technology"

end Quantity

/-- Whether a quantity has a file to be read from. -/
def has (p : AttributePaths) : Quantity → Bool
  | .status => p.status.isSome
  | .health => p.health.isSome
  | .present => p.present.isSome
  | .level => p.levelSource.isSome
  | .voltage => p.voltage.isSome
  | .temperature => p.temperature.isSome
  | .technology => p.technology.isSome

/-- The quantities without a file, in order. -/
def missing (p : AttributePaths) : List Quantity := Quantity.all.filter fun q => !p.has q

end AttributePaths

/-- Everything that discovery resolved. -/
structure Configuration where
  root : Path
  paths : AttributePaths := {}
  chargers : List String := []
  /-- What the voltage is divided by to get millivolts; discovery resolves an integer. -/
  voltageDivisor : Json := .int 1
  deriving Repr

namespace Configuration

/-- The configuration for a root that cannot be listed. -/
def empty (root : Path) : Configuration := ⟨root, {}, [], .int 1⟩

/-- The path of an attribute file of a charger. -/
def chargerFile (c : Configuration) (charger file : String) : Path :=
  c.root / charger / file

end Configuration
end PowerSupply
