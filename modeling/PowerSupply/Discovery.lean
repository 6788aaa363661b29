/-
# Discovery: which files to read

Discovery goes once through the devices of a supply root in ascending order of name
and looks at the type of each.

* A charger is listed if it has a readable `online` attribute.
* A battery is probed for the files of every quantity.  Each quantity is taken from
  the last battery that offers it (`Offer.or`), a level strategy as a whole and a
  voltage file with its divisor.
* Everything else is skipped with a note.

At the end the missing quantities are noted.
-/

import PowerSupply.Attribute
import PowerSupply.Note

namespace PowerSupply

/-- The files of one strategy for the charge level. -/
inductive LevelFiles where
  | capacity (path : Path)
  | charge (now full : Path)
  | energy (now full : Path)
  deriving DecidableEq, Repr

/-- A voltage file, and what its content is divided by to get millivolts. -/
structure VoltageFile where
  path : Path
  divisor : Int
  deriving DecidableEq, Repr

/-- What batteries offer: a file, or files that belong together, per quantity. -/
structure Offer where
  status : Option Path := none
  health : Option Path := none
  present : Option Path := none
  technology : Option Path := none
  level : Option LevelFiles := none
  voltage : Option VoltageFile := none
  temperature : Option Path := none
  deriving DecidableEq, Repr

namespace Offer

/-- The later offer where it has something, else the earlier one, quantity by
quantity. -/
def or (later earlier : Offer) : Offer where
  status := later.status.or earlier.status
  health := later.health.or earlier.health
  present := later.present.or earlier.present
  technology := later.technology.or earlier.technology
  level := later.level.or earlier.level
  voltage := later.voltage.or earlier.voltage
  temperature := later.temperature.or earlier.temperature

/-- The paths of an offer. -/
def paths (o : Offer) : AttributePaths :=
  let others : AttributePaths :=
    { status := o.status, health := o.health, present := o.present, technology := o.technology,
      voltage := o.voltage.map (·.path), temperature := o.temperature }
  match o.level with
  | none => others
  | some (.capacity p) => { others with capacity := some p }
  | some (.charge now full) => { others with chargeNow := some now, chargeFull := some full }
  | some (.energy now full) => { others with energyNow := some now, energyFull := some full }

/-- The voltage divisor of an offer. -/
def divisor (o : Offer) : Int :=
  match o.voltage with
  | some v => v.divisor
  | none => 1

end Offer

namespace Discovery

/-- The first readable file among the given names. -/
def firstReadable (t : FileTree) (device : Path) : List String → Except Fault (Option Path)
  | [] => .ok none
  | name :: names => do
    let p : Path := device / name
    if ← Attribute.isReadable t p then return some p
    firstReadable t device names

/-- A readable pair of a present and a full amount.  Both are looked at in any
case. -/
def readablePair (t : FileTree) (device : Path) (now full : String) :
    Except Fault (Option (Path × Path)) := do
  let n ← firstReadable t device [now]
  let f ← firstReadable t device [full]
  match n, f with
  | some n, some f => return some (n, f)
  | _, _ => return none

/-- The level strategy of a battery: its capacity, else a pair measured as charge,
else a pair measured as energy. -/
def probeLevel (t : FileTree) (device : Path) : Except Fault (Option LevelFiles) := do
  match ← firstReadable t device ["capacity"] with
  | some p => return some (.capacity p)
  | none =>
    match ← readablePair t device "charge_now" "charge_full" with
    | some (now, full) => return some (.charge now full)
    | none =>
      match ← readablePair t device "energy_now" "energy_full" with
      | some (now, full) => return some (.energy now full)
      | none => return none

/-- The voltage file of a battery: one in microvolts, else one in millivolts. -/
def probeVoltage (t : FileTree) (device : Path) : Except Fault (Option VoltageFile) := do
  match ← firstReadable t device ["voltage_now"] with
  | some p => return some ⟨p, 1000⟩
  | none =>
    match ← firstReadable t device ["batt_vol"] with
    | some p => return some ⟨p, 1⟩
    | none => return none

/-- Everything that a battery offers. -/
def probe (t : FileTree) (device : Path) : Except Fault Offer := do
  let status ← firstReadable t device ["status"]
  let health ← firstReadable t device ["health"]
  let present ← firstReadable t device ["present"]
  let technology ← firstReadable t device ["technology"]
  let level ← probeLevel t device
  let voltage ← probeVoltage t device
  let temperature ← firstReadable t device ["temp", "batt_temp"]
  return { status, health, present, technology, level, voltage, temperature }

/-- What was found so far. -/
structure Findings where
  chargers : List String := []
  offer : Offer := {}

/-- The findings after one more device. -/
def visit (t : FileTree) (root : Path) (found : Findings) (name : String) : Logged Findings := do
  let device : Path := root / name
  let type := SupplyType.ofText (← Attribute.read t (some (device / "type")))
  match type with
  | .ac | .usb | .wireless =>
    if ← .ofExcept (Attribute.isReadable t (device / "online")) then
      return { found with chargers := found.chargers ++ [name] }
    return found
  | .battery =>
    let offer ← .ofExcept (probe t device)
    return { found with offer := offer.or found.offer }
  | .unknown =>
    .emit (.skipped device)
    return found

/-- Notes what a configuration lacks and what it consists of. -/
def report (c : Configuration) : Logged Unit := do
  if c.chargers.isEmpty then .emit .noChargers
  c.paths.missing.forM fun q => .emit (.missing q)
  .emit (.resolved c)

/-- The configuration that findings amount to. -/
def configuration (root : Path) (found : Findings) : Configuration :=
  ⟨root, found.offer.paths, found.chargers, .int found.offer.divisor⟩

/-- The configuration of a supply root; a root that cannot be listed has an empty
one. -/
def run (t : FileTree) (root : Path) : Logged Configuration := do
  if root.hasNul then .fail .embeddedNul
  match t.list root with
  | .error e =>
    .emit (.unlisted root e)
    let c := Configuration.empty root
    report c
    return c
  | .ok names =>
    let found ← names.foldlM (visit t root) {}
    let c := configuration root found
    report c
    return c

end Discovery
end PowerSupply
