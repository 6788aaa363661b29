/-
# Refreshing a snapshot

A refresh reads the files of a configuration again and writes what they say: first
whether the battery is present, then its level, voltage, temperature, status, health
and technology, and last the chargers.

* Without a file for presence there is no battery, and the level is 100.
* A level from a pair is written only if both texts are there and the full amount is
  not zero; it is rounded down.
* Health and technology keep their old value where there is no text.
* A charger counts if it is online now, for the type that it has now; without any
  chargers in the configuration the machine runs on mains power.

The voltage is the nearest floating-point number to the quotient, truncated toward
zero (`quotient`).  Discovery resolves integer divisors only, and with them a divisor of
zero is the one fault that a refresh without NUL characters can have.  A configuration
from elsewhere may name any value as the divisor (`millivolts`): a floating-point number
divides as such, and what is no number is a fault.
-/

import PowerSupply.Attribute
import PowerSupply.Discovery
import PowerSupply.Number.Binary64
import PowerSupply.Provider

namespace PowerSupply
namespace Refresh

open Refreshing (reading write)

/-- Writes the level. -/
def level (t : FileTree) (paths : AttributePaths) : Refreshing Unit := do
  if paths.present.isNone then write (.level (.int 100))
  else if paths.capacity.isSome then
    write (.level (.int (← reading (Attribute.readInt t paths.capacity))))
  else
    match paths.levelPair with
    | none => pure ()
    | some (nowPath, fullPath) =>
      let nowText ← reading (Attribute.read t (some nowPath))
      let fullText ← reading (Attribute.read t (some fullPath))
      if nowText.getD "" = "" ∨ fullText.getD "" = "" then pure ()
      else
        let now := (← reading (Attribute.leadingInt? nowText)).getD 0
        let full := (← reading (Attribute.leadingInt? fullText)).getD 0
        if full = 0 then .emit (.note (.fullIsZero fullPath))
        else
          let level := Int.fdiv (now * 100) full
          write (.level (.int level))
          .emit (.note (.computedLevel level now full))

/-- The quotient of two integers as a floating-point number, truncated toward
zero. -/
def quotient (a b : Int) : Except Fault Int :=
  if b = 0 then .error .divisionByZero
  else
    match (Binary64.ofQuotient a b).trunc? with
    | some n => .ok n
    | none => .error .quotientTooLarge

/-- A floating-point number truncated toward zero. -/
def truncated : Binary64 → Except Fault Int
  | .nan => .error .nanTruncated
  | x =>
    match x.trunc? with
    | some n => .ok n
    | none => .error .infinityTruncated

/-- A voltage in millivolts: what was read, divided by a divisor and truncated toward
zero.  An integer divides exactly, with one rounding of the quotient; before a
floating-point number divides, what was read is rounded too. -/
def millivolts (raw : Int) : Json → Except Fault Int
  | .int d => quotient raw d
  | .bool b => quotient raw (if b then 1 else 0)
  | .float x =>
    if x.isZero then .error .floatDivisionByZero else truncated ((Binary64.ofInt raw).div x)
  | v => .error (.notDivisible "int" v.kindName)

@[simp] theorem millivolts_int (raw d : Int) : millivolts raw (.int d) = quotient raw d := rfl

/-- Which types of charger are online. -/
structure Online where
  ac : Bool := false
  usb : Bool := false
  wireless : Bool := false
  deriving DecidableEq, Repr

/-- What is online after one more charger. -/
def charger (t : FileTree) (c : Configuration) (online : Online) (name : String) :
    Refreshing Online := do
  let state ← reading (Attribute.read t (some (c.chargerFile name "online")))
  if !Attribute.isOn state then return online
  let type ← reading (Attribute.read t (some (c.chargerFile name "type")))
  match SupplyType.ofText type with
  | .ac => return { online with ac := true }
  | .usb => return { online with usb := true }
  | .wireless => return { online with wireless := true }
  | _ =>
    .emit (.note (.unclearCharger name))
    return online

/-- Writes which chargers are online. -/
def chargers (t : FileTree) (c : Configuration) : Refreshing Unit := do
  let found ← c.chargers.foldlM (charger t c) {}
  let online := if c.chargers.isEmpty then { found with ac := true } else found
  write (.acOnline (.bool online.ac))
  write (.usbOnline (.bool online.usb))
  write (.wirelessOnline (.bool online.wireless))

/-- Writes the status; without a text it is unknown. -/
def status (t : FileTree) (paths : AttributePaths) : Refreshing Unit := do
  let text := (← reading (Attribute.read t paths.status)).getD ""
  if text = "" then write (.status .unknown)
  else write (.status (← reading (Attribute.decodeStatus text)))

/-- Writes the health, if there is a text. -/
def health (t : FileTree) (paths : AttributePaths) : Refreshing Unit := do
  let text := (← reading (Attribute.read t paths.health)).getD ""
  if text = "" then pure ()
  else write (.health (← reading (Attribute.decodeHealth text)))

/-- Writes the technology, if there is a text. -/
def technology (t : FileTree) (paths : AttributePaths) : Refreshing Unit := do
  let text := (← reading (Attribute.read t paths.technology)).getD ""
  if text = "" then pure () else write (.technology (.str text))

/-- Reads the files of a configuration and writes what they say. -/
def run (t : FileTree) (c : Configuration) : Refreshing Unit := do
  write (.present (.bool (← reading (Attribute.readFlag t c.paths.present))))
  level t c.paths
  let raw ← reading (Attribute.readInt t c.paths.voltage)
  write (.voltage (.int (← .ofExcept (millivolts raw c.voltageDivisor))))
  write (.temperature (.int (← reading (Attribute.readInt t c.paths.temperature))))
  status t c.paths
  health t c.paths
  technology t c.paths
  chargers t c

end Refresh

/-- The provider that reads a supply root of a file tree.  It changes nothing. -/
def Provider.ofRoot (root : Path) : Provider FileTree where
  name := "sysfs"
  discover t := (t, Discovery.run t root)
  refresh c t := (t, Refresh.run t c)
  close t := t

end PowerSupply
