/-
# Providers of battery and charger state

A provider works in some world, a file tree or a script, that it may change.  It
discovers a configuration, and it refreshes a snapshot by announcing what it notes
and what it writes, in order; a refresh that stops with a fault has still made the
writes that it announced before.
-/

import PowerSupply.Note
import PowerSupply.Snapshot

namespace PowerSupply

/-- What a refresh announces: a note for the log, or a write to the snapshot. -/
inductive Action where
  | note (n : Note)
  | write (w : Write)

namespace Action

/-- The notes among announcements. -/
def notes (as : List Action) : List Note :=
  as.filterMap fun
    | .note n => some n
    | .write _ => none

/-- The writes among announcements. -/
def writes (as : List Action) : List Write :=
  as.filterMap fun
    | .note _ => none
    | .write w => some w

@[simp] theorem notes_append (as bs : List Action) : notes (as ++ bs) = notes as ++ notes bs :=
  List.filterMap_append

@[simp] theorem writes_append (as bs : List Action) : writes (as ++ bs) = writes as ++ writes bs :=
  List.filterMap_append

end Action

/-- A refresh, which announces actions and may stop with a fault. -/
abbrev Refreshing (α : Type) := Trace Action Fault α

namespace Refreshing

/-- A reading within a refresh. -/
def reading {α : Type} (x : Logged α) : Refreshing α := x.mapEvents .note

/-- A write within a refresh. -/
def write (w : Write) : Refreshing Unit := .emit (.write w)

end Refreshing

/-- A source of battery and charger state in worlds of type `ω`. -/
structure Provider (ω : Type) where
  name : String
  discover : ω → ω × Logged Configuration
  refresh : Configuration → ω → ω × Refreshing Unit
  close : ω → ω

/-- A refresh by what was discovered last.  Before a discovery it is a fault. -/
def Provider.refreshLast {ω : Type} (p : Provider ω) (last : Option Configuration) (w : ω) :
    ω × Refreshing Unit :=
  match last with
  | some c => p.refresh c w
  | none => (w, .fail .notDiscovered)

end PowerSupply
