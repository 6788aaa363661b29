/-
# Scripted providers

A provider that follows a script instead of reading files, and counts its calls.
Its first discoveries may fail; after that it has one fixed configuration.  Each
refresh follows the steps that the script has for it, the last ones again once the
script is through.
-/

import PowerSupply.Provider

namespace PowerSupply

/-- A step of a scripted refresh: a write, or a failure. -/
inductive ScriptStep where
  | write (w : Write)
  | fail (text : String)

/-- What a scripted provider does. -/
structure Script where
  name : String := "scripted"
  configuration : Configuration
  /-- How many discoveries fail. -/
  failures : Nat := 0
  /-- The steps of each refresh. -/
  refreshes : List (List ScriptStep) := []

/-- How often each operation of a provider was called. -/
structure Calls where
  discovered : Nat := 0
  refreshed : Nat := 0
  closed : Nat := 0
  deriving DecidableEq, Repr

namespace Script

/-- Follows steps up to the first failure. -/
def follow : List ScriptStep → Refreshing Unit
  | [] => pure ()
  | .write w :: rest => do
    Refreshing.write w
    follow rest
  | .fail text :: _ => .fail (.provider text)

/-- The steps of the `n`-th refresh, counted from one. -/
def steps (s : Script) (n : Nat) : List ScriptStep :=
  s.refreshes[min n s.refreshes.length - 1]?.getD []

/-- The provider that follows a script. -/
def provider (s : Script) : Provider Calls where
  name := s.name
  discover calls :=
    ({ calls with discovered := calls.discovered + 1 },
      if calls.discovered < s.failures then .fail (.provider "discover failed")
      else pure s.configuration)
  refresh _ calls :=
    ({ calls with refreshed := calls.refreshed + 1 }, follow (s.steps (calls.refreshed + 1)))
  close calls := { calls with closed := calls.closed + 1 }

end Script
end PowerSupply
