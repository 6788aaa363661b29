/-
# Binding a snapshot to its constants

The owner of a snapshot supplies the integers that stand for the status and health
variants, as named constants of any kind of value.  Binding looks up all twelve and
checks that the snapshot has all fields that a refresh writes; after that a refresh
only assigns.

The first constant that is missing or no integer is reported, statuses before
healths (`ofSource_error`); missing fields are reported together, and only if all
constants are good.
-/

import PowerSupply.Fault
import PowerSupply.Snapshot

namespace PowerSupply

/-- Named constants of any kind of value. -/
abbrev ConstantSource := Json.Members

/-- The name of the constant for a status. -/
def Status.constantName (s : Status) : String := "BATTERY_STATUS_" ++ s.name

/-- The name of the constant for a health. -/
def Health.constantName (h : Health) : String := "BATTERY_HEALTH_" ++ h.name

namespace ConstantSource

/-- The customary constants: the variants counted from one. -/
def standard : ConstantSource :=
  (Status.all.zipIdx 1).map (fun x => (x.1.constantName, .int x.2)) ++
    (Health.all.zipIdx 1).map (fun x => (x.1.constantName, .int x.2))

/-- The names that binding looks up, in order. -/
def names : List String := Status.all.map (·.constantName) ++ Health.all.map (·.constantName)

/-- What is wrong with a constant. -/
def defect? (source : ConstantSource) (name : String) : Option BindingError :=
  match Json.Members.get? name source with
  | none => some (.missingConstant name)
  | some (.int _) => none
  | some v => some (.notAnInteger name v)

/-- The integer under a name, zero if there is none. -/
def integer (source : ConstantSource) (name : String) : Int :=
  match Json.Members.get? name source with
  | some (.int n) => n
  | _ => 0

end ConstantSource

/-- The integers that stand for the variants. -/
structure Constants where
  status : Status → Int
  health : Health → Int

namespace Constants

/-- The constants of a source, or what is wrong with the first bad one. -/
def ofSource (source : ConstantSource) : Except BindingError Constants :=
  match ConstantSource.names.findSome? source.defect? with
  | some e => .error e
  | none => .ok ⟨fun s => source.integer s.constantName, fun h => source.integer h.constantName⟩

/-- The label of the first status that a value stands for. -/
def statusLabel (c : Constants) (value : Json) : String :=
  match Status.all.find? fun s => value.equalsInt (c.status s) with
  | some s => s.label
  | none => "unknown"

/-- The label of the first health that a value stands for. -/
def healthLabel (c : Constants) (value : Json) : String :=
  match Health.all.find? fun h => value.equalsInt (c.health h) with
  | some h => h.label
  | none => "unknown"

/-- Checks that a snapshot has all fields that a refresh writes. -/
def checkFields (s : Snapshot) : Except BindingError Unit :=
  match s.missing with
  | [] => .ok ()
  | missing => .error (.missingFields s.kind.name (missing.map (·.name)))

/-- The constants of a source, for a snapshot that has all fields. -/
def bind (source : ConstantSource) (s : Snapshot) : Except BindingError Constants := do
  let c ← ofSource source
  checkFields s
  return c

end Constants

/-- The value that a write assigns. -/
def Write.value (c : Constants) : Write → Json
  | .status s => .int (c.status s)
  | .health h => .int (c.health h)
  | .acOnline v | .usbOnline v | .wirelessOnline v | .present v | .level v | .voltage v
  | .temperature v | .technology v => v

/-- The snapshot after a write. -/
def Snapshot.write (c : Constants) (s : Snapshot) (w : Write) : Snapshot :=
  s.set w.field.name (w.value c)

/-- The snapshot after several writes in order. -/
def Snapshot.writeAll (c : Constants) (s : Snapshot) (ws : List Write) : Snapshot :=
  ws.foldl (Snapshot.write c) s

/-- A write assigns its field. -/
theorem Snapshot.get?_write_self (c : Constants) (s : Snapshot) (w : Write) :
    (s.write c w).get? w.field.name = some (w.value c) := Snapshot.get?_set_self ..

/-- **A write leaves all other fields alone.** -/
theorem Snapshot.get?_write_of_ne (c : Constants) (s : Snapshot) (w : Write) {name : String}
    (h : name ≠ w.field.name) : (s.write c w).get? name = s.get? name :=
  Snapshot.get?_set_of_ne _ _ h

end PowerSupply
