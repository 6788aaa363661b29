/-
# Settings

Settings are nested objects with defaults.  They are kept in a JSON file, whose
members are merged over the defaults, so that a file needs to hold only what
differs.

Loading settings from a path where there is nothing puts the defaults there.  A file
that cannot be read, is not JSON or is no object is noted and the defaults are used;
only bytes that are not UTF-8 are a fault.  A file that exists is never changed by
loading.

`overlay` lays any value over any other one; between objects it is their merge.
-/

import PowerSupply.FileTree.Change
import PowerSupply.Json.Merge
import PowerSupply.Json.Printer
import PowerSupply.Note

namespace PowerSupply

/-- The part of the environment that settings depend on; what is unset is empty. -/
structure Environment where
  home : String := ""
  configHome : String := ""
  supplyRoot : String := ""
  deriving DecidableEq, Repr

/-- Settings as the members of an object. -/
abbrev Settings := Json.Members

namespace Settings

/-- The supply root by default. -/
def defaultRoot : String := "/sys/class/power_supply"

/-- The settings by default. -/
def defaults : Settings :=
  [("power_supply", .obj [("root", .str defaultRoot)]),
   ("polling", .obj [("interval_seconds", .int 30)]),
   ("logging", .obj [("level", .str "WARNING")])]

/-- A machine without supplies: an empty working directory, and the supply root at its
default place, empty too. -/
def bareMachine : FileTree := FileTree.empty.change (.directory (Path.ofText defaultRoot))

/-- Whether one text occurs in another. -/
def occurs (part : List Char) : List Char → Bool
  | [] => part.isEmpty
  | c :: r => part.isPrefixOf (c :: r) || occurs part r

/-- `upper` laid over `base`, where either may be no object: then there are no keys to lay
over, or the first of them finds no place. -/
def overlay (base upper : Json) : Except Fault Json :=
  match upper, base with
  | .obj [], _ => .ok base
  | .obj _, .obj _ => .ok (base.merge upper)
  | .obj _, .arr _ => .error (.noMembers base.kindName)
  | .obj ((key, _) :: _), .str s =>
    .error (if occurs key.toList s.toList then .noMembers base.kindName else .fixedText)
  | .obj _, _ => .error (.notSearchable base.kindName)
  | _, _ => .error (.noKeys upper.kindName)

/-- The value under a dotted key, or a value to fall back on. -/
def get (s : Settings) (key : String) (fallback : Json := .null) : Json :=
  (Json.obj s).lookupDotted key fallback

/-- The home directory, without slashes at its end. -/
def homeDirectory (env : Environment) : Except Fault Path :=
  let home := (env.home.toList.reverse.dropWhile (· = '/')).reverse
  if home.head? = some '~' then .error .noHome
  else if home = [] then .ok ⟨.root, []⟩
  else .ok (Path.ofText (String.ofList home))

/-- The directory of the settings file. -/
def directory (env : Environment) : Except Fault Path :=
  if env.configHome = "" then do
    return (← homeDirectory env) / ".config" / "batterystate"
  else .ok (Path.ofText env.configHome / "batterystate")

/-- The path of the settings file, whose directory is made if need be. -/
def prepare (env : Environment) (t : FileTree) : FileTree × Except Fault Path :=
  match directory env with
  | .error f => (t, .error f)
  | .ok dir =>
    match t.makeDirectories dir with
    | (t, .ok ()) => (t, .ok (dir / "config.json"))
    | (t, .error (e, p)) => (t, .error (.file e p))

/-- A given path, or the path of the settings file. -/
def resolve (env : Environment) (t : FileTree) (path : Option Path) : FileTree × Except Fault Path :=
  match path with
  | some p => (t, .ok p)
  | none => prepare env t

/-- Whether there is something at a path.  A path that cannot be followed leads to
nothing, but a name that is too long is a fault. -/
def isThere (t : FileTree) (p : Path) : Except Fault Bool :=
  if p.hasNul then .ok false
  else
    match t.stat p with
    | .ok _ => .ok true
    | .error .nameTooLong => .error (.file .nameTooLong p)
    | .error _ => .ok false

/-- A text with every line end as a line feed. -/
def lineFeeds : List Char → List Char
  | '\r' :: '\n' :: r => '\n' :: lineFeeds r
  | '\r' :: r => '\n' :: lineFeeds r
  | c :: r => c :: lineFeeds r
  | [] => []

/-- The settings that a file holds. -/
def readFile (t : FileTree) (p : Path) : Logged Settings :=
  match t.read p with
  | .error e => do
    .emit (.settingsUnusable p (.file e))
    return defaults
  | .ok bytes =>
    match Utf8.decode bytes with
    | .error d => .fail (.undecodable d)
    | .ok text =>
      let text := lineFeeds text.toList
      match Json.read text with
      | .error d => do
        .emit (.settingsUnusable p (.json d text))
        return defaults
      | .ok (.obj own) => pure (Json.mergeMembers defaults own)
      | .ok _ => do
        .emit (.settingsIgnored p)
        return defaults

/-- The text of a settings file. -/
def fileText (s : Settings) : String := (Json.obj s).indented

/-- Puts settings into a file, and says whether that succeeded. -/
def saveFile (t : FileTree) (p : Path) (s : Settings) : FileTree × Logged Bool :=
  if p.hasNul then (t, .fail .embeddedNul)
  else
    match t.write p (Utf8.encode (fileText s)) with
    | .ok t => (t, pure true)
    | .error e => (t, do
      .emit (.settingsUnsaved p e)
      return false)

/-- Loads settings from a path, which is given the defaults if it is free. -/
def loadFile (t : FileTree) (p : Path) : FileTree × Logged Settings :=
  match isThere t p with
  | .error f => (t, .fail f)
  | .ok true => (t, readFile t p)
  | .ok false =>
    let (t, saved) := saveFile t p defaults
    (t, do
      let _ ← saved
      return defaults)

/-- Loads settings from a given path or from the settings file. -/
def load (env : Environment) (t : FileTree) (path : Option Path) : FileTree × Logged Settings :=
  match resolve env t path with
  | (t, .error f) => (t, .fail f)
  | (t, .ok p) => loadFile t p

/-- Saves settings to a given path or to the settings file. -/
def save (env : Environment) (t : FileTree) (s : Settings) (path : Option Path) :
    FileTree × Logged Bool :=
  match resolve env t path with
  | (t, .error f) => (t, .fail f)
  | (t, .ok p) => saveFile t p s

/-- The supply root: that of the environment, else that of the settings. -/
def supplyRoot (env : Environment) (s : Settings) : Except Fault Path :=
  if env.supplyRoot = "" then
    match s.get "power_supply.root" (.str defaultRoot) with
    | .str root => .ok (Path.ofText root)
    | v => .error (.rootNotText v.kindName)
  else .ok (Path.ofText env.supplyRoot)

end Settings
end PowerSupply
