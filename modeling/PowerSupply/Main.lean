/-
# The command

Runs a command line on the files of the machine.  Before a run the settings file and
the supply root are surveyed into a file tree; after it the settings file is written
if the run made one.  A watch surveys the supply root again before each round and
goes on until the process is interrupted.
-/

import PowerSupply.CommandLine.Session
import Std.Time.Format

namespace PowerSupply
namespace Command

open CommandLine

/-- The part of the environment that a run depends on. -/
def environment : IO Environment := do
  let home := (← IO.getEnv "HOME").getD ""
  let configHome := (← IO.getEnv "XDG_CONFIG_HOME").getD ""
  let supplyRoot := (← IO.getEnv "BATTERYSTATE_POWER_SUPPLY_ROOT").getD ""
  return { home, configHome, supplyRoot }

/-- A tree with nothing but the working directory. -/
def emptyTree : IO FileTree := do
  let here := Path.ofText (← IO.currentDir).toString
  let tree : FileTree := ⟨[], here.names.reverse⟩
  return tree.change (.directory here)

/-- The directory at a path, unless the path names it only by going up. -/
def directoryAt (p : Path) : List FileTree.Change :=
  if p.names.getLast? = some ".." then [] else [.directory p]

/-- What stands at a path, with `depth` levels of what is below it.  Links are
followed; what cannot be read is left out. -/
def survey (depth : Nat) (p : Path) : IO (List FileTree.Change) := do
  let here ← IO.currentDir
  let file := here / p.text
  try
    if ← file.isDir then
      match depth with
      | 0 => return directoryAt p
      | depth + 1 =>
        let mut below := []
        for entry in ← file.readDir do
          below := below ++ (← survey depth (p / Path.ofText entry.fileName))
        return directoryAt p ++ below
    else if ← file.pathExists then
      return [.file p (← IO.FS.readBinFile file).toList]
    else return []
  catch _ => return []

/-- What stands at a path and at the paths above it. -/
def surveyWithParents (depth : Nat) (p : Path) : IO (List FileTree.Change) := do
  let mut found := []
  for n in List.range p.names.length do
    found := found ++ (← survey 0 ⟨p.anchor, p.names.take n⟩)
  return found ++ (← survey depth p)

/-- The number of levels below the supply root that a run looks at. -/
def supplyDepth : Nat := 2

/-- Writes the file at a path if it differs between two trees. -/
def store (before after : FileTree) (p : Path) : IO Unit := do
  match after.read p with
  | .error _ => pure ()
  | .ok bytes =>
    if (before.read p).toOption ≠ some bytes then
      let here ← IO.currentDir
      IO.FS.createDirAll (here / p.parent.text)
      IO.FS.writeBinFile (here / p.text) ⟨bytes.toArray⟩

/-- Shows an output. -/
def present (o : Output) : IO Unit := do
  let now ← Std.Time.PlainDateTime.now
  let time := now.format "uuuu-MM-dd HH:mm:ss,SSS"
  for d in o.diagnostics do
    (← IO.getStderr).putStr (d.text time)
  (← IO.getStdout).putStr o.printed
  (← IO.getStdout).flush

/-- The exit code of an ending; a fault is shown. -/
def conclude (e : Ending) : IO UInt32 := do
  match e with
  | .exit n => return n.toUInt32
  | .fault f =>
    (← IO.getStderr).putStr ("batterystate: " ++ f.message ++ "\n")
    return 1

/-- Shows rounds with pauses between them. -/
partial def watch (s : Session) : IO UInt32 := do
  let tree := (← emptyTree).changes (← surveyWithParents supplyDepth s.plan.root)
  let (s, _, output, done) := s.round tree
  present output
  match done, milliseconds? s.plan.interval with
  | .error f, _ => conclude (.fault f)
  | .ok (), none => conclude (.fault (.provider "the interval is no length of time"))
  | .ok (), some ms =>
    present (.text "\n")
    IO.sleep (min ms (UInt32.size - 1)).toUInt32
    watch s

/-- Does what a request asks for. -/
def serve (r : Request) : IO UInt32 := do
  let env ← environment
  let x : Surroundings := { environment := env }
  let empty ← emptyTree
  let before ← match settingsPlace? r env with
    | some p => pure (empty.changes (← surveyWithParents 0 p))
    | none => pure empty
  let (_, loaded) := loadSettings r env before
  let tree ← match loaded.result.bind (Plan.make r env) with
    | .ok plan => pure (before.changes (← surveyWithParents supplyDepth plan.root))
    | .error _ => pure before
  let (after, output, opening) := begin r x tree
  if let some p := settingsPlace? r env then store tree after p
  present output
  match opening with
  | .ended e => conclude e
  | .running s =>
    if r.list then
      let o := s.list after
      present o.output
      conclude o.ending
    else if r.watch then
      present (.text s.banner)
      watch s
    else
      let o := s.once after
      present o.output
      conclude o.ending

end Command
end PowerSupply

/-- Runs the command line. -/
def main (words : List String) : IO UInt32 := do
  match PowerSupply.CommandLine.parse words with
  | .ok r => PowerSupply.Command.serve r
  | .error _ =>
    let o := PowerSupply.CommandLine.run words {} .empty []
    PowerSupply.Command.present o.output
    PowerSupply.Command.conclude o.ending
