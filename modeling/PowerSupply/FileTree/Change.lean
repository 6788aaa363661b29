/-
# Changes to a file tree

Two kinds of change.  Requests go through paths and can be refused: `write` creates
or overwrites a file, also through a dangling link, and `makeDirectory` and
`makeDirectories` create directories.  A `Change` is what happens to a tree from
outside, between two runs of the program or between two refreshes.  It first takes
away what is at a path itself, a link and not what the link leads to, and may then put
something there, with the directories above it.
-/

import PowerSupply.FileTree.Basic
import PowerSupply.Text.Utf8

namespace PowerSupply
namespace FileTree

/-- Gives the file that a path leads to new content, creating it if need be. -/
def write (t : FileTree) (p : Path) (bytes : List UInt8) : Except FileError FileTree := do
  let l ← t.locate p .write
  match t.node? l with
  | none => .ok (t.put l (.file bytes))
  | some (.file _) => .ok (t.put l (.file bytes))
  | some .directory => .error .isDirectory
  | some (.link _) => .error .tooManyLinks

/-- Creates one directory.  Whatever stands at the path already, even a dangling
link, is in the way.  A path that is too long is refused before it is followed. -/
def makeDirectory (t : FileTree) (p : Path) : Except FileError FileTree := do
  match p.names.getLast? with
  | none => .error .exists
  | some name =>
    if pathLimit ≤ p.text.utf8ByteSize then .error .nameTooLong
    let l ← t.locate p.parent
    match t.node? l with
    | some .directory =>
      if name = ".." then .error .exists
      else if nameLimit < name.utf8ByteSize then .error .nameTooLong
      else if (t.node? (name :: l)).isSome then .error .exists
      else .ok (t.put (name :: l) .directory)
    | some _ => .error .notDirectory
    | none => .error .noEntry

/-- Creates the directory `anchor/…` whose names are given innermost first, after
creating the directories above it where they are missing.  A directory that exists
is welcome; whether there is one may be impossible to tell, and then that is the
refusal.  On a refusal the directories made so far remain. -/
def makeDirectoriesAt (anchor : Anchor) : List String → FileTree →
    FileTree × Except (FileError × Path) Unit
  | names, t =>
    let p : Path := ⟨anchor, names.reverse⟩
    let settle (t : FileTree) (e : FileError) : FileTree × Except (FileError × Path) Unit :=
      (t, match t.stat p with
        | .ok .directory => .ok ()
        | .error .nameTooLong => .error (.nameTooLong, p)
        | _ => .error (e, p))
    match t.makeDirectory p with
    | .ok t' => (t', .ok ())
    | .error .noEntry =>
      match names with
      | [] => (t, .error (.noEntry, p))
      | _ :: up =>
        match makeDirectoriesAt anchor up t with
        | (t', .error e) => (t', .error e)
        | (t', .ok ()) =>
          match t'.makeDirectory p with
          | .ok t'' => (t'', .ok ())
          | .error .noEntry => (t', .error (.noEntry, p))
          | .error e => settle t' e
    | .error e => settle t e

/-- Creates a directory and the directories above it, as far as they are missing. -/
def makeDirectories (t : FileTree) (p : Path) : FileTree × Except (FileError × Path) Unit :=
  makeDirectoriesAt p.anchor p.names.reverse t

/-- Something that happens to a tree from outside. -/
inductive Change where
  /-- A file with the given bytes takes the place of what was there. -/
  | file (path : Path) (bytes : List UInt8)
  /-- A directory takes the place of a file or link; one that is there stays. -/
  | directory (path : Path)
  /-- A symbolic link takes the place of what was there. -/
  | link (path : Path) (target : LinkTarget)
  /-- What is at the path disappears, with everything in it. -/
  | remove (path : Path)
  /-- A directory, which may also be one that a link leads to, and in it files with one
  line of text in place of what bore the names of the attributes. -/
  | device (path : Path) (attributes : List (String × String))

/-- The location of a path itself: links above it are followed, a link at it is
not. -/
def place? (t : FileTree) (p : Path) : Option Location := do
  let name ← p.names.getLast?
  match t.locate p.parent with
  | .ok l => some (name :: l)
  | .error _ => none

/-- The same tree with nothing at a path itself, nor below it. -/
def clear (t : FileTree) (p : Path) : FileTree :=
  match t.place? p with
  | some l => t.erase l
  | none => t

/-- Puts a node at a path in place of what was there, with the directories above.  The
place is cleared before the directories are made, for a link in it may have been the
way to the place. -/
def replace (t : FileTree) (p : Path) (n : Node) : FileTree :=
  let t' := ((t.clear p).makeDirectories p.parent).1
  match t'.place? p with
  | some l => (t'.erase l).put l n
  | none => t'

/-- Makes sure that there is a directory at a path itself. -/
def keepDirectory (t : FileTree) (p : Path) : FileTree :=
  match (t.place? p).bind t.node? with
  | some .directory => t
  | _ => ((t.clear p).makeDirectories p).1

/-- The tree after a change from outside. -/
def change (t : FileTree) : Change → FileTree
  | .file p bytes => t.replace p (.file bytes)
  | .directory p => t.keepDirectory p
  | .link p target => t.replace p (.link target)
  | .remove p => t.clear p
  | .device p attributes =>
    attributes.foldl (fun t a => t.replace (p / a.1) (.file (Utf8.encode (a.2 ++ "\n"))))
      (t.makeDirectories p).1

/-- The tree after several changes in order. -/
def changes (t : FileTree) (cs : List Change) : FileTree := cs.foldl change t

/-- A tree with an empty working directory below the root. -/
def empty : FileTree := ⟨[(["work"], .directory)], ["work"]⟩

end FileTree
end PowerSupply
