/-
# File trees

A tree assigns nodes (directories, files with their bytes, symbolic links) to
locations, and has a working directory.  A location is the list of names from the
innermost out, so that the parent of a location is its tail.

`walk` finds the location that a path leads to.  It follows every link, also in the
last place, and gives up after forty of them; a link is replaced by the components
of its target.  The last location may be free, which is how new files are made;
every location before it has to be a directory.

The readings (`read`, `list`, `stat`) never change a tree.  `names` lists a
directory without duplicates in ascending order (`pairwise_names`).
-/

import PowerSupply.Path
import PowerSupply.Text.Quoted

namespace PowerSupply

/-- Why the file system refuses a request. -/
inductive FileError where
  | noEntry
  | exists
  | notDirectory
  | isDirectory
  | nameTooLong
  | tooManyLinks
  deriving DecidableEq, Repr

namespace FileError

/-- The customary number of an error. -/
def number : FileError → Nat
  | .noEntry => 2
  | .exists => 17
  | .notDirectory => 20
  | .isDirectory => 21
  | .nameTooLong => 36
  | .tooManyLinks => 40

/-- The customary text of an error. -/
def text : FileError → String
  | .noEntry => "No such file or directory"
  | .exists => "File exists"
  | .notDirectory => "Not a directory"
  | .isDirectory => "Is a directory"
  | .nameTooLong => "File name too long"
  | .tooManyLinks => "Too many levels of symbolic links"

/-- The account of an error at a path. -/
def message (e : FileError) (p : Path) : String :=
  "[Errno " ++ toString e.number ++ "] " ++ e.text ++ ": " ++ Text.quoted p.text

end FileError

/-- A place in a tree, as the names on the way to it, innermost first. -/
abbrev Location := List String

/-- What a symbolic link points to; empty and `.` components keep their place, for
they ask for a directory. -/
structure LinkTarget where
  absolute : Bool
  components : List String
  deriving DecidableEq, Repr

/-- The target that a text denotes. -/
def LinkTarget.ofText (s : String) : LinkTarget :=
  ⟨s.toList.head? = some '/', Path.components s⟩

/-- What can be found at a location. -/
inductive Node where
  | directory
  | file (bytes : List UInt8)
  | link (target : LinkTarget)
  deriving DecidableEq, Repr

/-- Nodes at locations, the first entry for a location counting, and a working
directory. -/
structure FileTree where
  nodes : List (Location × Node)
  here : Location

namespace FileTree

/-- The node at a location; the root is always a directory. -/
def node? (t : FileTree) (l : Location) : Option Node :=
  if l = [] then some .directory else (t.nodes.find? fun x => x.1 = l).map (·.2)

/-- The same tree with a node put at a location. -/
def put (t : FileTree) (l : Location) (n : Node) : FileTree :=
  { t with nodes := (l, n) :: t.nodes.filter fun x => x.1 ≠ l }

/-- The same tree without a location and all below it. -/
def erase (t : FileTree) (l : Location) : FileTree :=
  { t with nodes := t.nodes.filter fun x => !l.isSuffixOf x.1 }

/-- The greatest number of bytes in a name. -/
def nameLimit : Nat := 255

/-- The least number of bytes that makes a path too long. -/
def pathLimit : Nat := 4096

/-- The greatest number of links that one request follows. -/
def linkLimit : Nat := 40

/-- Why something is looked for: to be used, or to be written.  What is written must
not be asked for as a directory, by a slash at its end. -/
inductive Purpose where
  | use
  | write
  deriving DecidableEq, Repr

/-- Whether the components after a name ask for a directory by slashes alone. -/
def asksForDirectory (rest : List String) : Bool := !rest.isEmpty && rest.all (· = "")

/-- The location that a list of components leads to from `l`; a link's target and
the components after it are handed to `follow`. -/
def walkWith (t : FileTree) (purpose : Purpose)
    (follow : Location → List String → Except FileError Location) :
    Location → List String → Except FileError Location
  | l, [] => .ok l
  | l, name :: rest =>
    match t.node? l with
    | none => .error .noEntry
    | some .directory =>
      if name = "" ∨ name = "." then t.walkWith purpose follow l rest
      else if name = ".." then t.walkWith purpose follow l.tail rest
      else if purpose = .write ∧ asksForDirectory rest then .error .isDirectory
      else if nameLimit < name.utf8ByteSize then .error .nameTooLong
      else
        match t.node? (name :: l) with
        | some (.link target) =>
          follow (if target.absolute then [] else l) (target.components ++ rest)
        | _ => t.walkWith purpose follow (name :: l) rest
    | some _ => .error .notDirectory

/-- The location that a list of components leads to from `l`, following at most the
given number of links. -/
def walk (t : FileTree) (purpose : Purpose) :
    Nat → Location → List String → Except FileError Location
  | 0 => t.walkWith purpose fun _ _ => .error .tooManyLinks
  | n + 1 => t.walkWith purpose (t.walk purpose n)

/-- The location that a path leads to. -/
def locate (t : FileTree) (p : Path) (purpose : Purpose := .use) : Except FileError Location :=
  if pathLimit ≤ p.text.utf8ByteSize then .error .nameTooLong
  else t.walk purpose linkLimit (if p.anchor = .relative then t.here else []) p.names

/-- The node that a path leads to. -/
def stat (t : FileTree) (p : Path) : Except FileError Node := do
  match t.node? (← t.locate p) with
  | some n => .ok n
  | none => .error .noEntry

/-- The bytes of the file that a path leads to. -/
def read (t : FileTree) (p : Path) : Except FileError (List UInt8) := do
  match ← t.stat p with
  | .file bytes => .ok bytes
  | .directory => .error .isDirectory
  | .link _ => .error .tooManyLinks

/-- Puts a name into an ascending list of names, unless it is there. -/
def insertName (n : String) : List String → List String
  | [] => [n]
  | m :: ms => if n < m then n :: m :: ms else if n = m then m :: ms else m :: insertName n ms

/-- The names in a directory, ascending. -/
def names (t : FileTree) (l : Location) : List String :=
  (t.nodes.filterMap fun x =>
    match x.1 with
    | n :: up => if up = l then some n else none
    | [] => none).foldr insertName []

/-- The names in the directory that a path leads to, ascending. -/
def list (t : FileTree) (p : Path) : Except FileError (List String) := do
  let l ← t.locate p
  match t.node? l with
  | some .directory => .ok (t.names l)
  | some _ => .error .notDirectory
  | none => .error .noEntry

/-- Whether a path leads to a directory. -/
def isDirectory (t : FileTree) (p : Path) : Bool :=
  match t.stat p with
  | .ok .directory => true
  | _ => false

theorem node?_put_self (t : FileTree) {l : Location} (n : Node) (h : l ≠ []) :
    (t.put l n).node? l = some n := by
  simp [node?, put, h]

theorem node?_put_of_ne (t : FileTree) {l k : Location} (n : Node) (h : k ≠ l) :
    (t.put l n).node? k = t.node? k := by
  unfold node? put
  by_cases hk : k = []
  · simp [hk]
  · rw [if_neg hk, if_neg hk]
    simp only [List.find?_cons, decide_eq_false (Ne.symm h)]
    congr 1
    rw [List.find?_filter]
    congr 1
    funext x
    by_cases hx : x.1 = k <;> simp [hx, h]

theorem mem_insertName {n m : String} {ms : List String} :
    m ∈ insertName n ms ↔ m = n ∨ m ∈ ms := by
  induction ms with
  | nil => simp [insertName]
  | cons a as ih =>
    unfold insertName
    split
    · simp
    · split
      · rename_i h
        simp [h]
      · simp only [List.mem_cons, ih, or_left_comm]

theorem pairwise_insertName {n : String} {ms : List String} (h : ms.Pairwise (· < ·)) :
    (insertName n ms).Pairwise (· < ·) := by
  induction ms with
  | nil => simp [insertName]
  | cons a as ih =>
    obtain ⟨ha, has⟩ := List.pairwise_cons.1 h
    unfold insertName
    split
    · rename_i hn
      refine List.pairwise_cons.2 ⟨fun m hm => ?_, h⟩
      rcases List.mem_cons.1 hm with rfl | hm
      · exact hn
      · exact String.lt_trans hn (ha m hm)
    · split
      · exact h
      · rename_i hn hne
        refine List.pairwise_cons.2 ⟨fun m hm => ?_, ih has⟩
        rcases mem_insertName.1 hm with rfl | hm
        · exact String.not_le.1 fun hle => hne (String.le_antisymm hle (String.not_lt.1 hn))
        · exact ha m hm

/-- **A directory is listed in ascending order**, each name once. -/
theorem pairwise_names (t : FileTree) (l : Location) : (t.names l).Pairwise (· < ·) := by
  unfold names
  generalize t.nodes.filterMap _ = ns
  induction ns with
  | nil => simp
  | cons n ns ih => exact pairwise_insertName ih

end FileTree
end PowerSupply
