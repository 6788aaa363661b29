/-
# Paths

A path is an anchor and a list of names.  Reading a path from text drops empty and
`.` components, keeps `..`, and keeps exactly two leading slashes apart from one;
so a `Path` is always in normal form, and its text is the form in which messages
show it.

Joining with an absolute path forgets the first path; joining with a relative one
appends its names (`join_relative`).
-/

namespace PowerSupply

/-- Where a path starts: at the working directory, at the root, or at the root
written with two slashes. -/
inductive Anchor where
  | relative
  | root
  | doubleRoot
  deriving DecidableEq, Repr

/-- The slashes that an anchor is written with. -/
def Anchor.text : Anchor → String
  | .relative => ""
  | .root => "/"
  | .doubleRoot => "//"

/-- A path in normal form. -/
structure Path where
  anchor : Anchor
  names : List String
  deriving DecidableEq, Repr

namespace Path

/-- The anchor that a text starts with. -/
def anchorOf : List Char → Anchor
  | '/' :: '/' :: '/' :: _ => .root
  | '/' :: '/' :: _ => .doubleRoot
  | '/' :: _ => .root
  | _ => .relative

/-- The components of a text between slashes, empty ones included. -/
def components (s : String) : List String := (s.toList.splitOn '/').map String.ofList

/-- The path that a text denotes. -/
def ofText (s : String) : Path :=
  ⟨anchorOf s.toList, (components s).filter fun n => n ≠ "" ∧ n ≠ "."⟩

/-- The text of a path; the empty relative path is a single dot. -/
def text (p : Path) : String :=
  if p.anchor = .relative ∧ p.names = [] then "."
  else p.anchor.text ++ "/".intercalate p.names

instance : ToString Path := ⟨text⟩

/-- The path `q` as seen from `p`. -/
def join (p q : Path) : Path :=
  if q.anchor = .relative then ⟨p.anchor, p.names ++ q.names⟩ else q

instance : Div Path := ⟨join⟩

instance : Coe String Path := ⟨ofText⟩

/-- The path without its last name. -/
def parent (p : Path) : Path := ⟨p.anchor, p.names.dropLast⟩

/-- Whether the path contains the NUL character, which no file name can. -/
def hasNul (p : Path) : Bool := p.names.any fun n => n.toList.contains (Char.ofNat 0)

theorem join_relative {p q : Path} (h : q.anchor = .relative) :
    p.join q = ⟨p.anchor, p.names ++ q.names⟩ := by
  unfold join; rw [if_pos h]

/-- The names of a path that was read from text are neither empty nor a dot. -/
theorem names_ofText {s n : String} (h : n ∈ (ofText s).names) : n ≠ "" ∧ n ≠ "." := by
  have := (List.mem_filter.1 h).2
  simpa using this

end Path
end PowerSupply
