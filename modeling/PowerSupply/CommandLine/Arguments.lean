/-
# Reading a command line

First every word is classified on its own (`classify`): it is plain, or it names a
switch, perhaps with a value attached to it, or it looks like a switch that there is
not.  From the word `--` on all words are plain.  A word that abbreviates several
switches is refused at once, whatever else is wrong.

Then the words are taken in order.  A parameter without an attached value takes the
next word if that is plain.  Flags may share a word by their letters, and a parameter
may be the last of them (`cluster`).  A switch takes effect as soon as its word is
understood, so help is given even if a later word is bad.  Words that nothing takes
are left over and refused at the end.

The library behind the command line has changed two of these rules over the years; here
they are the older ones.  A letter that is no switch is taken, with all that follows it,
for a value of the flag before it.  Two dashes that are attached to a parameter stand for
no value, and the parameter is left blank.
-/

import PowerSupply.CommandLine.Request

namespace PowerSupply
namespace CommandLine

/-- A word of a command line, classified. -/
inductive Word where
  /-- A word that may be a value. -/
  | plain (text : String)
  /-- A word that names a switch; `short` if by its short spelling. -/
  | switch (s : Switch) (short : Bool) (attached : Option (List Char))
  /-- A word that looks like a switch and is none. -/
  | stray (text : String)
  deriving DecidableEq, Repr

/-- The parts of a text before and after its first `=`. -/
def splitEquals : List Char → Option (List Char × List Char)
  | [] => none
  | '=' :: r => some ([], r)
  | c :: r => (splitEquals r).map fun x => (c :: x.1, x.2)

/-- Whether a text is a negative decimal number, digits of any script with at most
one point that has a digit after it; one line feed may follow. -/
def isNegativeNumber (word : List Char) : Bool :=
  match word with
  | '-' :: r =>
    let r := if r.getLast? = some '\n' then r.dropLast else r
    let isDigit (c : Char) := (Text.digit? c).isSome
    match r.dropWhile isDigit with
    | [] => !r.isEmpty
    | '.' :: fraction => !fraction.isEmpty && fraction.all isDigit
    | _ => false
  | _ => false

/-- Whether a spelling is a short one. -/
def isShort (spelling : String) : Bool := spelling.length = 2

/-- The switches that a word may abbreviate or be attached to, with their spellings
and what is attached. -/
def candidates (word : List Char) : List (String × Switch × Option (List Char)) :=
  match word with
  | '-' :: '-' :: _ =>
    match splitEquals word with
    | some (name, value) => (Switch.completions name).map fun e => (e.1, e.2, some value)
    | none => (Switch.completions word).map fun e => (e.1, e.2, none)
  | _ =>
    match Switch.spelled? (String.ofList (word.take 2)) with
    | some s => [(String.ofList (word.take 2), s, some (word.drop 2))]
    | none => []

/-- The switch that a word names exactly, with what is attached by `=`. -/
def named? (word : List Char) : Option Word :=
  match Switch.spelled? (String.ofList word) with
  | some s => some (.switch s (isShort (String.ofList word)) none)
  | none => do
    let (name, value) ← splitEquals word
    let s ← Switch.spelled? (String.ofList name)
    return .switch s (isShort (String.ofList name)) (some value)

/-- What a word is, apart from the words around it. -/
def classify (text : String) : Except Refusal Word :=
  let word := text.toList
  if word.head? ≠ some '-' ∨ word = ['-'] then .ok (.plain text)
  else
    match named? word with
    | some w => .ok w
    | none =>
      match candidates word with
      | [(spelling, s, attached)] => .ok (.switch s (isShort spelling) attached)
      | [] =>
        if isNegativeNumber word ∨ ' ' ∈ word then .ok (.plain text) else .ok (.stray text)
      | several => .error (.ambiguous text (several.map (·.1)))

/-- The words of a command line, classified. -/
def classifyAll : List String → Except Refusal (List Word)
  | [] => .ok []
  | text :: rest =>
    if text = "--" then .ok (.stray text :: rest.map .plain)
    else do
      let w ← classify text
      return w :: (← classifyAll rest)

/-- What one word asks for: flags, and perhaps a parameter, which may have its value
attached. -/
structure Cluster where
  flags : List Flag
  parameter : Option (Parameter × Option (List Char)) := none
  deriving DecidableEq, Repr

/-- The switches whose letters follow the letter of the flag `f` in one word.  What
follows a parameter is its value; a letter that is no switch would be a value of the flag
before it, which takes none. -/
def cluster (f : Flag) : List Char → Except Refusal Cluster
  | [] => .ok ⟨[f], none⟩
  | c :: rest =>
    match Switch.spelled? (String.ofList ['-', c]) with
    | none => .error (.badValue (.flag f) (.ignored (String.ofList (c :: rest))))
    | some (.flag g) => (cluster g rest).map fun k => { k with flags := f :: k.flags }
    | some (.parameter p) => .ok ⟨[f], some (p, if rest.isEmpty then none else some rest)⟩

/-- What a word that names a switch asks for. -/
def clusterOf (s : Switch) (short : Bool) (attached : Option (List Char)) :
    Except Refusal Cluster :=
  match s, attached with
  | .parameter p, attached => .ok ⟨[], some (p, attached)⟩
  | .flag f, none => .ok ⟨[f], none⟩
  | .flag f, some text =>
    if short ∧ text ≠ [] then cluster f text
    else .error (.badValue (.flag f) (.ignored (String.ofList text)))

/-- Why reading stops before the end. -/
inductive Stop where
  | help
  | refused (r : Refusal)
  deriving DecidableEq, Repr

namespace Request

/-- The request with a flag set. -/
def withFlag (r : Request) : Flag → Except Stop Request
  | .help => .error .help
  | .list => .ok { r with list := true }
  | .json => .ok { r with json := true }
  | .watch => .ok { r with watch := true }
  | .verbose => .ok { r with verbose := true }

/-- The interval that a text stands for; two dashes leave it blank. -/
def intervalOf (text : String) : Except Stop (Given Int) :=
  let refuse (p : ValueProblem) : Except Stop (Given Int) :=
    .error (.refused (.badValue (.parameter .interval) p))
  if text = "--" then .ok .blank
  else
    match positiveInt text with
    | .ok n => .ok (.value n)
    | .error (.belowOne shown) => refuse (.belowOne shown)
    | .error _ => refuse (.notWhole text)

/-- The path that a text stands for; two dashes leave it blank. -/
def pathOf (text : String) : Given Path :=
  if text = "--" then .blank else .value (Path.ofText text)

/-- The request with a parameter set; the last value of a parameter counts. -/
def withValue (r : Request) (p : Parameter) (text : String) : Except Stop Request :=
  match p with
  | .interval => do
    let interval ← intervalOf text
    return { r with interval }
  | .root => .ok { r with root := pathOf text }
  | .config => .ok { r with config := pathOf text }

end Request

/-- The request, and the words that are left over, after taking words in order. -/
def take (r : Request) : List Word → Except Stop (Request × List String)
  | [] => .ok (r, [])
  | .plain text :: rest => (take r rest).map fun x => (x.1, text :: x.2)
  | .stray text :: rest => (take r rest).map fun x => (x.1, text :: x.2)
  | .switch s short attached :: rest =>
    match clusterOf s short attached with
    | .error e => .error (.refused e)
    | .ok k =>
      match k.parameter with
      | none => do take (← k.flags.foldlM Request.withFlag r) rest
      | some (p, some text) => do
        let r ← k.flags.foldlM Request.withFlag r
        take (← r.withValue p (String.ofList text)) rest
      | some (p, none) =>
        match rest with
        | .plain text :: rest => do
          let r ← k.flags.foldlM Request.withFlag r
          take (← r.withValue p text) rest
        | _ => .error (.refused (.badValue (.parameter p) .missing))

/-- The request that a command line amounts to. -/
def parse (words : List String) : Except Stop Request :=
  match classifyAll words with
  | .error e => .error (.refused e)
  | .ok classified => do
    match ← take {} classified with
    | (r, []) => .ok r
    | (_, left) => .error (.refused (.unrecognized left))

end CommandLine
end PowerSupply
