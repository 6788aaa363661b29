/-
# JSON values

Values with unbounded integers apart from floating-point numbers, and objects whose
members keep their order.  Members are a list of keys and values; the operations
keep the keys distinct: `Members.set` replaces the value of a key that is there and
appends a new key at the end (`get?_set_self`, `get?_set_of_ne`, `keys_set`).

`lookup` follows a list of keys through nested objects, and `lookupDotted` one text
with dots between the keys.
-/

import PowerSupply.Number.Binary64

namespace PowerSupply

/-- A JSON value. -/
inductive Json where
  | null
  | bool (b : Bool)
  | int (n : Int)
  | float (x : Binary64)
  | str (s : String)
  | arr (items : List Json)
  | obj (members : List (String × Json))
  deriving Repr, Inhabited

namespace Json

/-- The members of an object in order. -/
abbrev Members := List (String × Json)

namespace Members

/-- The value of a key. -/
def get? (key : String) : Members → Option Json
  | [] => none
  | (k, v) :: ms => if k = key then some v else get? key ms

/-- The same members with a key set to a value, in its place if it is there and at
the end if not. -/
def set (key : String) (value : Json) : Members → Members
  | [] => [(key, value)]
  | (k, v) :: ms => if k = key then (k, value) :: ms else (k, v) :: set key value ms

/-- The keys in order. -/
def keys (ms : Members) : List String := ms.map (·.1)

theorem get?_set_self (key : String) (value : Json) (ms : Members) :
    get? key (set key value ms) = some value := by
  induction ms with
  | nil => simp [set, get?]
  | cons m ms ih =>
    unfold set
    split
    · rename_i h
      simp [get?, h]
    · rename_i h
      simp [get?, h, ih]

theorem get?_set_of_ne {key k : String} (value : Json) (ms : Members) (h : k ≠ key) :
    get? k (set key value ms) = get? k ms := by
  induction ms with
  | nil => simp [set, get?, Ne.symm h]
  | cons m ms ih =>
    obtain ⟨a, b⟩ := m
    unfold set
    split
    · rename_i ha
      simp [get?, ha, Ne.symm h]
    · simp [get?, ih]

/-- **Setting a key moves nothing:** the keys stay in order, a new one goes last. -/
theorem keys_set (key : String) (value : Json) (ms : Members) :
    keys (set key value ms) = if key ∈ keys ms then keys ms else keys ms ++ [key] := by
  induction ms with
  | nil => simp [set, keys]
  | cons m ms ih =>
    obtain ⟨a, b⟩ := m
    unfold set
    by_cases h : a = key
    · simp [h, keys]
    · rw [if_neg h]
      simp only [keys, List.map_cons, List.mem_cons] at ih ⊢
      rw [ih]
      by_cases hm : key ∈ ms.map (·.1)
      · simp [hm]
      · simp [hm, Ne.symm h]

end Members

/-- The member of an object; other values have no members. -/
def member? (key : String) : Json → Option Json
  | .obj ms => Members.get? key ms
  | _ => none

/-- The value that a list of keys leads to through nested objects. -/
def lookup (j : Json) : List String → Option Json
  | [] => some j
  | k :: ks => (j.member? k).bind fun v => v.lookup ks

/-- The keys that a dotted key consists of. -/
def dotted (key : String) : List String := (key.toList.splitOn '.').map String.ofList

/-- The value that a dotted key leads to, or a value to fall back on. -/
def lookupDotted (j : Json) (key : String) (fallback : Json) : Json :=
  (j.lookup (dotted key)).getD fallback

/-- The same value with the place that a list of keys leads to set anew, making
objects on the way where there are none. -/
def assign (value : Json) : List String → Json → Json
  | [], _ => value
  | k :: ks, .obj ms =>
    .obj (Members.set k (assign value ks ((Members.get? k ms).getD (.obj []))) ms)
  | k :: ks, _ => .obj [(k, assign value ks (.obj []))]

end Json
end PowerSupply
