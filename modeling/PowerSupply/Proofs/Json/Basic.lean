/-
# Values all the way down

`Json.every p` holds of a value where `p` holds of it and of every value in it.  With
`distinctKeys` it says that no object has a key twice, with `notFloat` that there is no
floating-point number anywhere.  Both conditions hold of everything that is put together
from plain values without giving an object a key twice (`Lenient`, `Members.Proper`).

Members of an object with distinct keys are added at the end one by one
(`Members.set_of_not_mem`), and what is done to a later member leaves those before it
alone (`Members.get?_append`, `Members.set_append`).
-/

import PowerSupply.Json.Basic

namespace PowerSupply
namespace Json

mutual

/-- Whether a condition holds of a value and of every value in it. -/
def every (p : Json → Bool) : Json → Bool
  | .arr items => p (.arr items) && everyItem p items
  | .obj members => p (.obj members) && everyMember p members
  | j => p j

/-- Whether a condition holds of every value in every item. -/
def everyItem (p : Json → Bool) : List Json → Bool
  | [] => true
  | j :: js => every p j && everyItem p js

/-- Whether a condition holds of every value in every member. -/
def everyMember (p : Json → Bool) : List (String × Json) → Bool
  | [] => true
  | (_, v) :: ms => every p v && everyMember p ms

end

/-- What holds of every value in a value holds of the value itself. -/
theorem of_every {p : Json → Bool} {j : Json} (h : j.every p = true) : p j = true := by
  cases j with
  | arr items => exact (Bool.and_eq_true_iff.1 h).1
  | obj members => exact (Bool.and_eq_true_iff.1 h).1
  | _ => exact h

/-- The integer that a value is; other values are none. -/
def int? : Json → Option Int
  | .int n => some n
  | _ => none

theorem int?_eq_some_iff {j : Json} {n : Int} : j.int? = some n ↔ j = .int n := by
  cases j <;> simp [int?]

/-- The keys of an object in order; other values have none. -/
def keys? : Json → Option (List String)
  | .obj members => some (Members.keys members)
  | _ => none

theorem keys?_eq_some_iff {j : Json} {names : List String} :
    j.keys? = some names ↔ ∃ members, j = .obj members ∧ Members.keys members = names := by
  cases j <;> simp [keys?]

/-- Whether an object has each key once; other values have none. -/
def distinctKeys : Json → Bool
  | .obj members => decide (Members.keys members).Nodup
  | _ => true

/-- Whether a value is anything but a floating-point number. -/
def notFloat : Json → Bool
  | .float _ => false
  | _ => true

/-- Whether a value is null, a truth value, an integer or a text. -/
def plain : Json → Bool
  | .null | .bool _ | .int _ | .str _ => true
  | .float _ | .arr _ | .obj _ => false

/-- A condition that can fail of a floating-point number or of an object that has a key
twice, and of nothing else. -/
structure Lenient (p : Json → Bool) : Prop where
  plain : ∀ j : Json, j.plain = true → p j = true
  arr : ∀ items, p (.arr items) = true
  obj : ∀ members, (Members.keys members).Nodup → p (.obj members) = true

theorem lenient_distinctKeys : Lenient distinctKeys where
  plain j h := by cases j <;> first | rfl | cases h
  arr _ := rfl
  obj _ h := decide_eq_true h

theorem lenient_notFloat : Lenient notFloat where
  plain j h := by cases j <;> first | rfl | cases h
  arr _ := rfl
  obj _ _ := rfl

/-- In a plain value there is no other value. -/
theorem Lenient.every_of_plain {p : Json → Bool} (hp : Lenient p) {j : Json} (h : j.plain = true) :
    j.every p = true := by
  cases j with
  | arr _ | obj _ | float _ => cases h
  | null | bool _ | int _ | str _ => exact hp.plain _ h

theorem everyItem_iff {p : Json → Bool} {js : List Json} :
    everyItem p js = true ↔ ∀ j ∈ js, j.every p = true := by
  induction js with
  | nil => simp [everyItem]
  | cons j js ih => simp [everyItem, ih]

theorem everyMember_iff {p : Json → Bool} {ms : Members} :
    everyMember p ms = true ↔ ∀ m ∈ ms, m.2.every p = true := by
  induction ms with
  | nil => simp [everyMember]
  | cons m ms ih => simp [everyMember, ih]

/-- The keys of an object without repetitions are distinct, and so are those of the
objects in it. -/
theorem every_distinctKeys_obj {ms : Members} :
    (Json.obj ms).every distinctKeys = true ↔
      (Members.keys ms).Nodup ∧ everyMember distinctKeys ms = true := by
  simp [every, distinctKeys]

namespace Members

@[simp] theorem keys_nil : keys [] = [] := rfl

@[simp] theorem keys_cons (k : String) (v : Json) (ms : Members) :
    keys ((k, v) :: ms) = k :: keys ms := rfl

@[simp] theorem keys_append (ms ns : Members) : keys (ms ++ ns) = keys ms ++ keys ns :=
  List.map_append ..

/-- Where the first members do not have a key, it is looked for in the others. -/
theorem get?_append {k : String} {before : Members} (h : k ∉ keys before) (ms : Members) :
    get? k (before ++ ms) = get? k ms := by
  induction before with
  | nil => rfl
  | cons m before ih =>
    obtain ⟨a, v⟩ := m
    rw [keys_cons, List.mem_cons, not_or] at h
    rw [List.cons_append, get?, if_neg (Ne.symm h.1), ih h.2]

/-- Where the first members do not have a key, it is set among the others. -/
theorem set_append {k : String} {before : Members} (h : k ∉ keys before) (w : Json)
    (ms : Members) : set k w (before ++ ms) = before ++ set k w ms := by
  induction before with
  | nil => rfl
  | cons m before ih =>
    obtain ⟨a, v⟩ := m
    rw [keys_cons, List.mem_cons, not_or] at h
    rw [List.cons_append, set, if_neg (Ne.symm h.1), ih h.2, List.cons_append]

/-- A new key goes to the end. -/
theorem set_of_not_mem {k : String} {ms : Members} (h : k ∉ keys ms) (w : Json) :
    set k w ms = ms ++ [(k, w)] := by
  have := set_append h w []
  rwa [List.append_nil] at this

/-- Of members with distinct keys, those in front do not have the key of a later one. -/
theorem not_mem_keys_of_nodup {before ms : Members} {k : String} {v : Json}
    (h : (keys (before ++ (k, v) :: ms)).Nodup) : k ∉ keys before := by
  intro hk
  rw [keys_append, keys_cons] at h
  exact (List.nodup_append.1 h).2.2 k hk k (List.mem_cons_self ..) rfl

/-- **Setting a key keeps the keys distinct.** -/
theorem nodup_keys_set {k : String} {ms : Members} (h : (keys ms).Nodup) (w : Json) :
    (keys (set k w ms)).Nodup := by
  rw [keys_set]
  split
  · exact h
  · rename_i hk
    refine List.nodup_append.2 ⟨h, List.pairwise_singleton .., fun a ha b hb hab => hk ?_⟩
    rwa [← List.mem_singleton.1 hb, ← hab]

/-- What holds of every value in the members and in a new value holds after it is set. -/
theorem everyMember_set {p : Json → Bool} {k : String} {w : Json} {ms : Members}
    (h : everyMember p ms = true) (hw : w.every p = true) :
    everyMember p (set k w ms) = true := by
  induction ms with
  | nil => simp [set, everyMember, hw]
  | cons m ms ih =>
    obtain ⟨a, v⟩ := m
    rw [everyMember, Bool.and_eq_true] at h
    unfold set
    split
    · rw [everyMember, hw, h.2]; rfl
    · rw [everyMember, h.1, ih h.2]; rfl

theorem mem_of_get? {k : String} {v : Json} {ms : Members} (h : get? k ms = some v) :
    (k, v) ∈ ms := by
  induction ms with
  | nil => cases h
  | cons m ms ih =>
    obtain ⟨a, b⟩ := m
    unfold get? at h
    split at h
    · rename_i ha
      obtain rfl := Option.some.inj h
      exact ha ▸ List.mem_cons_self ..
    · exact List.mem_cons_of_mem _ (ih h)

/-- Of members with distinct keys each has the value of its key. -/
theorem get?_of_mem {m : String × Json} {ms : Members} (h : (keys ms).Nodup) (hm : m ∈ ms) :
    get? m.1 ms = some m.2 := by
  induction ms with
  | nil => cases hm
  | cons n ms ih =>
    obtain ⟨a, b⟩ := n
    rw [keys_cons, List.nodup_cons] at h
    rcases List.mem_cons.1 hm with rfl | hm
    · rw [get?, if_pos rfl]
    · have ne : a ≠ m.1 := fun ha => h.1 (ha ▸ List.mem_map_of_mem hm)
      rw [get?, if_neg ne, ih h.2 hm]

/-- Members with distinct keys, and a condition that holds of every value in them. -/
structure Proper (p : Json → Bool) (ms : Members) : Prop where
  distinct : (keys ms).Nodup
  values : everyMember p ms = true

namespace Proper

variable {p : Json → Bool} {ms : Members}

theorem nil : Proper p [] := ⟨List.nodup_nil, rfl⟩

/-- **Setting a key keeps members proper.** -/
theorem set (h : Proper p ms) (k : String) {v : Json} (hv : v.every p = true) :
    Proper p (Members.set k v ms) :=
  ⟨nodup_keys_set h.distinct v, everyMember_set h.values hv⟩

/-- The condition holds of every value in the object. -/
theorem every (h : Proper p ms) (hp : Lenient p) : (Json.obj ms).every p = true :=
  Bool.and_eq_true_iff.2 ⟨hp.obj ms h.distinct, h.values⟩

end Proper
end Members
end Json
end PowerSupply
