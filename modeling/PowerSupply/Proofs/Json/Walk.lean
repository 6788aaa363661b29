/-
# Walking through a merge

A list of keys is walked through nested objects.  It leads to a value, or it stops: at an
object that lacks the next key, or at a value that is no object (`Walk`).

What a merge has under a list of keys is decided by how the walk through the upper side ends
(`lookup_merge`).  A value that is found there is laid over what the base has under the same
keys; where a key is lacking, the base shows through; and a value that is no object hides all
that the base has below it.

Where both sides have an object, the keys of the merge are those of the base and then the new
ones, each side in its own order (`keys_mergeMembers`).
-/

import PowerSupply.Proofs.Json.Merge

namespace PowerSupply
namespace Json

/-- How a walk along a list of keys ends. -/
inductive Walk where
  /-- It leads to a value. -/
  | found (v : Json)
  /-- It stops at an object that lacks the next key. -/
  | lacking
  /-- It stops at a value that is no object. -/
  | blocked

/-- The walk along a list of keys through nested objects. -/
def walk : List String → Json → Walk
  | [], v => .found v
  | k :: ks, .obj ms =>
    match Members.get? k ms with
    | some v => walk ks v
    | none => .lacking
  | _ :: _, _ => .blocked

/-- What there is at the end of a walk. -/
def Walk.value? : Walk → Option Json
  | .found v => some v
  | .lacking | .blocked => none

/-- What there is at the end of a walk that is laid over a base, given what the base has
there. -/
def Walk.over : Walk → Option Json → Option Json
  | .found v, base => some (base.elim v fun b => merge b v)
  | .lacking, base => base
  | .blocked, _ => none

/-- To look keys up is to walk along them. -/
theorem lookup_eq_walk (ks : List String) (v : Json) : v.lookup ks = (walk ks v).value? := by
  induction ks generalizing v with
  | nil => rfl
  | cons k ks ih =>
    cases v with
    | obj ms =>
      show (Members.get? k ms).bind (fun v => v.lookup ks) = _
      unfold walk
      cases Members.get? k ms with
      | none => rfl
      | some v => exact ih v
    | _ => rfl

theorem walk_eq_found_iff {ks : List String} {u v : Json} :
    walk ks u = .found v ↔ u.lookup ks = some v := by
  rw [lookup_eq_walk]
  cases walk ks u <;> simp [Walk.value?]

/-- Over nothing there is what the walk leads to. -/
theorem Walk.over_none (w : Walk) : w.over none = w.value? := by
  cases w <;> rfl

/-- **What a merge has under a list of keys** is decided by the walk through the upper side. -/
theorem lookup_merge (ks : List String) (base upper : Json)
    (h : upper.every distinctKeys = true) :
    (merge base upper).lookup ks = (walk ks upper).over (base.lookup ks) := by
  induction ks generalizing base upper with
  | nil => rfl
  | cons k ks ih =>
    cases upper with
    | obj us =>
      obtain ⟨hn, hv⟩ := every_distinctKeys_obj.1 h
      by_cases hbase : ∃ bs, base = .obj bs
      · obtain ⟨bs, rfl⟩ := hbase
        show (Members.get? k (mergeMembers bs us)).bind (fun v => v.lookup ks) =
          (walk (k :: ks) (.obj us)).over ((Members.get? k bs).bind fun v => v.lookup ks)
        unfold walk
        cases hu : Members.get? k us with
        | none =>
          rw [get?_mergeMembers_of_none hu]
          rfl
        | some u =>
          rw [get?_mergeMembers hn bs hu]
          cases hb : Members.get? k bs with
          | none => exact (lookup_eq_walk ks u).trans (Walk.over_none _).symm
          | some b => exact ih b u (everyMember_iff.1 hv _ (Members.mem_of_get? hu))
      · have leaf : ∀ ms, base ≠ .obj ms := fun ms hms => hbase ⟨ms, hms⟩
        have nothing : base.lookup (k :: ks) = none := by
          cases base with
          | obj ms => exact absurd rfl (leaf ms)
          | _ => rfl
        rw [merge_of_leaf leaf, nothing, Walk.over_none]
        exact lookup_eq_walk ..
    | _ => rfl

/-- What holds of every value in a value holds of every value in what keys lead to. -/
theorem every_of_lookup {p : Json → Bool} {ks : List String} {j v : Json}
    (h : j.every p = true) (hv : j.lookup ks = some v) : v.every p = true := by
  induction ks generalizing j with
  | nil => exact Option.some.inj hv ▸ h
  | cons k ks ih =>
    obtain ⟨w, hw, hrest⟩ := Option.bind_eq_some_iff.1 hv
    cases j with
    | obj ms =>
      exact ih (everyMember_iff.1 (Bool.and_eq_true_iff.1 h).2 _ (Members.mem_of_get? hw)) hrest
    | _ => cases hw

/-- **The keys of a merge** are those of the base and then the new ones of the upper side, both
in their own order. -/
theorem keys_mergeMembers {upper : Members} (h : (Members.keys upper).Nodup) (base : Members) :
    Members.keys (mergeMembers base upper) =
      Members.keys base ++ (Members.keys upper).filter (· ∉ Members.keys base) := by
  induction upper generalizing base with
  | nil => exact (List.append_nil _).symm
  | cons m upper ih =>
    obtain ⟨k, v⟩ := m
    rw [Members.keys_cons, List.nodup_cons] at h
    rw [mergeMembers, ih h.2, Members.keys_set, Members.keys_cons]
    by_cases hk : k ∈ Members.keys base
    · rw [if_pos hk, List.filter_cons_of_neg (by simpa using hk)]
    · rw [if_neg hk, List.filter_cons_of_pos (by simpa using hk), List.append_assoc]
      -- the key that was new is none of those that are still to come
      have same : (Members.keys upper).filter (· ∉ Members.keys base ++ [k]) =
          (Members.keys upper).filter (· ∉ Members.keys base) := by
        refine List.filter_congr fun a ha => ?_
        have ne : a ≠ k := fun hak => h.1 (hak ▸ ha)
        simp [ne]
      rw [same, List.singleton_append]

/-- **What the base has under some keys** and is no object is, in a merge, what the upper members
have there, or else what it was. -/
theorem lookup_mergeMembers {base upper : Members} {ks : List String} {leaf : Json}
    (distinct : (Json.obj upper).every distinctKeys = true)
    (hbase : (Json.obj base).lookup ks = some leaf) (hleaf : ∀ ms, leaf ≠ .obj ms) :
    ((Json.obj (mergeMembers base upper)).lookup ks).getD leaf =
      ((Json.obj upper).lookup ks).getD leaf := by
  have law := lookup_merge ks (.obj base) (.obj upper) distinct
  rw [hbase] at law
  rw [show (Json.obj (mergeMembers base upper)) = merge (.obj base) (.obj upper) from rfl, law,
    lookup_eq_walk]
  cases walk ks (.obj upper) with
  | found v => exact merge_of_leaf hleaf v
  | lacking | blocked => rfl

end Json
end PowerSupply
