/-
# Merging what was merged

`CoversMembers base ms` says that the keys of `base` are the first keys of `ms`, in the
same order, and so on inside wherever both sides have an object.  What is merged over a
base covers the base (`coversMembers_mergeMembers`), and merging what covers the base
over it once more changes nothing, not even the order of the keys
(`mergeMembers_of_covers`).

Under a key the merge has the value of the upper side laid over that of the base
(`get?_mergeMembers`).
-/

import PowerSupply.Json.Merge
import PowerSupply.Proofs.Json.Basic

namespace PowerSupply
namespace Json

mutual

/-- Whether a value is an object that covers the base, where the base is an object and
the value is one. -/
def Covers : Json → Json → Prop
  | .obj base, .obj members => CoversMembers base members
  | _, _ => True

/-- Whether members start with the keys of the base, with values that cover those of the
base. -/
def CoversMembers : Members → Members → Prop
  | [], _ => True
  | _ :: _, [] => False
  | (k, b) :: base, (a, v) :: ms => a = k ∧ Covers b v ∧ CoversMembers base ms

end

mutual

/-- A value covers itself. -/
theorem covers_self : ∀ b : Json, Covers b b
  | .obj ms => coversMembers_self ms
  | .null | .bool _ | .int _ | .float _ | .str _ | .arr _ => trivial

theorem coversMembers_self : ∀ ms : Members, CoversMembers ms ms
  | [] => trivial
  | (_, v) :: ms => ⟨rfl, covers_self v, coversMembers_self ms⟩

end

/-- Members that cover the base go on covering it when a key is set to a value that
covers what the base has there. -/
theorem coversMembers_set {k : String} {w : Json} {base ms : Members}
    (h : CoversMembers base ms) (hw : ∀ b, Members.get? k base = some b → Covers b w) :
    CoversMembers base (Members.set k w ms) := by
  induction base generalizing ms with
  | nil => trivial
  | cons m base ih =>
    obtain ⟨a, b⟩ := m
    rcases ms with _ | ⟨⟨c, v⟩, ms⟩
    · exact h.elim
    · obtain ⟨rfl, hv, hms⟩ := h
      unfold Members.set
      split
      · rename_i hk
        exact ⟨rfl, hw b (by rw [Members.get?, if_pos hk]), hms⟩
      · rename_i hk
        refine ⟨rfl, hv, ih hms fun b' hb' => hw b' ?_⟩
        rw [Members.get?, if_neg hk, hb']

mutual

/-- **What is laid over a base covers it.** -/
theorem covers_merge : ∀ (b u : Json), u.every distinctKeys = true → Covers b (merge b u)
  | .obj base, .obj upper, h => by
    obtain ⟨hn, hk⟩ := every_distinctKeys_obj.1 h
    exact coversMembers_foldMerge base upper base hn hk (coversMembers_self base)
      fun k _ => rfl
  | .obj _, .null, _ | .obj _, .bool _, _ | .obj _, .int _, _ | .obj _, .float _, _
  | .obj _, .str _, _ | .obj _, .arr _, _ => trivial
  | .null, _, _ | .bool _, _, _ | .int _, _, _ | .float _, _, _ | .str _, _, _ | .arr _, _, _ =>
    trivial

/-- Merging goes on covering the base, as long as the keys that are still to come have
their values from the base. -/
theorem coversMembers_foldMerge : ∀ (base upper ms : Members), (Members.keys upper).Nodup →
    everyMember distinctKeys upper = true → CoversMembers base ms →
    (∀ k ∈ Members.keys upper, Members.get? k ms = Members.get? k base) →
    CoversMembers base (mergeMembers ms upper)
  | _, [], _, _, _, h, _ => h
  | base, (k, v) :: upper, ms, hn, hk, h, hb => by
    simp only [everyMember, Bool.and_eq_true] at hk
    rw [Members.keys_cons, List.nodup_cons] at hn
    rw [mergeMembers, hb k (List.mem_cons_self ..)]
    refine coversMembers_foldMerge base upper _ hn.2 hk.2 (coversMembers_set h fun b hbase => ?_)
      fun a ha => ?_
    · rw [hbase]
      exact covers_merge b v hk.1
    · have ne : a ≠ k := fun hak => hn.1 (hak ▸ ha)
      rw [Members.get?_set_of_ne _ _ ne]
      exact hb a (List.mem_cons_of_mem _ ha)

end

/-- **A merge covers its base.** -/
theorem coversMembers_mergeMembers {base upper : Members}
    (h : (Json.obj upper).every distinctKeys = true) :
    CoversMembers base (mergeMembers base upper) :=
  covers_merge (.obj base) (.obj upper) h

mutual

/-- **What covers the base stays as it is** when it is laid over it. -/
theorem merge_of_covers : ∀ (b v : Json), Covers b v → v.every distinctKeys = true →
    merge b v = v
  | .obj base, .obj ms, h, hk => by
    obtain ⟨hn, hk⟩ := every_distinctKeys_obj.1 hk
    exact congrArg Json.obj (mergeMembers_append ms base [] h hn hk)
  | .null, .obj _, _, _ | .bool _, .obj _, _, _ | .int _, .obj _, _, _ | .float _, .obj _, _, _
  | .str _, .obj _, _, _ | .arr _, .obj _, _, _ => rfl
  | _, .null, _, _ | _, .bool _, _, _ | _, .int _, _, _ | _, .float _, _, _ | _, .str _, _, _
  | _, .arr _, _, _ => rfl

/-- Members that cover the base stay as they are behind members that are done. -/
theorem mergeMembers_append : ∀ (ms base done : Members), CoversMembers base ms →
    (Members.keys (done ++ ms)).Nodup → everyMember distinctKeys ms = true →
    mergeMembers (done ++ base) ms = done ++ ms
  | [], base, done, h, _, _ => by
    cases base with
    | nil => rfl
    | cons m base => exact h.elim
  | (k, v) :: ms, base, done, h, hn, hk => by
    simp only [everyMember, Bool.and_eq_true] at hk
    have new : k ∉ Members.keys done := Members.not_mem_keys_of_nodup hn
    have next : (Members.keys ((done ++ [(k, v)]) ++ ms)).Nodup := by
      rwa [List.append_assoc]
    rw [mergeMembers, Members.get?_append new, Members.set_append new]
    cases base with
    | nil =>
      have rest := mergeMembers_append ms [] (done ++ [(k, v)]) trivial next hk.2
      rw [List.append_nil, List.append_assoc] at rest
      exact rest
    | cons m base =>
      obtain ⟨a, b⟩ := m
      obtain ⟨rfl, hv, hms⟩ := h
      have rest := mergeMembers_append ms base (done ++ [(k, v)]) hms next hk.2
      rw [List.append_assoc, List.append_assoc] at rest
      simp only [Members.get?, Members.set, if_pos, merge_of_covers b v hv hk.1]
      exact rest

end

/-- **Merging once more changes nothing.** -/
theorem mergeMembers_of_covers {base ms : Members} (h : CoversMembers base ms)
    (hk : (Json.obj ms).every distinctKeys = true) : mergeMembers base ms = ms := by
  obtain ⟨hn, hk⟩ := every_distinctKeys_obj.1 hk
  exact mergeMembers_append ms base [] h hn hk

/-! ### What a merge has under a key -/

/-- A merge has under a key that the upper members lack what the base has there. -/
theorem get?_mergeMembers_of_none {upper : Members} {key : String}
    (h : Members.get? key upper = none) (base : Members) :
    Members.get? key (mergeMembers base upper) = Members.get? key base := by
  induction upper generalizing base with
  | nil => rfl
  | cons m upper ih =>
    obtain ⟨k, v⟩ := m
    by_cases hk : k = key
    · rw [Members.get?, if_pos hk] at h
      cases h
    · rw [Members.get?, if_neg hk] at h
      rw [mergeMembers, ih h, Members.get?_set_of_ne _ _ (Ne.symm hk)]

/-- **The value of a merge under a key** of the upper members is laid over that of the
base, if there is one. -/
theorem get?_mergeMembers {upper : Members} (h : (Members.keys upper).Nodup) (base : Members)
    {key : String} {v : Json} (hv : Members.get? key upper = some v) :
    Members.get? key (mergeMembers base upper) =
      some ((Members.get? key base).elim v fun b => merge b v) := by
  induction upper generalizing base with
  | nil => cases hv
  | cons m upper ih =>
    obtain ⟨k, w⟩ := m
    rw [Members.keys_cons, List.nodup_cons] at h
    rw [mergeMembers]
    by_cases hk : k = key
    · subst hk
      rw [Members.get?, if_pos rfl] at hv
      obtain rfl := Option.some.inj hv
      have hnone : Members.get? k upper = none := by
        cases hg : Members.get? k upper with
        | none => rfl
        | some u => exact absurd (List.mem_map_of_mem (Members.mem_of_get? hg)) h.1
      rw [get?_mergeMembers_of_none hnone, Members.get?_set_self]
      cases Members.get? k base <;> rfl
    · rw [Members.get?, if_neg hk] at hv
      rw [ih h.2 _ hv, Members.get?_set_of_ne _ _ (Ne.symm hk)]

/-- A value takes the place of a base that is no object. -/
theorem merge_of_leaf {base : Json} (h : ∀ ms, base ≠ .obj ms) (upper : Json) :
    merge base upper = upper := by
  cases upper with
  | obj ms =>
    cases base with
    | obj ms' => exact absurd rfl (h ms')
    | _ => rfl
  | _ => rfl

end Json
end PowerSupply
