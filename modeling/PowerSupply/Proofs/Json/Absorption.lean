/-
# Laying the same members over again

Merging is idempotent on every side, and the equalities include the order of the keys.

* Members laid over themselves stay as they are (`mergeMembers_self`).
* What was laid over a base can be laid over the result again (`mergeMembers_mergeMembers_self`).
  Each key is there by then, with a value that takes in the same value once more, and to set a
  key to the value that it has changes nothing (`Members.set_of_get?`, `mergeMembers_of_absorbed`).
* The result can be laid over the base again (`mergeMembers_base`), for it covers the base.

A merge of objects that have no key twice has no key twice (`distinctKeys_merge`).
-/

import PowerSupply.Proofs.Json.Walk

namespace PowerSupply
namespace Json

/-- To set a key to the value that it has changes nothing. -/
theorem Members.set_of_get? {k : String} {v : Json} {ms : Members} (h : get? k ms = some v) :
    set k v ms = ms := by
  induction ms with
  | nil => cases h
  | cons m ms ih =>
    obtain ⟨a, b⟩ := m
    unfold get? at h
    unfold set
    split at h
    · rename_i ha
      obtain rfl := Option.some.inj h
      rw [if_pos ha, ha]
    · rename_i ha
      rw [if_neg ha, ih h]

/-- A value stays as it is when it is laid over itself. -/
theorem merge_self {v : Json} (h : v.every distinctKeys = true) : merge v v = v :=
  merge_of_covers v v (covers_self v) h

/-- **Members stay as they are** when they are laid over themselves. -/
theorem mergeMembers_self {ms : Members} (h : (Json.obj ms).every distinctKeys = true) :
    mergeMembers ms ms = ms :=
  mergeMembers_of_covers (coversMembers_self ms) h

/-- **Over no members** the others stay as they are. -/
theorem mergeMembers_nil {ms : Members} (h : (Json.obj ms).every distinctKeys = true) :
    mergeMembers [] ms = ms := by
  have covers : CoversMembers [] ms := trivial
  exact mergeMembers_of_covers covers h

/-- Members that have each key of the upper side, with a value that takes in what the upper side
has there, stay as they are. -/
theorem mergeMembers_of_absorbed {ms upper : Members}
    (h : ∀ m ∈ upper, ∃ w, Members.get? m.1 ms = some w ∧ merge w m.2 = w) :
    mergeMembers ms upper = ms := by
  induction upper with
  | nil => rfl
  | cons m upper ih =>
    obtain ⟨k, v⟩ := m
    obtain ⟨w, hw, hv⟩ := h (k, v) (List.mem_cons_self ..)
    rw [mergeMembers, hw]
    show mergeMembers (Members.set k (merge w v) ms) upper = ms
    rw [hv, Members.set_of_get? hw]
    exact ih fun m hm => h m (List.mem_cons_of_mem _ hm)

mutual

/-- **What was laid over a base** can be laid over it again. -/
theorem merge_merge_self : ∀ (u b : Json), u.every distinctKeys = true →
    merge (merge b u) u = merge b u
  | .obj upper, .obj base, h => by
    obtain ⟨hn, hv⟩ := every_distinctKeys_obj.1 h
    refine congrArg Json.obj (mergeMembers_of_absorbed fun m hm => ?_)
    refine ⟨_, get?_mergeMembers hn base (Members.get?_of_mem hn hm), ?_⟩
    cases Members.get? m.1 base with
    | none => exact merge_self (everyMember_iff.1 hv m hm)
    | some b => exact merge_merge_member upper hv m hm b
  | .obj upper, .null, h | .obj upper, .bool _, h | .obj upper, .int _, h
  | .obj upper, .float _, h | .obj upper, .str _, h | .obj upper, .arr _, h => merge_self h
  | .null, _, _ | .bool _, _, _ | .int _, _, _ | .float _, _, _ | .str _, _, _ | .arr _, _, _ => rfl

/-- The same of each value in the upper members. -/
theorem merge_merge_member : ∀ (upper : Members), everyMember distinctKeys upper = true →
    ∀ m ∈ upper, ∀ b, merge (merge b m.2) m.2 = merge b m.2
  | [], _, _, hm, _ => nomatch hm
  | (k, v) :: upper, h, m, hm, b => by
    simp only [everyMember, Bool.and_eq_true] at h
    rcases List.mem_cons.1 hm with rfl | hm
    · exact merge_merge_self v b h.1
    · exact merge_merge_member upper h.2 m hm b

end

/-- **What was laid over members** can be laid over them again. -/
theorem mergeMembers_mergeMembers_self {upper : Members}
    (h : (Json.obj upper).every distinctKeys = true) (base : Members) :
    mergeMembers (mergeMembers base upper) upper = mergeMembers base upper :=
  Json.obj.inj (merge_merge_self (.obj upper) (.obj base) h)

mutual

/-- **A merge of values without a key twice** has no key twice. -/
theorem distinctKeys_merge : ∀ (u b : Json), b.every distinctKeys = true →
    u.every distinctKeys = true → (merge b u).every distinctKeys = true
  | .obj upper, .obj base, hb, hu => by
    obtain ⟨hn, hv⟩ := every_distinctKeys_obj.1 hb
    exact (proper_mergeMembers upper base ⟨hn, hv⟩ (every_distinctKeys_obj.1 hu).2).every
      lenient_distinctKeys
  | .obj _, .null, _, hu | .obj _, .bool _, _, hu | .obj _, .int _, _, hu | .obj _, .float _, _, hu
  | .obj _, .str _, _, hu | .obj _, .arr _, _, hu => hu
  | .null, _, _, _ | .bool _, _, _, _ | .int _, _, _, _ | .float _, _, _, _ | .str _, _, _, _ => rfl
  | .arr _, _, _, hu => hu

/-- Members that are laid over others one by one leave them without a key twice. -/
theorem proper_mergeMembers : ∀ (upper ms : Members), Members.Proper distinctKeys ms →
    everyMember distinctKeys upper = true → Members.Proper distinctKeys (mergeMembers ms upper)
  | [], _, h, _ => h
  | (k, v) :: upper, ms, h, hu => by
    simp only [everyMember, Bool.and_eq_true] at hu
    rw [mergeMembers]
    refine proper_mergeMembers upper _ (h.set k ?_) hu.2
    cases hb : Members.get? k ms with
    | none => exact hu.1
    | some b =>
      exact distinctKeys_merge v b (everyMember_iff.1 h.values _ (Members.mem_of_get? hb)) hu.1

end

/-- **What a merge gives** can be laid over the base again. -/
theorem mergeMembers_base {base upper : Members} (hb : (Json.obj base).every distinctKeys = true)
    (hu : (Json.obj upper).every distinctKeys = true) :
    mergeMembers base (mergeMembers base upper) = mergeMembers base upper :=
  mergeMembers_of_covers (coversMembers_mergeMembers hu)
    (distinctKeys_merge (.obj upper) (.obj base) hb hu)

end Json
end PowerSupply
