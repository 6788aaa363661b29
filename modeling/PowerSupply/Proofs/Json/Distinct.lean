/-
# Keys of a value that was read

In a value that was read no object has a key twice (`distinctKeys_of_read`), whatever the
text: a key that comes again sets the member that is there.
-/

import PowerSupply.Json.Reader
import PowerSupply.Proofs.Json.Basic
import PowerSupply.Proofs.Trace

namespace PowerSupply
namespace Json

theorem distinctKeys_of_readMagnitude {negative : Bool} {s r : List Char} {j : Json}
    (h : readMagnitude negative s = some (j, r)) : j.every distinctKeys = true := by
  unfold readMagnitude at h
  simp only at h
  split at h
  · cases h
  · split at h
    · cases h; rfl
    · split at h <;> cases h <;> rfl

theorem distinctKeys_of_readNumber {s r : List Char} {j : Json} (h : readNumber s = some (j, r)) :
    j.every distinctKeys = true := by
  unfold readNumber at h
  split at h <;> exact distinctKeys_of_readMagnitude h

mutual

/-- **No text has a value with a key twice.** -/
theorem distinctKeys_of_readValue : ∀ (bound : Nat) {s r : List Char} {j : Json},
    readValue bound s = .ok (j, r) → j.every distinctKeys = true
  | bound + 1, s, r, j, h => by
    unfold readValue at h
    split at h
    · obtain ⟨x, -, hx⟩ := of_map_eq_ok h
      cases hx; rfl
    · split at h
      · cases h; rfl
      · obtain ⟨x, hi, hx⟩ := of_map_eq_ok h
        cases hx
        exact Bool.and_eq_true_iff.2 ⟨rfl, distinctKeys_of_readItems bound hi⟩
    · split at h
      · cases h; rfl
      · obtain ⟨x, hm, hx⟩ := of_map_eq_ok h
        cases hx
        have none : (Members.keys []).Nodup := List.nodup_nil
        exact every_distinctKeys_obj.2 (distinctKeys_of_readMembers bound none rfl hm)
    · cases h; rfl
    · cases h; rfl
    · cases h; rfl
    · cases h; rfl
    · cases h; rfl
    · cases h; rfl
    · split at h
      · rename_i x hn
        cases h
        exact distinctKeys_of_readNumber hn
      · cases h

/-- None of the items that are read has one. -/
theorem distinctKeys_of_readItems : ∀ (bound : Nat) {s r : List Char} {js : List Json},
    readItems bound s = .ok (js, r) → everyItem distinctKeys js = true
  | bound + 1, s, r, js, h => by
    unfold readItems at h
    split at h
    · cases h
    · rename_i v r₁ hv
      have hv := distinctKeys_of_readValue bound hv
      split at h
      · cases h
        simp [everyItem, hv]
      · obtain ⟨x, hi, hx⟩ := of_map_eq_ok h
        cases hx
        simp [everyItem, hv, distinctKeys_of_readItems bound hi]
      · cases h

/-- Members that are added to members with distinct keys leave the keys distinct. -/
theorem distinctKeys_of_readMembers : ∀ (bound : Nat) {before : Members} {s r : List Char}
    {ms : Members}, (Members.keys before).Nodup → everyMember distinctKeys before = true →
    readMembers bound before s = .ok (ms, r) →
    (Members.keys ms).Nodup ∧ everyMember distinctKeys ms = true
  | bound + 1, before, s, r, ms, hn, hb, h => by
    unfold readMembers at h
    split at h
    · split at h
      · cases h
      · rename_i k _ _
        split at h
        · split at h
          · cases h
          · rename_i v _ hv
            have hv := distinctKeys_of_readValue bound hv
            have hn : (Members.keys (Members.set k v before)).Nodup := Members.nodup_keys_set hn v
            have hb : everyMember distinctKeys (Members.set k v before) = true :=
              Members.everyMember_set hb hv
            simp only at h
            split at h
            · cases h
              exact ⟨hn, hb⟩
            · exact distinctKeys_of_readMembers bound hn hb h
            · cases h
        · cases h
    · cases h

end

/-- **A value that was read** has no key twice. -/
theorem distinctKeys_of_read {text : List Char} {j : Json} (h : read text = .ok j) :
    j.every distinctKeys = true := by
  unfold read at h
  split at h
  · cases h
  · simp only at h
    split at h
    · cases h
    · rename_i v r hv
      split at h
      · cases h
        exact distinctKeys_of_readValue _ hv
      · cases h

end Json
end PowerSupply
