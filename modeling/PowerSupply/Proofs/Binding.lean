/-
# The names of bound integers

The owner of a snapshot chooses the integers that stand for the variants of status and
health, and nothing keeps two variants from having the same one.  The name of an integer is
the label of the first variant that has it, and of other integers it is `unknown`
(`NamedByFirst`).  So the way from a variant to its integer and on to a name leads back to
every variant exactly where the integers are distinct (`roundTrip`).

This is one law about looking for the first element of a list
(`namedByFirst_of_find?`), of which the statuses and the healths are two cases.
-/

import Mathlib.Logic.Function.Basic
import PowerSupply.Binding
import PowerSupply.Proofs.Trace

namespace PowerSupply

variable {α : Type} {all : List α} {name label : α → String} {code : α → Int}
variable {named : Json → String}

/-- How integers are named by the variants that they stand for: `all` are the variants in
order, `code` is the integer of a variant, and `named` is the name of a value. -/
structure NamedByFirst (all : List α) (name label : α → String) (code : α → Int)
    (named : Json → String) : Prop where
  /-- The labels are the names in small letters. -/
  small (a : α) : label a = (name a).toLower
  /-- The integer of a variant has the label of the first variant that has this integer. -/
  first (a : α) : ∃ before b after, all = before ++ b :: after ∧ code b = code a ∧
    (∀ x ∈ before, code x ≠ code a) ∧ named (.int (code a)) = label b
  /-- An integer of no variant is unknown. -/
  unbound {n : Int} (h : ∀ a, code a ≠ n) : named (.int n) = "unknown"
  /-- Each variant has its own label back exactly where the integers are distinct. -/
  roundTrip : (∀ a, named (.int (code a)) = label a) ↔ Function.Injective code

/-- **Looking for the first variant with an integer** gives these names. -/
theorem namedByFirst_of_find? (hall : ∀ a, a ∈ all) (hsmall : ∀ a, label a = (name a).toLower)
    (hlabel : Function.Injective label)
    (hnamed : ∀ v, named v = ((all.find? fun a => v.equalsInt (code a)).map label).getD "unknown") :
    NamedByFirst all name label code named := by
  have equal : ∀ {n m : Int}, (Json.int n).equalsInt m = true ↔ n = m := beq_iff_eq
  have first : ∀ a, ∃ before b after, all = before ++ b :: after ∧ code b = code a ∧
      (∀ x ∈ before, code x ≠ code a) ∧ named (.int (code a)) = label b := by
    intro a
    have hsome : (all.find? fun b => (Json.int (code a)).equalsInt (code b)).isSome :=
      List.find?_isSome.2 ⟨a, hall a, equal.2 rfl⟩
    obtain ⟨b, hb⟩ := Option.isSome_iff_exists.1 hsome
    obtain ⟨hcode, before, after, hsplit, hbefore⟩ := List.find?_eq_some_iff_append.1 hb
    refine ⟨before, b, after, hsplit, (equal.1 hcode).symm, fun x hx heq => ?_, ?_⟩
    · have hne := hbefore x hx
      rw [equal.2 heq.symm] at hne
      cases hne
    · rw [hnamed, hb]
      rfl
  refine ⟨hsmall, first, fun {n} h => ?_, fun h a b hab => ?_, fun h a => ?_⟩
  · have hnone : (all.find? fun a => (Json.int n).equalsInt (code a)) = none :=
      List.find?_eq_none.2 fun a _ hn => h a (equal.1 hn).symm
    rw [hnamed, hnone]
    rfl
  · exact hlabel ((h a).symm.trans (hab ▸ h b))
  · obtain ⟨_, b, _, -, hcode, -, hb⟩ := first a
    rw [hb, h hcode]

theorem Status.label_injective : Function.Injective Status.label := fun a b h => by
  cases a <;> cases b <;> first | rfl | exact absurd h (by decide)

theorem Health.label_injective : Function.Injective Health.label := fun a b h => by
  cases a <;> cases b <;> first | rfl | exact absurd h (by decide)

namespace Constants

/-- **The names of statuses.** -/
theorem namedByFirst_status (k : Constants) :
    NamedByFirst Status.all Status.name Status.label k.status k.statusLabel := by
  refine namedByFirst_of_find? Status.mem_all (fun s => ?_) Status.label_injective fun v => ?_
  · cases s <;> decide +kernel
  · unfold statusLabel
    split <;> rename_i h <;> rw [h] <;> rfl

/-- **The names of healths.** -/
theorem namedByFirst_health (k : Constants) :
    NamedByFirst Health.all Health.name Health.label k.health k.healthLabel := by
  refine namedByFirst_of_find? Health.mem_all (fun h => ?_) Health.label_injective fun v => ?_
  · cases h <;> decide +kernel
  · unfold healthLabel
    split <;> rename_i h <;> rw [h] <;> rfl

variable {source : ConstantSource} {k : Constants}

/-- A binding has the constants of its source. -/
theorem ofSource_of_bind {s : Snapshot} (h : Constants.bind source s = .ok k) :
    ofSource source = .ok k := by
  obtain ⟨k', hk, hrest⟩ := bind_eq_ok.1 h
  obtain ⟨_, -, hreturn⟩ := bind_eq_ok.1 hrest
  cases hreturn
  exact hk

/-- **The integers of a binding** are those that the source has under the names of the
variants. -/
theorem get?_of_ofSource (h : ofSource source = .ok k) :
    (∀ s : Status, Json.Members.get? s.constantName source = some (.int (k.status s))) ∧
      ∀ h : Health, Json.Members.get? h.constantName source = some (.int (k.health h)) := by
  unfold ofSource at h
  split at h
  · cases h
  · rename_i hnone
    cases h
    have good : ∀ n ∈ ConstantSource.names,
        Json.Members.get? n source = some (.int (source.integer n)) := by
      intro n hn
      have hdefect := List.findSome?_eq_none_iff.1 hnone n hn
      unfold ConstantSource.defect? at hdefect
      unfold ConstantSource.integer
      split at hdefect <;> simp_all
    exact ⟨fun s => good _ (List.mem_append_left _ (List.mem_map_of_mem (Status.mem_all s))),
      fun h => good _ (List.mem_append_right _ (List.mem_map_of_mem (Health.mem_all h)))⟩

end Constants
end PowerSupply
