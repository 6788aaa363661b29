/-
# Merging nested objects

`merge base upper` is `upper` laid over `base`: where both are objects their members
are merged key by key, and otherwise `upper` wins.  The keys of the base come first
and in its order, then the new ones.
-/

import PowerSupply.Json.Basic

namespace PowerSupply
namespace Json

mutual

/-- `upper` laid over `base`. -/
def merge (base : Json) : Json → Json
  | .obj upper =>
    match base with
    | .obj ms => .obj (mergeMembers ms upper)
    | _ => .obj upper
  | upper => upper

/-- The members of an object after those of another one are laid over it one by one. -/
def mergeMembers (base : Members) : Members → Members
  | [] => base
  | (k, v) :: rest =>
    mergeMembers (Members.set k
      (match Members.get? k base with
        | some b => merge b v
        | none => v) base) rest

end

/-- A value that is no object takes the place of the base. -/
theorem merge_of_not_obj {base upper : Json} (h : ∀ ms, upper ≠ .obj ms) :
    merge base upper = upper := by
  unfold merge
  split
  · rename_i ms
    exact absurd rfl (h ms)
  · rfl

end Json
end PowerSupply
