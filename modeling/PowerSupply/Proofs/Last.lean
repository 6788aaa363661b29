/-
# The last element that has something

`last? f xs` is the value of `f` at the last element of `xs` that has one.  Discovery
takes each quantity from the last battery that offers it, and a history of
refreshes keeps what the last tree said.

The value is pinned down by the elements behind it, which have none
(`last?_eq_some_iff`), and it is what stays of a fold in which later values take the
place of earlier ones (`foldl_or`).
-/

namespace PowerSupply

variable {α β : Type}

/-- The value at the last element that has one. -/
def last? (f : α → Option β) (xs : List α) : Option β := xs.reverse.findSome? f

namespace Last

variable {f : α → Option β} {xs ys : List α}

@[simp] theorem last?_nil (f : α → Option β) : last? f [] = none := rfl

@[simp] theorem last?_singleton (f : α → Option β) (x : α) : last? f [x] = f x := by
  simp [last?]

theorem last?_append (f : α → Option β) (xs ys : List α) :
    last? f (xs ++ ys) = (last? f ys).or (last? f xs) := by
  unfold last?
  rw [List.reverse_append, List.findSome?_append]

theorem last?_cons (f : α → Option β) (x : α) (xs : List α) :
    last? f (x :: xs) = (last? f xs).or (f x) := by
  rw [← List.singleton_append, last?_append, last?_singleton]

theorem last?_concat (f : α → Option β) (xs : List α) (x : α) :
    last? f (xs ++ [x]) = (f x).or (last? f xs) := by
  rw [last?_append, last?_singleton]

/-- The last of the images is the image of the last. -/
theorem last?_map {γ : Type} (f : α → Option β) (g : β → γ) (xs : List α) :
    last? (fun x => (f x).map g) xs = (last? f xs).map g := by
  induction xs with
  | nil => rfl
  | cons x xs ih => rw [last?_cons, last?_cons, ih, Option.map_or]

/-- There is no last value exactly where no element has one. -/
theorem last?_eq_none_iff : last? f xs = none ↔ ∀ x ∈ xs, f x = none := by
  unfold last?
  rw [List.findSome?_eq_none_iff]
  simp

/-- **The last value has nothing behind it.** -/
theorem last?_eq_some_iff {b : β} :
    last? f xs = some b ↔
      ∃ before x after, xs = before ++ x :: after ∧ f x = some b ∧ ∀ y ∈ after, f y = none := by
  unfold last?
  rw [List.findSome?_eq_some_iff]
  constructor
  · rintro ⟨l, x, r, hxs, hx, hl⟩
    refine ⟨r.reverse, x, l.reverse, ?_, hx, fun y hy => hl y (List.mem_reverse.1 hy)⟩
    rw [← List.reverse_reverse xs, hxs]
    simp
  · rintro ⟨before, x, after, rfl, hx, ha⟩
    exact ⟨after.reverse, x, before.reverse, by simp, hx, fun y hy => ha y (List.mem_reverse.1 hy)⟩

/-- A last value is the value of an element. -/
theorem exists_mem_of_last? {b : β} (h : last? f xs = some b) : ∃ x ∈ xs, f x = some b := by
  obtain ⟨before, x, after, rfl, hx, -⟩ := last?_eq_some_iff.1 h
  exact ⟨x, by simp, hx⟩

/-- There is a last value exactly where some element has one. -/
theorem isSome_last?_iff : (last? f xs).isSome ↔ ∃ x ∈ xs, (f x).isSome := by
  constructor
  · intro h
    obtain ⟨b, hb⟩ := Option.isSome_iff_exists.1 h
    obtain ⟨x, hx, hf⟩ := exists_mem_of_last? hb
    exact ⟨x, hx, by rw [hf]; rfl⟩
  · rintro ⟨x, hx, hs⟩
    cases hl : last? f xs with
    | some b => rfl
    | none =>
      rw [last?_eq_none_iff.1 hl x hx] at hs
      cases hs

/-- Elements without a value do not count. -/
theorem last?_filter {p : α → Bool} (h : ∀ x ∈ xs, p x = false → f x = none) :
    last? f (xs.filter p) = last? f xs := by
  induction xs with
  | nil => rfl
  | cons x xs ih =>
    have rest := ih fun y hy => h y (List.mem_cons_of_mem _ hy)
    rw [List.filter_cons, last?_cons]
    cases hx : p x with
    | true => rw [if_pos rfl, last?_cons, rest]
    | false => rw [if_neg Bool.false_ne_true, rest, h x (List.mem_cons_self ..) hx, Option.or_none]

/-- Two functions with the same values on the elements have the same last value. -/
theorem last?_congr {g : α → Option β} (h : ∀ x ∈ xs, f x = g x) : last? f xs = last? g xs := by
  induction xs with
  | nil => rfl
  | cons x xs ih =>
    rw [last?_cons, last?_cons, h x (List.mem_cons_self ..),
      ih fun y hy => h y (List.mem_cons_of_mem _ hy)]

/-- **A fold in which later values take the place of earlier ones** ends with the last
value, or with what was there at the start. -/
theorem foldl_or (f : α → Option β) (xs : List α) (start : Option β) :
    xs.foldl (fun v x => (f x).or v) start = (last? f xs).or start := by
  induction xs generalizing start with
  | nil => rfl
  | cons x xs ih => rw [List.foldl_cons, ih, last?_cons, Option.or_assoc]

end Last
end PowerSupply
