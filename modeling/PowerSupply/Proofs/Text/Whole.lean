/-
# Texts that are one integer

A text is a whole number where it is made of margins, a sign or none, at least one decimal
digit of any script, and margins again (`Whole`).  These are the texts that the reader of
whole numbers takes, apart from those with underscores between their digits
(`whole?_eq_some_iff`).

The margins at the end are something else than a digit, and margins are blanks.  So a whole
number opens the text that it is, with the same digits (`opens_of_whole`), and the reader that
takes an integer off the start of a text agrees with the one that wants the whole text, on the
integer and on the number of its digits (`openingDigits_of_whole`).
-/

import Mathlib.Data.List.DropRight
import PowerSupply.Proofs.Text.Numeral

namespace PowerSupply
namespace Text

/-- A text that is one integer of so many digits: margins, a sign, digits with their values,
and margins. -/
inductive Whole : List Char → Nat → Int → Prop where
  | intro {before sign digits after : List Char} {factor : Int} {values : List Nat}
      (hbefore : ∀ c ∈ before, isMargin c = true) (hsign : Sign sign factor)
      (hvalues : digits.map digit? = values.map some) (nonempty : digits ≠ [])
      (hafter : ∀ c ∈ after, isMargin c = true) :
      Whole (before ++ sign ++ digits ++ after) digits.length
        (factor * (Nat.ofDigits 10 values.reverse : Nat))

/-! ### What is no margin -/

/-- What is no blank is no margin. -/
theorem isMargin_of_isBlank {c : Char} (h : isBlank c = false) : isMargin c = false := by
  rw [Bool.eq_false_iff]
  intro hm
  rw [isBlank_of_isMargin hm] at h
  cases h

/-- No digit is an underscore. -/
theorem underscore_notMem_digits {digits : List Char} {values : List Nat}
    (hvalues : digits.map digit? = values.map some) : '_' ∉ digits := by
  intro hu
  obtain ⟨d, hd⟩ := exists_digit_of_mem hvalues hu
  have hnone : digit? '_' = none := by decide
  rw [hnone] at hd
  cases hd

/-- There are no underscores in a whole number. -/
theorem underscore_notMem_of_whole {s : List Char} {k : Nat} {n : Int} (h : Whole s k n) :
    '_' ∉ s := by
  obtain ⟨hbefore, hsign, hvalues, -, hafter⟩ := h
  intro hu
  simp only [List.mem_append, or_assoc] at hu
  rcases hu with hu | hu | hu | hu
  · exact absurd (hbefore _ hu) (by decide)
  · cases hsign <;> simp at hu
  · exact underscore_notMem_digits hvalues hu
  · exact absurd (hafter _ hu) (by decide)

/-- No margin may stand in a run of digits with underscores. -/
theorem isGrouped_of_isMargin {c : Char} (h : isMargin c = true) : isGrouped c = false := by
  have hne : c ≠ '_' := by
    rintro rfl
    exact absurd h (by decide)
  unfold isGrouped
  cases hd : digit? c with
  | none => simp [hne]
  | some d =>
    rw [isMargin_of_isBlank (isBlank_of_digit? hd)] at h
    cases h

/-! ### Margins around a text -/

/-- A text is what is left of it, with margins on both sides. -/
theorem exists_margins (s : List Char) :
    ∃ before after, s = before ++ trimMargins s ++ after ∧
      (∀ c ∈ before, isMargin c = true) ∧ ∀ c ∈ after, isMargin c = true := by
  have hparts : trimMargins s ++ (s.dropWhile isMargin).rtakeWhile isMargin =
      s.dropWhile isMargin := List.rdropWhile_append_rtakeWhile ..
  refine ⟨s.takeWhile isMargin, (s.dropWhile isMargin).rtakeWhile isMargin, ?_,
    List.all_eq_true.1 List.all_takeWhile, fun c hc => List.mem_rtakeWhile_imp hc⟩
  rw [List.append_assoc, hparts, List.takeWhile_append_dropWhile]

/-- **Margins are taken off** a text that has none of its own. -/
theorem trimMargins_append {before s after : List Char}
    (hbefore : ∀ c ∈ before, isMargin c = true) (hafter : ∀ c ∈ after, isMargin c = true)
    (hne : s ≠ []) (hs : ∀ c ∈ s, isMargin c = false) :
    trimMargins (before ++ s ++ after) = s := by
  -- the same twice: from the front, and from behind on the reversed text
  have front : (before ++ (s ++ after)).dropWhile isMargin = s ++ after :=
    dropWhile_append_append hbefore hs hne after
  have back : (after.reverse ++ (s.reverse ++ [])).dropWhile isMargin = s.reverse ++ [] :=
    dropWhile_append_append (fun c hc => hafter c (List.mem_reverse.1 hc))
      (fun c hc => hs c (List.mem_reverse.1 hc)) (by simpa using hne) []
  rw [List.append_nil] at back
  unfold trimMargins
  rw [List.append_assoc, front, List.reverse_append, back, List.reverse_reverse]

/-! ### Digits without underscores -/

/-- Digits and their values are taken off together. -/
theorem map_digit?_cons {c : Char} {s : List Char} {values : List Nat} :
    (c :: s).map digit? = values.map some ↔
      ∃ d, digit? c = some d ∧ ∃ ds, s.map digit? = ds.map some ∧ d :: ds = values := by
  rw [eq_comm, List.map_cons, List.map_eq_cons_iff]
  constructor
  · rintro ⟨d, ds, rfl, hd, hds⟩
    exact ⟨d, hd.symm, ds, hds.symm, rfl⟩
  · rintro ⟨d, hd, ds, hds, rfl⟩
    exact ⟨d, ds, rfl, hd.symm, hds.symm⟩

/-- **Without underscores** digits are read one by one. -/
theorem groupedDigits?_eq_some_iff {s : List Char} {values : List Nat} (hs : '_' ∉ s) :
    groupedDigits? s = some values ↔ s ≠ [] ∧ s.map digit? = values.map some := by
  fun_induction groupedDigits? s generalizing values with
  | case1 => simp
  | case2 c =>
    rw [map_digit?_cons, Option.map_eq_some_iff]
    simp
  | case3 c r ih => simp at hs
  | case4 c r hne hne' ih =>
    have hr : r ≠ [] := fun h => hne h
    have ih := fun ds => @ih ds fun h => hs (List.mem_cons_of_mem _ h)
    rw [map_digit?_cons]
    simp [Option.bind_eq_some_iff, ih, hr]

/-- Digits are read. -/
theorem groupedDigits?_of_digits {digits : List Char} {values : List Nat}
    (hvalues : digits.map digit? = values.map some) (nonempty : digits ≠ []) :
    groupedDigits? digits = some values :=
  (groupedDigits?_eq_some_iff (underscore_notMem_digits hvalues)).2 ⟨nonempty, hvalues⟩

/-- The run of digits ends where margins begin. -/
theorem takeWhile_isGrouped {digits after : List Char} {values : List Nat}
    (hvalues : digits.map digit? = values.map some) (hafter : ∀ c ∈ after, isMargin c = true) :
    (digits ++ after).takeWhile isGrouped = digits := by
  have hdigits : ∀ c ∈ digits, isGrouped c = true := by
    intro c hc
    obtain ⟨d, hd⟩ := exists_digit_of_mem hvalues hc
    simp [isGrouped, hd]
  rw [List.takeWhile_append_of_pos hdigits]
  cases after with
  | nil => exact List.append_nil _
  | cons c r =>
    have hc := isGrouped_of_isMargin (hafter c (List.mem_cons_self ..))
    rw [List.takeWhile_cons_of_neg (by simp [hc]), List.append_nil]

/-! ### The reader and the grammar -/

/-- What is read as a whole number is one. -/
theorem exists_whole_of_whole? {s : List Char} {n : Int} (hs : '_' ∉ s) (h : whole? s = some n) :
    ∃ k, Whole s k n := by
  obtain ⟨before, after, hparts, hbefore, hafter⟩ := exists_margins s
  obtain ⟨sign, factor, hsplit, hsign, hfactor⟩ := exists_sign (trimMargins s)
  unfold whole? at h
  dsimp only at h
  obtain ⟨values, hread, hn⟩ := Option.map_eq_some_iff.1 h
  rw [hsplit, ← List.append_assoc] at hparts
  have hdigits : '_' ∉ (takeSign (trimMargins s)).2 := by
    intro hu
    rw [hparts] at hs
    exact hs (List.mem_append_left _ (List.mem_append_right _ hu))
  obtain ⟨nonempty, hvalues⟩ := (groupedDigits?_eq_some_iff hdigits).1 hread
  rw [hparts, ← hn, hfactor, ofDigits_eq]
  exact ⟨_, .intro hbefore hsign hvalues nonempty hafter⟩

/-- A whole number is read. -/
theorem whole?_of_whole {s : List Char} {k : Nat} {n : Int} (h : Whole s k n) :
    whole? s = some n := by
  obtain ⟨hbefore, hsign, hvalues, nonempty, hafter⟩ := h
  rename_i before sign digits after factor values
  have htrim : trimMargins (before ++ (sign ++ digits) ++ after) = sign ++ digits :=
    trimMargins_append hbefore hafter (List.append_ne_nil_of_right_ne_nil _ nonempty)
      fun c hc => isMargin_of_isBlank (isBlank_of_mem_numeral hsign hvalues c hc)
  obtain ⟨negative, htake, hfactor⟩ := takeSign_append hsign hvalues nonempty []
  rw [List.append_nil] at htake
  unfold whole?
  rw [List.append_assoc before, htrim, htake]
  dsimp only
  rw [groupedDigits?_of_digits hvalues nonempty, Option.map_some, hfactor, ofDigits_eq]

/-- **The digits of a whole number are counted**: their run ends where the margins begin. -/
theorem openingDigits_of_whole {s : List Char} {k : Nat} {n : Int} (h : Whole s k n) :
    openingDigits s = k := by
  obtain ⟨hbefore, hsign, hvalues, nonempty, hafter⟩ := h
  rename_i before sign digits after factor values
  have hdrop : (before ++ (sign ++ digits ++ after)).dropWhile isMargin =
      sign ++ digits ++ after :=
    dropWhile_append_append hbefore
      (fun c hc => isMargin_of_isBlank (isBlank_of_mem_numeral hsign hvalues c hc))
      (List.append_ne_nil_of_right_ne_nil _ nonempty) after
  obtain ⟨negative, htake, -⟩ := takeSign_append hsign hvalues nonempty after
  unfold openingDigits
  rw [List.append_assoc before, List.append_assoc before, hdrop, List.append_assoc, htake]
  dsimp only
  rw [takeWhile_isGrouped hvalues hafter, groupedDigits?_of_digits hvalues nonempty,
    Option.getD_some, length_digits hvalues]

/-- **The texts that are read as a whole number**, without underscores, are those that are
one. -/
theorem whole?_eq_some_iff {s : List Char} {n : Int} :
    whole? s = some n ∧ '_' ∉ s ↔ Whole s (openingDigits s) n := by
  constructor
  · rintro ⟨h, hs⟩
    obtain ⟨k, hk⟩ := exists_whole_of_whole? hs h
    exact openingDigits_of_whole hk ▸ hk
  · exact fun h => ⟨whole?_of_whole h, underscore_notMem_of_whole h⟩

/-- **A whole number opens its text:** what comes after the last digit is a margin. -/
theorem opens_of_whole {s : List Char} {k : Nat} {n : Int} (h : Whole s k n) : Opens s k n := by
  obtain ⟨hbefore, hsign, hvalues, nonempty, hafter⟩ := h
  refine .intro (fun c hc => isBlank_of_isMargin (hbefore c hc)) hsign hvalues nonempty ?_
  intro c hc
  cases hd : digit? c with
  | none => rfl
  | some d =>
    have hmargin := hafter c (List.mem_of_mem_head? hc)
    rw [isMargin_of_isBlank (isBlank_of_digit? hd)] at hmargin
    cases hmargin

/-- A written integer is a whole number with any margins around it. -/
theorem whole_decimal (n : Int) {before after : List Char}
    (hbefore : ∀ c ∈ before, isMargin c = true) (hafter : ∀ c ∈ after, isMargin c = true) :
    Whole (before ++ decimal n ++ after) (decimalDigits n) n := by
  obtain ⟨sign, factor, digits, values, hdecimal, hsign, hvalues, nonempty, hcount, hn⟩ :=
    exists_decimal n
  have hwhole := Whole.intro hbefore hsign hvalues nonempty hafter
  rw [hcount, hn, List.append_assoc before, ← hdecimal] at hwhole
  exact hwhole

end Text
end PowerSupply
