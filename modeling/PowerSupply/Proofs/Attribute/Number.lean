/-
# The integer that a text stands for

A text stands for the integer that it opens with, and a text that opens with none stands
for a value to fall back on (`integerOr`).  An attribute with a number in it is read that
way (`readInt_eq_bind`).

Which of the two it is depends on the text alone, and so does what is noted: nothing of a
text with an integer, of an empty one or of none, and otherwise one debugging note that
holds the text (`integer_of_text`).

No integer is made of more than so many digits (`digitLimit`).  A text that opens with more
of them stands for nothing, and reading it is a fault (`fault_of_many_digits`).  A text out
of a file is too short for that.
-/

import PowerSupply.Attribute
import PowerSupply.Proofs.Text.Numeral

namespace PowerSupply
namespace Attribute

open Text (Opens EndsDigits isBlank decimal digitLimit)

/-- The integer that a text stands for, or a value to fall back on. -/
def integerOr (fallback : Int) (text : Option String) : Logged Int := do
  return (← leadingInt? text).getD fallback

/-- An integer is read by reading a text. -/
theorem readInt_eq_bind (t : FileTree) (path : Option Path) (fallback : Int) :
    readInt t path fallback = read t path >>= integerOr fallback := rfl

/-- No integer opens the empty text. -/
theorem ne_empty_of_opens {s : String} {k : Nat} {n : Int} (h : Opens s.toList k n) : s ≠ "" := by
  rintro rfl
  have hread := Text.leading?_of_opens h
  cases hread

/-- A text that opens with an integer has it, in silence, if there are not too many digits. -/
theorem leadingInt?_of_opens {s : String} {k : Nat} {n : Int} (h : Opens s.toList k n) :
    leadingInt? (some s) =
      if digitLimit < k then .fail (.notWhole (.tooManyDigits k)) else pure (some n) := by
  unfold leadingInt?
  dsimp only
  rw [if_neg (ne_empty_of_opens h), Text.leading?_of_opens h]
  dsimp only
  rw [Text.leadingDigits_of_opens h]

/-- A text that opens with none is noted, unless it is empty. -/
theorem leadingInt?_of_not_opens {s : String} (h : ∀ k n, ¬Opens s.toList k n) :
    leadingInt? (some s) = ⟨if s = "" then [] else [.notNumeric s], .ok none⟩ := by
  have hnone : Text.leading? s.toList = none :=
    Option.eq_none_iff_forall_ne_some.2 fun n hn => h _ n (Text.opens_of_leading? hn)
  unfold leadingInt?
  dsimp only
  by_cases hs : s = ""
  · rw [if_pos hs, if_pos hs]
    rfl
  · rw [if_neg hs, if_neg hs, hnone]
    rfl

/-- A text stands for the integer that it opens with. -/
theorem integerOr_of_opens {s : String} {k : Nat} {n : Int} (h : Opens s.toList k n)
    (hk : k ≤ digitLimit) (fallback : Int) : integerOr fallback (some s) = pure n := by
  unfold integerOr
  rw [leadingInt?_of_opens h, if_neg (Nat.not_lt.2 hk)]
  exact Trace.pure_bind _ _

/-- **A text that opens with too many digits** is a fault. -/
theorem integerOr_of_many_digits {s : String} {k : Nat} {n : Int} (h : Opens s.toList k n)
    (hk : digitLimit < k) (fallback : Int) :
    integerOr fallback (some s) = .fail (.notWhole (.tooManyDigits k)) := by
  unfold integerOr
  rw [leadingInt?_of_opens h, if_pos hk]
  exact Trace.fail_bind _ _

/-- A text that opens with none stands for the value to fall back on, and is noted. -/
theorem integerOr_of_not_opens {s : String} (h : ∀ k n, ¬Opens s.toList k n) (fallback : Int) :
    integerOr fallback (some s) = ⟨if s = "" then [] else [.notNumeric s], .ok fallback⟩ := by
  unfold integerOr
  rw [leadingInt?_of_not_opens h]
  exact congrArg (Trace.mk · _) (List.append_nil _)

/-- A text can open with any number of digits. -/
theorem exists_opens_ones {k : Nat} (hk : k ≠ 0) : ∃ n, Opens (List.replicate k '1') k n := by
  have hvalues : (List.replicate k '1').map Text.digit? = (List.replicate k 1).map some := by
    rw [List.map_replicate, List.map_replicate]
    rfl
  have nonempty : List.replicate k '1' ≠ [] := fun h => hk ((List.replicate_eq_nil_iff _).1 h)
  have hrest : EndsDigits [] := fun c hc => absurd hc (Option.not_mem_none c)
  have hopens := Opens.intro (fun c hc => absurd hc List.not_mem_nil) .missing hvalues nonempty
    hrest
  rw [List.nil_append, List.nil_append, List.append_nil, List.length_replicate] at hopens
  exact ⟨_, hopens⟩

/-- **A text stands for the integer that it opens with**, and notes nothing, if there are not
too many digits; with more of them it is a fault, and nothing is noted either.  The integer
of an attribute is the one of its text.  A text that opens with none stands for the value to
fall back on, with one debugging note unless it is empty; so does an absent text, without a
note.  In particular a written integer with no more digits than that is read back from
behind any blanks and in front of anything but a digit. -/
theorem integer_of_text (fallback : Int) :
    (∀ t path, readInt t path fallback = read t path >>= integerOr fallback) ∧
      (∀ s k n, Opens s.toList k n → k ≤ digitLimit → integerOr fallback (some s) = pure n) ∧
      (∀ s k n, Opens s.toList k n → digitLimit < k →
        integerOr fallback (some s) = .fail (.notWhole (.tooManyDigits k))) ∧
      (∀ s, (∀ k n, ¬Opens s.toList k n) →
        (integerOr fallback (some s)).result = .ok fallback ∧
          (integerOr fallback (some s)).events = (if s = "" then [] else [.notNumeric s]) ∧
          (Note.notNumeric s).level = .debug) ∧
      integerOr fallback none = pure fallback ∧
      ∀ n blanks rest, n.natAbs < 10 ^ digitLimit → (∀ c ∈ blanks, isBlank c = true) →
        EndsDigits rest →
        integerOr fallback (some (String.ofList (blanks ++ decimal n ++ rest))) = pure n := by
  refine ⟨fun t path => readInt_eq_bind t path fallback,
    fun s k n h hk => integerOr_of_opens h hk fallback,
    fun s k n h hk => integerOr_of_many_digits h hk fallback, fun s h => ?_, rfl,
    fun n blanks rest hn blank hrest => ?_⟩
  · rw [integerOr_of_not_opens h]
    exact ⟨rfl, rfl, rfl⟩
  · have hopens := Text.opens_decimal n blank hrest
    have hk : Text.decimalDigits n ≤ digitLimit := (Text.decimalDigits_le_iff (by decide)).2 hn
    refine integerOr_of_opens (k := Text.decimalDigits n) ?_ hk fallback
    rw [String.toList_ofList]
    exact hopens

/-- Digits of three scripts behind an ideographic space and a file separator; more digits
than an integer is made of; a sign with a blank behind it; and a negative integer with its
unit. -/
theorem integer_of_mixed_scripts :
    Opens "\u3000\x1c+1٢३ mV".toList 3 123 ∧ 3 ≤ digitLimit ∧
      integerOr 7 (some "\u3000\x1c+1٢३ mV") = pure 123 ∧
      (∃ n, Opens (String.ofList (List.replicate 5000 '1')).toList 5000 n) ∧ digitLimit < 5000 ∧
      integerOr 7 (some (String.ofList (List.replicate 5000 '1'))) =
        .fail (.notWhole (.tooManyDigits 5000)) ∧
      (∀ k n, ¬Opens "+ 5".toList k n) ∧
      (integerOr 7 (some "+ 5")).events = [.notNumeric "+ 5"] ∧
      (-40 : Int).natAbs < 10 ^ digitLimit ∧ (∀ c ∈ ['\t', ' '], isBlank c = true) ∧
      EndsDigits ['m', '1'] ∧
      integerOr 7 (some (String.ofList (['\t', ' '] ++ decimal (-40) ++ ['m', '1']))) =
        pure (-40) := by
  have opens : Opens "\u3000\x1c+1٢३ mV".toList 3 123 := Text.opens_of_leading? (by decide)
  have few : 3 ≤ digitLimit := by decide
  obtain ⟨n, many⟩ : ∃ n, Opens (String.ofList (List.replicate 5000 '1')).toList 5000 n := by
    rw [String.toList_ofList]
    exact exists_opens_ones (by decide)
  have tooMany : digitLimit < 5000 := by decide
  have none : ∀ k n, ¬Opens "+ 5".toList k n := by
    intro k n hn
    have hread := Text.leading?_of_opens hn
    cases hread
  have small : (-40 : Int).natAbs < 10 ^ digitLimit :=
    (Text.decimalDigits_le_iff (by decide)).1 (by decide)
  have blank : ∀ c ∈ ['\t', ' '], isBlank c = true :=
    List.all_eq_true.1 (show ['\t', ' '].all isBlank = true by rfl)
  have ends : EndsDigits ['m', '1'] := fun c hc => Option.some.inj hc ▸ by decide
  obtain ⟨-, there, beyond, notThere, -, written⟩ := integer_of_text 7
  exact ⟨opens, few, there _ _ _ opens few, ⟨n, many⟩, tooMany, beyond _ _ _ many tooMany, none,
    (notThere _ none).2.1, small, blank, ends, written _ _ _ small blank ends⟩

/-- The digit one, once more often than an integer may have digits: the text opens with an
integer, but what is read of it is a fault, and no integer. -/
theorem fault_of_many_digits :
    let ones := String.ofList (List.replicate 4301 '1')
    (∃ n, Opens ones.toList 4301 n) ∧
      integerOr 0 (some ones) = .fail (.notWhole (.tooManyDigits 4301)) ∧
      ¬∃ n, (integerOr 0 (some ones)).result = .ok n := by
  intro ones
  obtain ⟨n, hopens⟩ : ∃ n, Opens ones.toList 4301 n := by
    rw [String.toList_ofList]
    exact exists_opens_ones (by decide)
  have hfault := integerOr_of_many_digits hopens (by decide) 0
  refine ⟨⟨n, hopens⟩, hfault, ?_⟩
  rintro ⟨m, hm⟩
  rw [hfault] at hm
  cases hm

end Attribute
end PowerSupply
