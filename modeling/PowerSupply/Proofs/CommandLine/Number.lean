/-
# Whole numbers on the command line and in attributes

The interval on the command line has to be a whole number of at least one.  The integer of an
attribute is only what its text opens with, so it is read from far more texts.  Where both
readers find an integer it is the same one: a whole number opens its text, with the same
digits, so that neither reader finds too many of them where the other does not.  Only
underscores set the two apart, which the one reads between digits and at which the other
stops.

A written integer is a whole number with any margins around it, and so it is either read back
or refused for being below one, never for its form (`positiveInt_of_whole`).
-/

import PowerSupply.CommandLine.Request
import PowerSupply.Proofs.Attribute.Number
import PowerSupply.Proofs.Text.Whole

namespace PowerSupply
namespace CommandLine

open Attribute (integerOr)
open Text (Whole isMargin decimal digitLimit)

/-- **A whole number** is read where it is at least one, and refused for its size elsewhere. -/
theorem positiveInt_of_whole {text : String} {k : Nat} {n : Int} (h : Whole text.toList k n)
    (hk : k ≤ digitLimit) :
    positiveInt text = if 1 ≤ n then .ok n else .error (.belowOne text) := by
  unfold positiveInt
  rw [Text.openingDigits_of_whole h, if_neg (Nat.not_lt.2 hk), Text.whole?_of_whole h]
  dsimp only
  by_cases hn : 1 ≤ n
  · rw [if_pos hn, if_neg (by omega)]
  · rw [if_neg hn, if_pos (by omega)]

/-- Without underscores nothing else is read. -/
theorem positiveInt_eq_ok_iff_whole {text : String} (hu : '_' ∉ text.toList) {n : Int} :
    positiveInt text = .ok n ↔ ∃ k, Whole text.toList k n ∧ k ≤ digitLimit ∧ 1 ≤ n := by
  rw [positiveInt_eq_ok_iff]
  constructor
  · rintro ⟨hread, hdigits, hn⟩
    exact ⟨_, Text.whole?_eq_some_iff.1 ⟨hread, hu⟩, hdigits, hn⟩
  · rintro ⟨k, hwhole, hdigits, hn⟩
    exact ⟨Text.whole?_of_whole hwhole, Text.openingDigits_of_whole hwhole ▸ hdigits, hn⟩

/-- **The two readers of integers agree.**  The texts without an underscore that are read as
an interval are the whole numbers of at least one, with margins on both sides and digits of
any script, as long as there are not too many digits.  The integer that such a text opens
with is the same one, whatever the value to fall back on, and nothing is noted.  An integer
in ASCII digits, not too many of them, is read back from between any margins where it is at
least one, and refused as too small elsewhere. -/
theorem integers_of_both_readers :
    (∀ text n, '_' ∉ text.toList →
      (positiveInt text = .ok n ↔ ∃ k, Whole text.toList k n ∧ k ≤ digitLimit ∧ 1 ≤ n)) ∧
    (∀ text n, '_' ∉ text.toList → positiveInt text = .ok n →
      ∀ fallback, integerOr fallback (some text) = pure n) ∧
    ∀ n before after, n.natAbs < 10 ^ digitLimit → (∀ c ∈ before, isMargin c = true) →
      (∀ c ∈ after, isMargin c = true) →
      ∀ text, text = String.ofList (before ++ decimal n ++ after) →
        positiveInt text = if 1 ≤ n then .ok n else .error (.belowOne text) := by
  refine ⟨fun text n hu => positiveInt_eq_ok_iff_whole hu, fun text n hu hread fallback => ?_,
    fun n before after hn hbefore hafter text htext => ?_⟩
  · obtain ⟨k, hwhole, hk, -⟩ := (positiveInt_eq_ok_iff_whole hu).1 hread
    exact Attribute.integerOr_of_opens (Text.opens_of_whole hwhole) hk fallback
  · have hk : Text.decimalDigits n ≤ digitLimit := (Text.decimalDigits_le_iff (by decide)).2 hn
    refine positiveInt_of_whole (k := Text.decimalDigits n) ?_ hk
    rw [htext, String.toList_ofList]
    exact Text.whole_decimal n hbefore hafter

/-- Thirty in digits of two scripts, with a sign and wide spaces around it; and integers in
ASCII digits between a tab, a space and a newline. -/
theorem integers_of_both_readers_between_spaces :
    '_' ∉ "\u3000\t+３٠\u2003\n".toList ∧ positiveInt "\u3000\t+３٠\u2003\n" = .ok 30 ∧
      integerOr 7 (some "\u3000\t+３٠\u2003\n") = pure 30 ∧
      (∃ k, Whole "\u3000\t+３٠\u2003\n".toList k 30 ∧ k ≤ digitLimit) ∧
      (30 : Int).natAbs < 10 ^ digitLimit ∧ (-5 : Int).natAbs < 10 ^ digitLimit ∧
      (∀ c ∈ ['\t', ' '], isMargin c = true) ∧ (∀ c ∈ ['\n'], isMargin c = true) ∧
      positiveInt (String.ofList (['\t', ' '] ++ decimal 30 ++ ['\n'])) = .ok 30 ∧
      positiveInt (String.ofList (['\t', ' '] ++ decimal (-5) ++ ['\n'])) =
        .error (.belowOne (String.ofList (['\t', ' '] ++ decimal (-5) ++ ['\n']))) := by
  obtain ⟨accepted, same, written⟩ := integers_of_both_readers
  have hu : '_' ∉ "\u3000\t+３٠\u2003\n".toList := by decide
  have hread : positiveInt "\u3000\t+３٠\u2003\n" = .ok 30 :=
    positiveInt_eq_ok_iff.2 ⟨by decide, by decide, by decide⟩
  obtain ⟨k, hwhole, hk, -⟩ := (accepted _ _ hu).1 hread
  have hthirty : (30 : Int).natAbs < 10 ^ digitLimit :=
    (Text.decimalDigits_le_iff (by decide)).1 (by decide)
  have hfive : (-5 : Int).natAbs < 10 ^ digitLimit :=
    (Text.decimalDigits_le_iff (by decide)).1 (by decide)
  have hbefore : ∀ c ∈ ['\t', ' '], isMargin c = true :=
    List.all_eq_true.1 (show ['\t', ' '].all isMargin = true by rfl)
  have hafter : ∀ c ∈ ['\n'], isMargin c = true :=
    List.all_eq_true.1 (show ['\n'].all isMargin = true by rfl)
  exact ⟨hu, hread, same _ _ hu hread 7, ⟨k, hwhole, hk⟩, hthirty, hfive, hbefore, hafter,
    (written 30 _ _ hthirty hbefore hafter _ rfl).trans (if_pos (by decide)),
    (written (-5) _ _ hfive hbefore hafter _ rfl).trans (if_neg (by decide))⟩

end CommandLine
end PowerSupply
