/-
# Which characters a written value has

A text is written in visible ASCII characters, whatever characters it has
(`visible_of_mem_printText`), a number in digits, signs, a point and letters
(`visible_of_mem_printFloat`), and so is every other value but for what the layout puts
between the tokens (`visible_of_mem_print`).  On one line these are blanks, so all of the
line is visible (`visible_of_mem_compact`).  In no layout are they anything but blanks and
line feeds, so no written value has a carriage return (`not_mem_print`).
-/

import PowerSupply.Proofs.Json.RoundTrip

namespace PowerSupply
namespace Json

/-- Whether a character is a visible ASCII character or the blank. -/
def Visible (c : Char) : Prop := ' ' ≤ c ∧ c ≤ '~'

instance : DecidablePred Visible := fun c => inferInstanceAs (Decidable (' ' ≤ c ∧ c ≤ '~'))

/-- The digits up to sixteen are visible, and so is what stands for a larger one. -/
theorem visible_digitChar (d : Nat) : Visible d.digitChar := by
  by_cases h : d < 16
  · have all : ∀ d : Fin 16, Visible d.val.digitChar := by decide
    exact all ⟨d, h⟩
  · rw [Nat.digitChar_eq_star.2 (by omega)]
    decide

theorem visible_of_mem_unitEscape {n : Nat} (h : n < 0x10000) {x : Char} (hx : x ∈ unitEscape n) :
    Visible x := by
  unfold unitEscape at hx
  rw [Text.hex_four h] at hx
  simp only [List.mem_cons, List.not_mem_nil, or_false] at hx
  rcases hx with rfl | rfl | rfl | rfl | rfl | rfl
  · decide
  · decide
  all_goals exact visible_digitChar _

/-- What is written for a character is visible: the escapes are short words of letters
and digits, and only visible characters stand for themselves. -/
theorem visible_of_mem_escapeChar {c x : Char} (hx : x ∈ escapeChar c) : Visible x := by
  have letter {e : Char} (he : Visible e) (hx : x ∈ ['\\', e]) : Visible x := by
    rcases List.mem_cons.1 hx with rfl | hx
    · decide
    · exact List.mem_singleton.1 hx ▸ he
  unfold escapeChar at hx
  split at hx
  · exact letter (by decide) hx
  split at hx
  · exact letter (by decide) hx
  split at hx
  · exact letter (by decide) hx
  split at hx
  · exact letter (by decide) hx
  split at hx
  · exact letter (by decide) hx
  split at hx
  · exact letter (by decide) hx
  split at hx
  · exact letter (by decide) hx
  split at hx
  · rename_i h
    exact List.mem_singleton.1 hx ▸ h
  split at hx
  · rename_i h
    exact visible_of_mem_unitEscape h hx
  · have valid : c.toNat < 0xD800 ∨ 0xDFFF < c.toNat ∧ c.toNat < 0x110000 := c.valid
    rcases List.mem_append.1 hx with hx | hx
    · exact visible_of_mem_unitEscape (by omega) hx
    · exact visible_of_mem_unitEscape (by omega) hx

/-- **A written text** consists of visible characters. -/
theorem visible_of_mem_printText {s : String} {x : Char} (hx : x ∈ printText s) : Visible x := by
  simp only [printText, List.cons_append, List.mem_cons, List.mem_append, List.mem_flatMap,
    List.not_mem_nil, or_false] at hx
  rcases hx with rfl | ⟨c, _, hx⟩ | rfl
  · decide
  · exact visible_of_mem_escapeChar hx
  · decide

/-- Whether a layout puts a character between tokens. -/
def Layout.Has (layout : Layout) (x : Char) : Prop :=
  ∃ depth, x ∈ layout.opening depth ∨ x ∈ layout.between depth ∨ x ∈ layout.closing depth

theorem visible_of_all {w : List Char} (h : w.all (decide <| Visible ·) = true) {x : Char}
    (hx : x ∈ w) : Visible x :=
  of_decide_eq_true (List.all_eq_true.1 h x hx)

theorem visible_of_isDigit {c : Char} (h : c.isDigit = true) : Visible c := by
  simp only [Char.isDigit, Bool.and_eq_true, decide_eq_true_eq] at h
  exact ⟨Nat.le_trans (by decide) (UInt32.le_iff_toNat_le.1 h.1),
    Nat.le_trans (UInt32.le_iff_toNat_le.1 h.2) (by decide)⟩

theorem visible_of_mem_decimal {n : Int} {x : Char} (hx : x ∈ Text.decimal n) : Visible x := by
  rcases Text.mem_decimal hx with rfl | h
  · decide
  · exact visible_of_isDigit h

/-- A number with a point in it is written in the digits that it has, zeros and the
point. -/
theorem visible_of_mem_withPoint {ds : List Char} (h : ∀ c ∈ ds, Visible c) {k : Int} {x : Char}
    (hx : x ∈ Binary64.withPoint ds k) : Visible x := by
  have zeros {n : Nat} (hx : x ∈ List.replicate n '0') : Visible x :=
    List.eq_of_mem_replicate hx ▸ by decide
  unfold Binary64.withPoint at hx
  split at hx
  · simp only [List.cons_append, List.mem_cons, List.mem_append] at hx
    rcases hx with rfl | rfl | hx | hx
    · decide
    · decide
    · exact zeros hx
    · exact h x hx
  · simp only [List.mem_cons, List.mem_append] at hx
    rcases hx with (hx | hx) | rfl | hx
    · exact h x (List.mem_of_mem_take hx)
    · exact zeros hx
    · decide
    · split at hx
      · exact List.mem_singleton.1 hx ▸ by decide
      · exact h x (List.mem_of_mem_drop hx)

/-- A number with an exponent is written in the digits that it has, those of the exponent,
the point and the sign. -/
theorem visible_of_mem_withExponent {ds : List Char} (h : ∀ c ∈ ds, Visible c) {e : Int} {x : Char}
    (hx : x ∈ Binary64.withExponent ds e) : Visible x := by
  simp only [Binary64.withExponent, List.mem_cons, List.mem_append] at hx
  rcases hx with ((hx | hx) | rfl | rfl | hx) | hx
  · exact h x (List.mem_of_mem_take hx)
  · split at hx
    · cases hx
    · rcases List.mem_cons.1 hx with rfl | hx
      · decide
      · exact h x (List.mem_of_mem_drop hx)
  · decide
  · split <;> decide
  · exact List.eq_of_mem_replicate hx ▸ by decide
  · exact visible_of_isDigit (Text.isDigit_of_mem_toDigits hx)

theorem visible_of_mem_toText {f : Binary64} {x : Char} (hx : x ∈ f.toText.toList) : Visible x := by
  cases f with
  | nan => exact visible_of_all (w := "nan".toList) rfl hx
  | infinity negative => cases negative <;> exact visible_of_all rfl hx
  | finite negative m e =>
    have sign (hx : x ∈ if negative then ['-'] else []) : Visible x := by
      split at hx
      · exact List.mem_singleton.1 hx ▸ by decide
      · cases hx
    unfold Binary64.toText at hx
    simp only at hx
    split at hx
    · rw [String.toList_ofList] at hx
      rcases List.mem_append.1 hx with hx | hx
      · exact sign hx
      · exact visible_of_all rfl hx
    · -- the digits that are laid out are those of a numeral without its last zeros
      have digit : ∀ c ∈ ((Nat.toDigits 10 (Binary64.shortest m e).1).reverse.dropWhile
          (· = '0')).reverse, Visible c := fun c hc =>
        visible_of_isDigit (Text.isDigit_of_mem_toDigits (List.mem_reverse.1
          ((List.dropWhile_sublist _).mem (List.mem_reverse.1 hc))))
      rw [String.toList_ofList] at hx
      rcases List.mem_append.1 hx with hx | hx
      · exact sign hx
      · split at hx
        · exact visible_of_mem_withPoint digit hx
        · exact visible_of_mem_withExponent digit hx

/-- **A written number** consists of visible characters, the words for what is no finite
number included. -/
theorem visible_of_mem_printFloat {f : Binary64} {x : Char} (hx : x ∈ printFloat f) :
    Visible x := by
  cases f with
  | nan => exact visible_of_all (w := "NaN".toList) rfl hx
  | infinity negative => cases negative <;> exact visible_of_all rfl hx
  | finite negative m e => exact visible_of_mem_toText hx

mutual

/-- **A written value** consists of visible characters and those between the tokens. -/
theorem visible_of_mem_print {layout : Layout} {x : Char} : ∀ (j : Json) (depth : Nat),
    x ∈ print layout depth j → Visible x ∨ layout.Has x
  | .null, _, hx => .inl (visible_of_all (w := "null".toList) rfl hx)
  | .bool true, _, hx => .inl (visible_of_all (w := "true".toList) rfl hx)
  | .bool false, _, hx => .inl (visible_of_all (w := "false".toList) rfl hx)
  | .int _, _, hx => .inl (visible_of_mem_decimal hx)
  | .float _, _, hx => .inl (visible_of_mem_printFloat hx)
  | .str _, _, hx => .inl (visible_of_mem_printText hx)
  | .arr [], _, hx => .inl (visible_of_all (w := ['[', ']']) rfl hx)
  | .arr (j :: js), depth, hx => by
    simp only [print, List.cons_append, List.mem_cons, List.mem_append] at hx
    rcases hx with rfl | (hx | hx) | hx
    · exact .inl (by decide)
    · exact .inr ⟨depth, .inl hx⟩
    · exact visible_of_mem_print j _ hx
    · exact visible_of_mem_printItems js depth hx
  | .obj [], _, hx => .inl (visible_of_all (w := ['\x7b', '\x7d']) rfl hx)
  | .obj ((k, v) :: ms), depth, hx => by
    simp only [print, List.cons_append, List.mem_cons, List.mem_append] at hx
    rcases hx with rfl | ((hx | hx) | rfl | rfl | hx) | hx
    · exact .inl (by decide)
    · exact .inr ⟨depth, .inl hx⟩
    · exact .inl (visible_of_mem_printText hx)
    · exact .inl (by decide)
    · exact .inl (by decide)
    · exact visible_of_mem_print v _ hx
    · exact visible_of_mem_printMembers ms depth hx

/-- The items after the first one consist of such characters. -/
theorem visible_of_mem_printItems {layout : Layout} {x : Char} : ∀ (js : List Json) (depth : Nat),
    x ∈ printItems layout depth js → Visible x ∨ layout.Has x
  | [], depth, hx => by
    rcases List.mem_append.1 hx with hx | hx
    · exact .inr ⟨depth, .inr (.inr hx)⟩
    · exact .inl (List.mem_singleton.1 hx ▸ by decide)
  | j :: js, depth, hx => by
    simp only [printItems, List.cons_append, List.mem_cons, List.mem_append] at hx
    rcases hx with rfl | (hx | hx) | hx
    · exact .inl (by decide)
    · exact .inr ⟨depth, .inr (.inl hx)⟩
    · exact visible_of_mem_print j _ hx
    · exact visible_of_mem_printItems js depth hx

/-- The members after the first one consist of such characters. -/
theorem visible_of_mem_printMembers {layout : Layout} {x : Char} : ∀ (ms : Members) (depth : Nat),
    x ∈ printMembers layout depth ms → Visible x ∨ layout.Has x
  | [], depth, hx => by
    rcases List.mem_append.1 hx with hx | hx
    · exact .inr ⟨depth, .inr (.inr hx)⟩
    · exact .inl (List.mem_singleton.1 hx ▸ by decide)
  | (k, v) :: ms, depth, hx => by
    simp only [printMembers, List.cons_append, List.mem_cons, List.mem_append] at hx
    rcases hx with rfl | ((hx | hx) | rfl | rfl | hx) | hx
    · exact .inl (by decide)
    · exact .inr ⟨depth, .inr (.inl hx)⟩
    · exact .inl (visible_of_mem_printText hx)
    · exact .inl (by decide)
    · exact .inl (by decide)
    · exact visible_of_mem_print v _ hx
    · exact visible_of_mem_printMembers ms depth hx

end

/-- **On one line everything is visible.** -/
theorem visible_of_mem_compact {j : Json} {x : Char} (hx : x ∈ j.compact.toList) : Visible x := by
  unfold compact at hx
  rw [String.toList_ofList] at hx
  rcases visible_of_mem_print j 0 hx with h | ⟨d, h | h | h⟩
  · exact h
  · cases h
  · exact List.mem_singleton.1 h ▸ by decide
  · cases h

/-- **No carriage return** is written in a layout of blanks and line feeds. -/
theorem not_mem_print {layout : Layout} (hl : layout.Blank) (j : Json) (depth : Nat) :
    '\r' ∉ print layout depth j := by
  intro hx
  rcases visible_of_mem_print j depth hx with h | ⟨d, h | h | h⟩
  · exact absurd h (by decide)
  · exact absurd (hl.opening d _ h) (by decide)
  · exact absurd (hl.between d _ h) (by decide)
  · exact absurd (hl.closing d _ h) (by decide)

end Json
end PowerSupply
