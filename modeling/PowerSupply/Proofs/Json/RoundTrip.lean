/-
# Reading back a written value

A value without floating-point numbers, whose objects have each key once, is read back
from its text in every layout whose blanks are blanks (`read_print`).  The order of the
members is kept, for the members that are read are added at the end one by one.

The induction is on the value, along its printer (`readValue_print`).  What is carried
along is what may follow a value (`Ends`): its end must be seen, and a digit, a point or
an exponent would go on with a number.  Going into a list or an object takes two steps
of the reader, which the bound of two for each character pays for.
-/

import PowerSupply.Proofs.Json.Basic
import PowerSupply.Proofs.Json.Text

namespace PowerSupply
namespace Json

/-! ## Blanks -/

/-- Whether a layout puts nothing but blanks and line feeds between the tokens. -/
structure Layout.Blank (layout : Layout) : Prop where
  opening : ∀ depth, ∀ c ∈ layout.opening depth, c = ' ' ∨ c = '\n'
  between : ∀ depth, ∀ c ∈ layout.between depth, c = ' ' ∨ c = '\n'
  closing : ∀ depth, ∀ c ∈ layout.closing depth, c = ' ' ∨ c = '\n'

theorem Layout.blank_compact : Layout.compact.Blank where
  opening _ _ h := absurd h List.not_mem_nil
  between _ _ h := .inl (List.mem_singleton.1 h)
  closing _ _ h := absurd h List.not_mem_nil

theorem Layout.blank_indented : Layout.indented.Blank := by
  have line (n : Nat) : ∀ c ∈ '\n' :: List.replicate n ' ', c = ' ' ∨ c = '\n' := by
    intro c h
    rcases List.mem_cons.1 h with rfl | h
    · exact .inr rfl
    · exact .inl (List.eq_of_mem_replicate h)
  exact ⟨fun _ => line _, fun _ => line _, fun _ => line _⟩

theorem isSpace_of_blank {c : Char} (h : c = ' ' ∨ c = '\n') : isSpace c = true := by
  rcases h with rfl | rfl <;> rfl

/-- Blanks are skipped. -/
theorem skip_append {w : List Char} (h : ∀ c ∈ w, c = ' ' ∨ c = '\n') (s : List Char) :
    skip (w ++ s) = skip s :=
  List.dropWhile_append_of_pos fun c hc => isSpace_of_blank (h c hc)

/-- What is no blank is not skipped. -/
theorem skip_cons {c : Char} (h : isSpace c = false) (s : List Char) : skip (c :: s) = c :: s :=
  List.dropWhile_cons_of_neg (by simp [h])

/-! ## How a value starts and what follows it -/

/-- Whether a value can start with a character. -/
def starts (c : Char) : Bool := c ∈ ['n', 't', 'f', '-', '"', '[', '\x7b'] || c.isDigit

theorem isSpace_of_starts {c : Char} (h : starts c = true) : isSpace c = false := by
  cases hs : isSpace c with
  | false => rfl
  | true =>
    simp only [isSpace, Bool.or_eq_true, decide_eq_true_eq] at hs
    rcases hs with ((rfl | rfl) | rfl) | rfl <;> exact absurd h (by decide)

/-- **How a written value starts.** -/
theorem print_eq_cons (layout : Layout) (depth : Nat) {j : Json} (h : j.notFloat = true) :
    ∃ c s, print layout depth j = c :: s ∧ starts c = true := by
  match j with
  | .null => exact ⟨_, _, rfl, rfl⟩
  | .bool true => exact ⟨_, _, rfl, rfl⟩
  | .bool false => exact ⟨_, _, rfl, rfl⟩
  | .int n =>
    obtain ⟨c, s, hc, hs⟩ := Text.decimal_eq_cons n
    refine ⟨c, s, hc, ?_⟩
    rcases hs with hd | ⟨rfl, -⟩
    · rw [starts, hd, Bool.or_true]
    · rfl
  | .str s => exact ⟨_, _, rfl, rfl⟩
  | .arr [] => exact ⟨_, _, rfl, rfl⟩
  | .arr (j :: js) => exact ⟨_, _, rfl, rfl⟩
  | .obj [] => exact ⟨_, _, rfl, rfl⟩
  | .obj ((k, v) :: ms) => exact ⟨_, _, rfl, rfl⟩

/-- Whether a value ends where a text goes on: with a blank, a comma or a closing
bracket, or not at all. -/
def Ends (r : List Char) : Prop :=
  ∀ c ∈ r.head?, c = ' ' ∨ c = '\n' ∨ c = ',' ∨ c = ']' ∨ c = '\x7d'

theorem ends_nil : Ends [] := fun c h => by cases h

/-- The blanks before a closing bracket end a value, and so does the bracket. -/
theorem ends_blank_append {w : List Char} (hw : ∀ c ∈ w, c = ' ' ∨ c = '\n') {x : Char}
    (hx : x = ']' ∨ x = '\x7d') (r : List Char) : Ends (w ++ x :: r) := by
  intro c hc
  cases w with
  | nil =>
    obtain rfl : x = c := Option.some.inj hc
    rcases hx with rfl | rfl <;> decide
  | cons y w =>
    obtain rfl : y = c := Option.some.inj hc
    rcases hw y (List.mem_cons_self ..) with rfl | rfl <;> decide

theorem ends_printItems {layout : Layout} (hl : layout.Blank) (depth : Nat) (js : List Json)
    (r : List Char) : Ends (printItems layout depth js ++ r) := by
  cases js with
  | nil =>
    rw [printItems, List.append_assoc]
    exact ends_blank_append (hl.closing depth) (.inl rfl) r
  | cons j js =>
    intro c hc
    obtain rfl : ',' = c := Option.some.inj hc
    decide

theorem ends_printMembers {layout : Layout} (hl : layout.Blank) (depth : Nat) (ms : Members)
    (r : List Char) : Ends (printMembers layout depth ms ++ r) := by
  cases ms with
  | nil =>
    rw [printMembers, List.append_assoc]
    exact ends_blank_append (hl.closing depth) (.inr rfl) r
  | cons m ms =>
    obtain ⟨k, v⟩ := m
    intro c hc
    obtain rfl : ',' = c := Option.some.inj hc
    decide

/-! ## Integers -/

/-- The digits of a numeral are read to their end. -/
theorem wholeDigits_append (n : Nat) {r : List Char} (hr : Ends r) :
    wholeDigits (Nat.toDigits 10 n ++ r) = Nat.toDigits 10 n := by
  have run : digits (Nat.toDigits 10 n ++ r) = Nat.toDigits 10 n := by
    have stop : digits r = [] := by
      cases r with
      | nil => rfl
      | cons c r =>
        refine List.takeWhile_cons_of_neg ?_
        rcases hr c rfl with rfl | rfl | rfl | rfl | rfl <;> decide
    unfold digits at stop ⊢
    rw [List.takeWhile_append_of_pos fun c hc => Text.isDigit_of_mem_toDigits hc, stop,
      List.append_nil]
  rcases Text.toDigits_eq_or_head_ne n with hz | ⟨c, s, hc, hne⟩
  · rw [hz]
    rfl
  · rw [hc, List.cons_append] at run ⊢
    rw [wholeDigits, run]
    exact fun _ h => hne (List.cons.inj h).1

theorem readMagnitude_append (negative : Bool) (n : Nat) {r : List Char} (hr : Ends r) :
    readMagnitude negative (Nat.toDigits 10 n ++ r) = some (.int (Text.signed negative n), r) := by
  have fraction : fractionDigits r = [] := by
    cases r with
    | nil => rfl
    | cons c r => rcases hr c rfl with rfl | rfl | rfl | rfl | rfl <;> rfl
  have exponent : exponent? r = none := by
    cases r with
    | nil => rfl
    | cons c r => rcases hr c rfl with rfl | rfl | rfl | rfl | rfl <;> rfl
  have some_digit : (Nat.toDigits 10 n).isEmpty = false := by
    simp [Nat.toDigits_ne_nil]
  unfold readMagnitude
  simp only [wholeDigits_append n hr, some_digit, List.drop_left, fraction, exponent,
    Bool.false_eq_true, if_false, List.isEmpty_nil, if_true]
  rw [digitsValue, Nat.ofDigitChars_ten_toDigits]

theorem readNumber_decimal (n : Int) {r : List Char} (hr : Ends r) :
    readNumber (Text.decimal n ++ r) = some (.int n, r) := by
  unfold Text.decimal
  split
  · have value : Text.signed true n.natAbs = n := by
      show -(n.natAbs : Int) = n
      omega
    rw [List.cons_append, readNumber, readMagnitude_append true n.natAbs hr, value]
  · obtain ⟨d, s, hd, hdigit⟩ := Text.toDigits_eq_cons n.natAbs
    have value : Text.signed false n.natAbs = n := by
      show (n.natAbs : Int) = n
      omega
    rw [readNumber, readMagnitude_append false n.natAbs hr, value]
    · intro s' h
      rw [hd] at h
      obtain rfl : d = '-' := (List.cons.inj h).1
      cases hdigit

/-- **An integer is read back.** -/
theorem readValue_decimal (n : Int) {bound : Nat} (hb : 2 * (Text.decimal n).length ≤ bound)
    {r : List Char} (hr : Ends r) : readValue bound (Text.decimal n ++ r) = .ok (.int n, r) := by
  obtain ⟨c, s, hc, hs⟩ := Text.decimal_eq_cons n
  obtain ⟨bound, rfl⟩ : ∃ b, bound = b + 1 := by
    rw [hc, List.length_cons] at hb
    exact ⟨bound - 1, by omega⟩
  have other {x : Char} (hx : x.isDigit = false) (hm : x ≠ '-') (t : List Char)
      (h : Text.decimal n ++ r = x :: t) : False := by
    rw [hc] at h
    obtain rfl : c = x := (List.cons.inj h).1
    rcases hs with hd | ⟨rfl, -⟩
    · rw [hx] at hd
      cases hd
    · exact hm rfl
  rw [readValue, readNumber_decimal n hr]
  case x_10 =>
    -- a minus sign starts an integer and the negative infinity alike
    intro t h
    rw [hc] at h
    obtain ⟨rfl, ht⟩ := List.cons.inj h
    rcases hs with hd | ⟨-, d, s', rfl, hd⟩
    · cases hd
    · obtain rfl : d = 'I' := (List.cons.inj ht).1
      cases hd
  all_goals exact fun t => other rfl (by decide) _

/-! ## Lists and objects -/

/-- The last item of a list is followed by the closing bracket. -/
theorem readItems_last {bound : Nat} {s r r' : List Char} {j : Json}
    (hj : readValue bound s = .ok (j, r)) (hr : skip r = ']' :: r') :
    readItems (bound + 1) s = .ok ([j], r') := by
  simp only [readItems, hj, hr]

/-- Another item of a list is followed by a comma. -/
theorem readItems_more {bound : Nat} {s r r' : List Char} {j : Json}
    (hj : readValue bound s = .ok (j, r)) (hr : skip r = ',' :: r') :
    readItems (bound + 1) s = (readItems bound (skip r')).map fun x => (j :: x.1, x.2) := by
  simp only [readItems, hj, hr]

/-- The last member of an object: a key, a colon, a value and the closing brace. -/
theorem readMembers_last {bound : Nat} {before : Members} {k : String} {s q u r r' : List Char}
    {v : Json} (hk : readText s = .ok (k, q)) (hq : skip q = ':' :: u)
    (hv : readValue bound (skip u) = .ok (v, r)) (hr : skip r = '\x7d' :: r') :
    readMembers (bound + 1) before ('"' :: s) = .ok (Members.set k v before, r') := by
  simp only [readMembers, hk, hq, hv, hr]

/-- Another member of an object is followed by a comma. -/
theorem readMembers_more {bound : Nat} {before : Members} {k : String} {s q u r r' : List Char}
    {v : Json} (hk : readText s = .ok (k, q)) (hq : skip q = ':' :: u)
    (hv : readValue bound (skip u) = .ok (v, r)) (hr : skip r = ',' :: r') :
    readMembers (bound + 1) before ('"' :: s) =
      readMembers bound (Members.set k v before) (skip r') := by
  simp only [readMembers, hk, hq, hv, hr]

/-- What a written text and what follows it are, from the opening quote on. -/
theorem printText_append (k : String) (r : List Char) :
    printText k ++ r = '"' :: (k.toList.flatMap escapeChar ++ '"' :: r) := by
  simp [printText]

/-- Blanks in front of a written value are skipped, and nothing of the value is. -/
theorem skip_print {layout : Layout} {w : List Char} (hw : ∀ c ∈ w, c = ' ' ∨ c = '\n')
    (depth : Nat) {j : Json} (h : j.every notFloat = true) (r : List Char) :
    skip (w ++ (print layout depth j ++ r)) = print layout depth j ++ r := by
  obtain ⟨c, s, hc, hstart⟩ := print_eq_cons layout depth (of_every h)
  rw [skip_append hw, hc, List.cons_append, skip_cons (isSpace_of_starts hstart)]

/-- A blank after the colon is skipped too. -/
theorem skip_blank_print {layout : Layout} (depth : Nat) {j : Json} (h : j.every notFloat = true)
    (r : List Char) : skip (' ' :: (print layout depth j ++ r)) = print layout depth j ++ r :=
  skip_print (w := [' ']) (fun _ hc => .inl (List.mem_singleton.1 hc)) depth h r

/-- A written value is no closing bracket. -/
theorem head?_print_append {layout : Layout} (depth : Nat) {j : Json} (h : j.every notFloat = true)
    (r : List Char) : (print layout depth j ++ r).head? ≠ some ']' := by
  obtain ⟨c, s, hc, hstart⟩ := print_eq_cons layout depth (of_every h)
  rw [hc]
  rintro ⟨⟩
  cases hstart

/-- Blanks in front of a written key are skipped, and nothing of the key is. -/
theorem skip_printText {w : List Char} (hw : ∀ c ∈ w, c = ' ' ∨ c = '\n') (k : String)
    (r : List Char) : skip (w ++ (printText k ++ r)) = printText k ++ r :=
  (skip_append hw _).trans (skip_cons rfl _)

/-- A list with items is read from its first item on. -/
theorem readValue_arr {bound : Nat} {s s' r : List Char} {items : List Json} (hs : skip s = s')
    (hne : s'.head? ≠ some ']') (h : readItems bound s' = .ok (items, r)) :
    readValue (bound + 1) ('[' :: s) = .ok (.arr items, r) := by
  rw [readValue, hs]
  split
  · exact absurd rfl hne
  · rw [h]
    rfl

/-- An object with members is read from its first member on. -/
theorem readValue_obj {bound : Nat} {s s' r : List Char} {members : Members} (hs : skip s = s')
    (hne : s'.head? ≠ some '\x7d') (h : readMembers bound [] s' = .ok (members, r)) :
    readValue (bound + 1) ('\x7b' :: s) = .ok (.obj members, r) := by
  rw [readValue, hs]
  split
  · exact absurd rfl hne
  · rw [h]
    rfl

/-! ## Values -/

mutual

/-- **A value is read back**, and what follows it is left. -/
theorem readValue_print {layout : Layout} (hl : layout.Blank) :
    ∀ (j : Json) (depth bound : Nat) (r : List Char),
    j.every notFloat = true → j.every distinctKeys = true → Ends r →
    2 * (print layout depth j).length ≤ bound →
    readValue bound (print layout depth j ++ r) = .ok (j, r)
  | .null, _, _ + 1, _, _, _, _, _ => rfl
  | .bool true, _, _ + 1, _, _, _, _, _ => rfl
  | .bool false, _, _ + 1, _, _, _, _, _ => rfl
  | .int n, _, _, _, _, _, hr, hb => readValue_decimal n hb hr
  | .str s, _, _ + 1, r, _, _, _, _ => by
    simp only [print, printText, List.cons_append, List.append_assoc, List.nil_append, readValue,
      readText_flatMap]
    rfl
  | .arr [], _, _ + 1, _, _, _, _, _ => rfl
  | .arr (j :: js), depth, bound + 2, r, hf, hk, hr, hb => by
    simp only [every, everyItem, Bool.and_eq_true] at hf hk
    simp only [print, List.cons_append, List.append_assoc, List.length_cons,
      List.length_append] at hb ⊢
    have hj := readValue_print hl j (depth + 1) bound (printItems layout depth js ++ r) hf.2.1
      hk.2.1 (ends_printItems hl depth js r) (by omega)
    have hjs := readItems_print hl js depth bound _ r j hf.2.2 hk.2.2 hj (by omega)
    exact readValue_arr (skip_print (hl.opening depth) _ hf.2.1 _)
      (head?_print_append _ hf.2.1 _) hjs
  | .obj [], _, _ + 1, _, _, _, _, _ => rfl
  | .obj ((k, v) :: ms), depth, bound + 2, r, hf, hk, hr, hb => by
    obtain ⟨hn, hk⟩ := every_distinctKeys_obj.1 hk
    simp only [every, everyMember, Bool.and_eq_true] at hf hk
    simp only [print, List.cons_append, List.append_assoc, List.length_cons,
      List.length_append] at hb ⊢
    have hv := readValue_print hl v (depth + 1) bound (printMembers layout depth ms ++ r) hf.2.1
      hk.1 (ends_printMembers hl depth ms r) (by omega)
    have hms := readMembers_print hl ms depth bound [] k _ r v hf.2.2 hk.2 hn
      (by rw [skip_blank_print _ hf.2.1]; exact hv) (by omega)
    exact readValue_obj (skip_printText (hl.opening depth) k _) (by simp [printText]) hms

/-- After an item, the other items are read back up to the closing bracket. -/
theorem readItems_print {layout : Layout} (hl : layout.Blank) :
    ∀ (js : List Json) (depth bound : Nat) (s r : List Char) (j : Json),
    everyItem notFloat js = true → everyItem distinctKeys js = true →
    readValue bound s = .ok (j, printItems layout depth js ++ r) →
    2 * (printItems layout depth js).length ≤ bound →
    readItems (bound + 1) s = .ok (j :: js, r)
  | [], depth, bound, s, r, j, _, _, h, _ => by
    refine readItems_last h ?_
    rw [printItems, List.append_assoc, skip_append (hl.closing depth)]
    exact skip_cons rfl r
  | j' :: js, depth, bound + 1, s, r, j, hf, hk, h, hb => by
    simp only [everyItem, Bool.and_eq_true] at hf hk
    simp only [printItems, List.cons_append, List.append_assoc, List.length_cons,
      List.length_append] at hb h
    have hj := readValue_print hl j' (depth + 1) bound (printItems layout depth js ++ r) hf.1 hk.1
      (ends_printItems hl depth js r) (by omega)
    have hjs := readItems_print hl js depth bound _ r j' hf.2 hk.2 hj (by omega)
    rw [readItems_more h (skip_cons rfl _), skip_print (hl.between depth) _ hf.1, hjs]
    rfl

/-- After a member, the other members are read back up to the closing brace, and added
to those before. -/
theorem readMembers_print {layout : Layout} (hl : layout.Blank) :
    ∀ (ms : Members) (depth bound : Nat) (before : Members) (k : String) (s r : List Char)
    (v : Json), everyMember notFloat ms = true → everyMember distinctKeys ms = true →
    (Members.keys (before ++ (k, v) :: ms)).Nodup →
    readValue bound (skip (' ' :: s)) = .ok (v, printMembers layout depth ms ++ r) →
    2 * (printMembers layout depth ms).length ≤ bound →
    readMembers (bound + 1) before (printText k ++ ':' :: ' ' :: s) =
      .ok (before ++ (k, v) :: ms, r)
  | [], depth, bound, before, k, s, r, v, _, _, hn, h, _ => by
    rw [← Members.set_of_not_mem (Members.not_mem_keys_of_nodup hn), printText_append]
    refine readMembers_last (readText_flatMap k _) (skip_cons rfl _) h ?_
    rw [printMembers, List.append_assoc, skip_append (hl.closing depth)]
    exact skip_cons rfl r
  | (k', v') :: ms, depth, bound + 1, before, k, s, r, v, hf, hk, hn, h, hb => by
    simp only [everyMember, Bool.and_eq_true] at hf hk
    simp only [printMembers, List.cons_append, List.append_assoc, List.length_cons,
      List.length_append] at hb h
    have hv := readValue_print hl v' (depth + 1) bound (printMembers layout depth ms ++ r) hf.1
      hk.1 (ends_printMembers hl depth ms r) (by omega)
    have hms := readMembers_print hl ms depth bound (before ++ [(k, v)]) k' _ r v' hf.2 hk.2
      (by rwa [List.append_assoc]) (by rw [skip_blank_print _ hf.1]; exact hv) (by omega)
    rw [printText_append, readMembers_more (readText_flatMap k _) (skip_cons rfl _) h (skip_cons rfl _),
      Members.set_of_not_mem (Members.not_mem_keys_of_nodup hn), skip_printText (hl.between depth),
      hms, List.append_assoc]
    rfl

end

/-- A written value does not start with a byte order mark. -/
theorem head?_print_ne {layout : Layout} (depth : Nat) {j : Json} (h : j.every notFloat = true) :
    (print layout depth j).head? ≠ some (Char.ofNat 0xFEFF) := by
  obtain ⟨c, s, hc, hstart⟩ := print_eq_cons layout depth (of_every h)
  rw [hc]
  rintro ⟨⟩
  cases hstart

/-- **A value is read back from its text** in every layout of blanks. -/
theorem read_print {layout : Layout} (hl : layout.Blank) {j : Json}
    (hf : j.every notFloat = true) (hk : j.every distinctKeys = true) :
    read (print layout 0 j) = .ok j := by
  have skipped : skip (print layout 0 j) = print layout 0 j := by
    have h : skip ([] ++ (print layout 0 j ++ [])) = _ := skip_print (by simp) 0 hf []
    rwa [List.nil_append, List.append_nil] at h
  have value := readValue_print hl j 0 (2 * (print layout 0 j).length) [] hf hk ends_nil
    (Nat.le_refl _)
  rw [List.append_nil] at value
  unfold read
  rw [if_neg (head?_print_ne 0 hf)]
  simp only [skipped, value]
  rfl

end Json
end PowerSupply
