/-
# Numerals at the start of a text

A text opens with an integer where it is made of blanks, a sign or none, at least one
decimal digit of any script, and something that does not start with a digit (`Opens`).
The parts are named by what they are made of, whatever reads them.  The integer is the
value of the digits in base ten with the sign, and it goes with their number.

The reader of integers finds exactly these (`opens_of_leading?`, `leading?_of_opens`) and
counts their digits (`leadingDigits_of_opens`), so a text opens with at most one integer.
What it takes off a text puts the text together again: a sign (`exists_sign`) and a run of
digits (`exists_digits`).  The other way round, it takes off the parts that a text was made
of, since no two of them can begin alike: a digit is neither a blank (`isBlank_of_digit?`)
nor a sign, and a sign is no blank.

An integer that is written in ASCII digits opens with itself, whatever blanks stand before
it and whatever comes after its last digit (`opens_decimal`).
-/

import Mathlib.Data.Nat.Digits.Defs
import PowerSupply.Proofs.Text.Digits

namespace PowerSupply
namespace Text

/-- A sign in front of a numeral, which may be missing, and the factor that it is. -/
inductive Sign : List Char → Int → Prop where
  | missing : Sign [] 1
  | plus : Sign ['+'] 1
  | minus : Sign ['-'] (-1)

/-- Whether a text goes on with something else than a decimal digit, or ends. -/
def EndsDigits (rest : List Char) : Prop := ∀ c ∈ rest.head?, digit? c = none

/-- A text opens with so many digits, and with the integer that they are: blanks, a sign,
digits with their values, and the rest. -/
inductive Opens : List Char → Nat → Int → Prop where
  | intro {blanks sign digits rest : List Char} {factor : Int} {values : List Nat}
      (blank : ∀ c ∈ blanks, isBlank c = true) (hsign : Sign sign factor)
      (hvalues : digits.map digit? = values.map some) (nonempty : digits ≠ [])
      (hrest : EndsDigits rest) :
      Opens (blanks ++ sign ++ digits ++ rest) digits.length
        (factor * (Nat.ofDigits 10 values.reverse : Nat))

/-! ### No two parts begin alike -/

/-- **No digit is a blank:** the rows of digits and the ranges of blanks lie apart. -/
theorem isBlank_of_digit? {c : Char} {d : Nat} (h : digit? c = some d) : isBlank c = false := by
  have apart : (zeros.all fun z => (asciiMargins ++ asciiSeparators ++ wideBlanks).all fun r =>
      decide (r.2 < z ∨ z + 10 ≤ r.1)) = true := by decide +kernel
  obtain ⟨z, hz, -⟩ := Option.map_eq_some_iff.1 h
  have hrow := List.find?_some hz
  have hapart := List.all_eq_true.1 apart z (List.mem_of_find?_eq_some hz)
  have hall : isBlank c = inRanges (asciiMargins ++ asciiSeparators ++ wideBlanks) c := by
    unfold isBlank inRanges
    rw [List.any_append, List.any_append]
  rw [hall]
  refine List.any_eq_false.2 fun r hr => ?_
  have hr' := List.all_eq_true.1 hapart r hr
  simp only [Bool.and_eq_true, decide_eq_true_eq] at hrow hr' ⊢
  omega

/-- Each of several digits has a value. -/
theorem exists_digit_of_mem {digits : List Char} {values : List Nat}
    (hvalues : digits.map digit? = values.map some) {c : Char} (hc : c ∈ digits) :
    ∃ d, digit? c = some d := by
  have hmem : digit? c ∈ values.map some := hvalues ▸ List.mem_map_of_mem hc
  obtain ⟨d, -, hd⟩ := List.mem_map.1 hmem
  exact ⟨d, hd.symm⟩

/-- There are as many digits as values. -/
theorem length_digits {digits : List Char} {values : List Nat}
    (hvalues : digits.map digit? = values.map some) : digits.length = values.length := by
  have hlength := congrArg List.length hvalues
  rwa [List.length_map, List.length_map] at hlength

/-- **No sign is a digit**, so the sign that digits were put behind is taken off. -/
theorem takeSign_append {sign digits : List Char} {factor : Int} {values : List Nat}
    (hsign : Sign sign factor) (hvalues : digits.map digit? = values.map some)
    (nonempty : digits ≠ []) (rest : List Char) :
    ∃ negative, takeSign (sign ++ (digits ++ rest)) = (negative, digits ++ rest) ∧
      ∀ n, signed negative n = factor * n := by
  obtain ⟨c, r, rfl⟩ := List.exists_cons_of_ne_nil nonempty
  obtain ⟨d, hd⟩ := exists_digit_of_mem hvalues (List.mem_cons_self ..)
  have hne : ∀ x, digit? x = none → c ≠ x := by
    rintro x hx rfl
    rw [hd] at hx
    cases hx
  cases hsign with
  | missing =>
    refine ⟨false, ?_, fun n => (one_mul (n : Int)).symm⟩
    rw [List.nil_append, List.cons_append, takeSign]
    · exact fun _ he => hne '-' (by decide) (List.cons.inj he).1
    · exact fun _ he => hne '+' (by decide) (List.cons.inj he).1
  | plus => exact ⟨false, rfl, fun n => (one_mul (n : Int)).symm⟩
  | minus => exact ⟨true, rfl, fun n => (neg_one_mul (n : Int)).symm⟩

/-- **No character of a numeral is a blank.** -/
theorem isBlank_of_mem_numeral {sign digits : List Char} {factor : Int} {values : List Nat}
    (hsign : Sign sign factor) (hvalues : digits.map digit? = values.map some) :
    ∀ c ∈ sign ++ digits, isBlank c = false := by
  intro c hc
  rcases List.mem_append.1 hc with hc | hc
  · cases hsign with
    | missing => cases hc
    | plus => exact List.mem_singleton.1 hc ▸ by decide
    | minus => exact List.mem_singleton.1 hc ▸ by decide
  · obtain ⟨d, hd⟩ := exists_digit_of_mem hvalues hc
    exact isBlank_of_digit? hd

/-- What is passed over before a text is all that is passed over, where no character of the
text is. -/
theorem dropWhile_append_append {p : Char → Bool} {before s : List Char}
    (hbefore : ∀ c ∈ before, p c = true) (hs : ∀ c ∈ s, p c = false) (hne : s ≠ [])
    (after : List Char) : (before ++ (s ++ after)).dropWhile p = s ++ after := by
  obtain ⟨c, r, rfl⟩ := List.exists_cons_of_ne_nil hne
  rw [List.dropWhile_append_of_pos hbefore]
  exact List.dropWhile_cons_of_neg (by simp [hs c (List.mem_cons_self ..)])

/-! ### What is taken off a text -/

/-- **A sign is taken off**, if there is one. -/
theorem exists_sign (s : List Char) :
    ∃ sign factor, s = sign ++ (takeSign s).2 ∧ Sign sign factor ∧
      ∀ n, signed (takeSign s).1 n = factor * n := by
  unfold takeSign
  split
  · exact ⟨_, _, rfl, .minus, fun n => (neg_one_mul (n : Int)).symm⟩
  · exact ⟨_, _, rfl, .plus, fun n => (one_mul (n : Int)).symm⟩
  · exact ⟨_, _, rfl, .missing, fun n => (one_mul (n : Int)).symm⟩

/-- **A run of digits is taken off** with its values, and what follows is no digit. -/
theorem exists_digits (s : List Char) :
    ∃ digits, s = digits ++ (spanDigits s).2 ∧
      digits.map digit? = (spanDigits s).1.map some ∧ EndsDigits (spanDigits s).2 := by
  induction s with
  | nil => exact ⟨[], rfl, rfl, fun c hc => absurd hc (Option.not_mem_none c)⟩
  | cons c s ih =>
    obtain ⟨digits, hs, hvalues, hrest⟩ := ih
    unfold spanDigits
    cases hc : digit? c with
    | none => exact ⟨[], rfl, rfl, fun x hx => Option.some.inj hx ▸ hc⟩
    | some d =>
      refine ⟨c :: digits, congrArg (c :: ·) hs, ?_, hrest⟩
      rw [List.map_cons, hc, hvalues]
      rfl

/-- The whole run is taken off where something else follows. -/
theorem spanDigits_append {digits rest : List Char} {values : List Nat}
    (hvalues : digits.map digit? = values.map some) (hrest : EndsDigits rest) :
    spanDigits (digits ++ rest) = (values, rest) := by
  induction digits generalizing values with
  | nil =>
    obtain rfl : values = [] := List.map_eq_nil_iff.1 hvalues.symm
    cases rest with
    | nil => rfl
    | cons c rest => rw [List.nil_append, spanDigits, hrest c rfl]
  | cons c digits ih =>
    obtain ⟨d, values, rfl, hc, hdigits⟩ := List.map_eq_cons_iff.1 hvalues.symm
    rw [List.cons_append, spanDigits, ← hc, ih hdigits.symm]

/-! ### The value of digits -/

/-- Digits from the first on have the value that they have from the last on. -/
theorem ofDigits_eq (values : List Nat) : ofDigits values = Nat.ofDigits 10 values.reverse := by
  unfold ofDigits
  rw [Nat.ofDigits_eq_foldr, List.foldr_reverse]
  congr 1
  funext v d
  exact Nat.add_comm (10 * v) d

/-- **The digits of a numeral have the value that was written.** -/
theorem exists_values (n : Nat) :
    ∃ values : List Nat, (Nat.toDigits 10 n).map digit? = values.map some ∧
      Nat.ofDigits 10 values.reverse = n := by
  have digitChar : ∀ d : Fin 10, digit? d.val.digitChar = some d.val := by decide
  induction n using Nat.strongRecOn with
  | ind n ih =>
    by_cases h : n < 10
    · rw [Nat.toDigits_of_lt_base h]
      exact ⟨[n], congrArg ([·]) (digitChar ⟨n, h⟩), Nat.ofDigits_singleton⟩
    · obtain ⟨values, hvalues, hn⟩ := ih (n / 10) (by omega)
      refine ⟨values ++ [n % 10], ?_, ?_⟩
      · rw [Nat.toDigits_of_base_le (by omega) (by omega), List.map_append, hvalues,
          List.map_append]
        exact congrArg (_ ++ [·]) (digitChar ⟨n % 10, Nat.mod_lt _ (by omega)⟩)
      · rw [List.reverse_concat, Nat.ofDigits_cons, hn]
        exact Nat.mod_add_div n 10

/-! ### The reader and the grammar -/

/-- What is read at the start of a text is there. -/
theorem opens_of_leading? {s : List Char} {n : Int} (h : leading? s = some n) :
    Opens s (leadingDigits s) n := by
  obtain ⟨sign, factor, hs, hsign, hfactor⟩ := exists_sign (s.dropWhile isBlank)
  obtain ⟨digits, hr, hvalues, hrest⟩ := exists_digits (takeSign (s.dropWhile isBlank)).2
  have parts : s = s.takeWhile isBlank ++ sign ++ digits ++
      (spanDigits (takeSign (s.dropWhile isBlank)).2).2 := by
    rw [List.append_assoc, List.append_assoc, ← hr, ← hs, List.takeWhile_append_dropWhile]
  have blank : ∀ c ∈ s.takeWhile isBlank, isBlank c = true :=
    List.all_eq_true.1 List.all_takeWhile
  unfold leading? at h
  dsimp only at h
  split at h
  · cases h
  · rename_i d ds hd
    have nonempty : digits ≠ [] := by
      rintro rfl
      rw [hd] at hvalues
      cases hvalues
    have hcount : digits.length = leadingDigits s := length_digits hvalues
    have hopens := Opens.intro blank hsign hvalues nonempty hrest
    rw [← hd, hfactor, ofDigits_eq] at h
    rw [← parts, hcount, Option.some.inj h] at hopens
    exact hopens

/-- The numeral of a text is taken off it: first the blanks, then the sign, then the digits. -/
theorem exists_taken {blanks sign digits rest : List Char} {factor : Int} {values : List Nat}
    (blank : ∀ c ∈ blanks, isBlank c = true) (hsign : Sign sign factor)
    (hvalues : digits.map digit? = values.map some) (nonempty : digits ≠ [])
    (hrest : EndsDigits rest) :
    ∃ negative, takeSign ((blanks ++ sign ++ digits ++ rest).dropWhile isBlank) =
        (negative, digits ++ rest) ∧
      spanDigits (digits ++ rest) = (values, rest) ∧ ∀ n, signed negative n = factor * n := by
  have hdrop : (blanks ++ (sign ++ digits ++ rest)).dropWhile isBlank = sign ++ digits ++ rest :=
    dropWhile_append_append blank (isBlank_of_mem_numeral hsign hvalues)
      (List.append_ne_nil_of_right_ne_nil _ nonempty) rest
  obtain ⟨negative, htake, hfactor⟩ := takeSign_append hsign hvalues nonempty rest
  refine ⟨negative, ?_, spanDigits_append hvalues hrest, hfactor⟩
  rw [List.append_assoc blanks, List.append_assoc blanks, hdrop, List.append_assoc]
  exact htake

/-- What is there is read. -/
theorem leading?_of_opens {s : List Char} {k : Nat} {n : Int} (h : Opens s k n) :
    leading? s = some n := by
  obtain ⟨blank, hsign, hvalues, nonempty, hrest⟩ := h
  obtain ⟨negative, htake, hspan, hfactor⟩ := exists_taken blank hsign hvalues nonempty hrest
  obtain ⟨c, cs, rfl⟩ := List.exists_cons_of_ne_nil nonempty
  obtain ⟨d, ds, rfl, -⟩ := List.map_eq_cons_iff.1 hvalues.symm
  unfold leading?
  rw [htake]
  simp only [hspan]
  rw [hfactor, ofDigits_eq]

/-- **The digits of an integer are counted.** -/
theorem leadingDigits_of_opens {s : List Char} {k : Nat} {n : Int} (h : Opens s k n) :
    leadingDigits s = k := by
  obtain ⟨blank, hsign, hvalues, nonempty, hrest⟩ := h
  obtain ⟨negative, htake, hspan, -⟩ := exists_taken blank hsign hvalues nonempty hrest
  unfold leadingDigits
  rw [htake, hspan, length_digits hvalues]

/-- The number of digits of a written integer. -/
def decimalDigits (n : Int) : Nat := (Nat.toDigits 10 n.natAbs).length

/-- So many digits suffice for an integer below ten to their number. -/
theorem decimalDigits_le_iff {n : Int} {k : Nat} (hk : 0 < k) :
    decimalDigits n ≤ k ↔ n.natAbs < 10 ^ k :=
  Nat.length_toDigits_le_iff (by decide) hk

/-- **A written integer** is a sign and digits that have its value. -/
theorem exists_decimal (n : Int) :
    ∃ sign factor digits, ∃ values : List Nat, decimal n = sign ++ digits ∧ Sign sign factor ∧
      digits.map digit? = values.map some ∧ digits ≠ [] ∧ digits.length = decimalDigits n ∧
      factor * (Nat.ofDigits 10 values.reverse : Nat) = n := by
  obtain ⟨values, hvalues, hn⟩ := exists_values n.natAbs
  unfold decimal
  split
  · exact ⟨['-'], -1, _, values, rfl, .minus, hvalues, Nat.toDigits_ne_nil, rfl, by omega⟩
  · exact ⟨[], 1, _, values, rfl, .missing, hvalues, Nat.toDigits_ne_nil, rfl, by omega⟩

/-- It opens a text with blanks before it and anything but a digit after it. -/
theorem opens_decimal (n : Int) {blanks rest : List Char} (blank : ∀ c ∈ blanks, isBlank c = true)
    (hrest : EndsDigits rest) : Opens (blanks ++ decimal n ++ rest) (decimalDigits n) n := by
  obtain ⟨sign, factor, digits, values, hdecimal, hsign, hvalues, nonempty, hcount, hn⟩ :=
    exists_decimal n
  have hopens := Opens.intro blank hsign hvalues nonempty hrest
  rw [hcount, hn, List.append_assoc blanks, ← hdecimal] at hopens
  exact hopens

end Text
end PowerSupply
