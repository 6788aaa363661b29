/-
# Line ends do not matter

Two texts are alike (`Alike`) if they have the same characters, and line ends where the
other has line ends, of either kind and any number.  Outside of a text between quotes a
line end is a blank, and inside it is a defect, so what is read of one text is read of every
alike one (`read_of_alike`).

The induction is on the bound of the reader, along its recursion, and carries along what
is left of both texts.  The bound of the other text is its own: it has to be twice its
length, and is enough because each value takes at least one character.
-/

import PowerSupply.Proofs.Json.RoundTrip
import PowerSupply.Proofs.Trace

namespace PowerSupply
namespace Json

/-! ## Alike texts -/

/-- Whether a character ends a line. -/
def endsLine (c : Char) : Bool := c = '\n' || c = '\r'

/-- The texts have the same characters, but where one has line ends the other has any
number of them, and at least one. -/
inductive Alike : List Char → List Char → Prop
  | nil : Alike [] []
  | char (c : Char) {s s' : List Char} : Alike s s' → Alike (c :: s) (c :: s')
  | ends {c c' : Char} {s s' : List Char} (hc : endsLine c = true) (hc' : endsLine c' = true) :
    Alike s s' → Alike (c :: s) (c' :: s')
  | left {c d : Char} {s s' : List Char} (hc : endsLine c = true) (hd : endsLine d = true) :
    Alike (d :: s) s' → Alike (c :: d :: s) s'
  | right {c d : Char} {s s' : List Char} (hc : endsLine c = true) (hd : endsLine d = true) :
    Alike s (d :: s') → Alike s (c :: d :: s')

/-- What is true of a character, and of no line end, shows that it is none. -/
theorem not_endsLine {P : Char → Prop} {c : Char} (h : P c) (hn : ¬P '\n') (hr : ¬P '\r') :
    endsLine c = false := by
  cases hc : endsLine c with
  | false => rfl
  | true =>
    simp only [endsLine, Bool.or_eq_true, decide_eq_true_eq] at hc
    rcases hc with rfl | rfl
    · exact absurd h hn
    · exact absurd h hr

theorem isSpace_of_endsLine {c : Char} (h : endsLine c = true) : isSpace c = true := by
  cases hs : isSpace c with
  | true => rfl
  | false =>
    rw [not_endsLine (P := fun c => isSpace c = false) hs (by decide) (by decide)] at h
    cases h

namespace Alike

variable {s s' r : List Char} {c : Char}

theorem symm (h : Alike s s') : Alike s' s := by
  induction h with
  | nil => exact .nil
  | char c _ ih => exact .char c ih
  | ends hc hc' _ ih => exact .ends hc' hc ih
  | left hc hd _ ih => exact .right hc hd ih
  | right hc hd _ ih => exact .left hc hd ih

theorem eq_nil (h : Alike [] s') : s' = [] := by
  have nil_of {s s' : List Char} (h : Alike s s') : s = [] → s' = [] := by
    induction h with
    | nil => exact id
    | right _ _ _ ih => exact fun hs => nomatch ih hs
    | _ => exact fun hs => nomatch hs
  exact nil_of h rfl

/-- **A text that starts with a character that ends no line** is alike to texts that start
with the same character. -/
theorem cons_inv (hc : endsLine c = false) (h : Alike (c :: r) s') :
    ∃ r', s' = c :: r' ∧ Alike r r' := by
  have other {d : Char} (hd : endsLine d = true) : d ≠ c := by
    rintro rfl
    rw [hc] at hd
    cases hd
  generalize hs : c :: r = s at h
  induction h with
  | nil => cases hs
  | char d h =>
    obtain ⟨rfl, rfl⟩ := List.cons.inj hs
    exact ⟨_, rfl, h⟩
  | ends hd | left hd => exact absurd (List.cons.inj hs).1.symm (other hd)
  | right _ hd _ ih =>
    obtain ⟨r', hr', -⟩ := ih hs
    exact absurd (List.cons.inj hr').1 (other hd)

/-- The same of several characters. -/
theorem append_inv {w : List Char} (hw : ∀ c ∈ w, endsLine c = false) (h : Alike (w ++ r) s') :
    ∃ r', s' = w ++ r' ∧ Alike r r' := by
  induction w generalizing s' with
  | nil => exact ⟨s', rfl, h⟩
  | cons c w ih =>
    obtain ⟨t, rfl, ht⟩ := cons_inv (hw c (List.mem_cons_self ..)) h
    obtain ⟨r', rfl, hr⟩ := ih (fun d hd => hw d (List.mem_cons_of_mem _ hd)) ht
    exact ⟨r', rfl, hr⟩

/-- Neither text starts with such a character without the other. -/
theorem head?_ne (hc : endsLine c = false) (h : Alike s s') (hs : s.head? ≠ some c) :
    s'.head? ≠ some c := by
  intro hs'
  obtain ⟨r', rfl⟩ := List.head?_eq_some_iff.1 hs'
  obtain ⟨r, rfl, -⟩ := cons_inv hc h.symm
  exact hs rfl

theorem ne_nil (h : Alike s s') (hs : s ≠ []) : s' ≠ [] := by
  rintro rfl
  exact hs h.symm.eq_nil

/-- Blanks are skipped in both, line ends among them. -/
theorem skip (h : Alike s s') : Alike (skip s) (skip s') := by
  induction h with
  | nil => exact .nil
  | char c h ih =>
    unfold Json.skip at ih ⊢
    rw [List.dropWhile_cons, List.dropWhile_cons]
    split
    · exact ih
    · exact .char c h
  | ends hc hc' _ ih =>
    unfold Json.skip at ih ⊢
    rwa [List.dropWhile_cons_of_pos (isSpace_of_endsLine hc),
      List.dropWhile_cons_of_pos (isSpace_of_endsLine hc')]
  | left hc hd _ ih =>
    unfold Json.skip at ih ⊢
    rwa [List.dropWhile_cons_of_pos (isSpace_of_endsLine hc)]
  | right hc hd _ ih =>
    unfold Json.skip at ih ⊢
    rwa [List.dropWhile_cons_of_pos (isSpace_of_endsLine hc)]

/-- The digits are the same, and what follows them is alike. -/
theorem digits (h : Alike s s') :
    digits s' = digits s ∧ Alike (s.drop (digits s).length) (s'.drop (Json.digits s).length) := by
  have none {c : Char} (hc : endsLine c = true) (s : List Char) : Json.digits (c :: s) = [] := by
    refine List.takeWhile_cons_of_neg fun hd => ?_
    rw [not_endsLine (P := fun c => c.isDigit = true) hd (by decide) (by decide)] at hc
    cases hc
  induction h with
  | nil => exact ⟨rfl, .nil⟩
  | char c h ih =>
    unfold Json.digits at ih ⊢
    rw [List.takeWhile_cons, List.takeWhile_cons]
    split
    · exact ⟨congrArg _ ih.1, ih.2⟩
    · exact ⟨rfl, .char c h⟩
  | ends hc hc' h =>
    rw [none hc, none hc']
    exact ⟨rfl, .ends hc hc' h⟩
  | left hc hd h ih =>
    rw [none hd] at ih
    rw [none hc]
    exact ⟨ih.1, .left hc hd h⟩
  | right hc hd h ih =>
    rw [none hd] at ih
    rw [none hc]
    rw [← ih.1]
    exact ⟨rfl, .right hc hd h⟩

/-- Neither text goes on with one of two characters without the other. -/
theorem cases_head (h : Alike s s') (c : Char) (hc : endsLine c = false) :
    (∃ r r', s = c :: r ∧ s' = c :: r' ∧ Alike r r') ∨
      s.head? ≠ some c ∧ s'.head? ≠ some c := by
  by_cases hs : s.head? = some c
  · obtain ⟨r, rfl⟩ := List.head?_eq_some_iff.1 hs
    obtain ⟨r', rfl, hr⟩ := cons_inv hc h
    exact .inl ⟨r, r', rfl, rfl, hr⟩
  · exact .inr ⟨hs, h.head?_ne hc hs⟩

/-- The digits of an integer are the same, a leading zero standing alone. -/
theorem wholeDigits (h : Alike s s') : wholeDigits s' = Json.wholeDigits s ∧
    Alike (s.drop (Json.wholeDigits s).length) (s'.drop (Json.wholeDigits s).length) := by
  have other {s : List Char} (hs : s.head? ≠ some '0') : Json.wholeDigits s = Json.digits s := by
    unfold Json.wholeDigits
    split
    · exact absurd rfl hs
    · rfl
  rcases h.cases_head '0' rfl with ⟨r, r', rfl, rfl, hr⟩ | ⟨hs, hs'⟩
  · exact ⟨rfl, hr⟩
  · rw [other hs, other hs']
    exact h.digits

/-- The fraction is the same, and what follows it is alike. -/
theorem fractionDigits (h : Alike s s') : fractionDigits s' = Json.fractionDigits s ∧
    Alike (if (Json.fractionDigits s).isEmpty then s else s.drop ((Json.fractionDigits s).length + 1))
      (if (Json.fractionDigits s).isEmpty then s'
        else s'.drop ((Json.fractionDigits s).length + 1)) := by
  have none {s : List Char} (hs : s.head? ≠ some '.') : Json.fractionDigits s = [] := by
    unfold Json.fractionDigits
    split
    · exact absurd rfl hs
    · rfl
  rcases h.cases_head '.' rfl with ⟨r, r', rfl, rfl, hr⟩ | ⟨hs, hs'⟩
  · refine ⟨hr.digits.1, ?_⟩
    split
    · exact h
    · exact hr.digits.2
  · rw [none hs, none hs']
    exact ⟨rfl, h⟩

/-- The outcome of an exponent whose digits `t` come after `n` characters of `u`. -/
theorem exponent?_of_digits (negative : Bool) (n : Nat) {u u' t t' : List Char} (ht : Alike t t')
    (hu : Json.exponent? u = if (Json.digits t).isEmpty then none
      else some (negative, Json.digits t, n + (Json.digits t).length))
    (hu' : Json.exponent? u' = if (Json.digits t').isEmpty then none
      else some (negative, Json.digits t', n + (Json.digits t').length))
    (hd : u.drop n = t) (hd' : u'.drop n = t') :
    Json.exponent? u' = Json.exponent? u ∧
      ∀ x, Json.exponent? u = some x → Alike (u.drop x.2.2) (u'.drop x.2.2) := by
  rw [hu, hu', ht.digits.1]
  refine ⟨rfl, fun x hx => ?_⟩
  split at hx
  · cases hx
  · obtain rfl := Option.some.inj hx
    dsimp only
    rw [← List.drop_drop, ← List.drop_drop, hd, hd']
    exact ht.digits.2

/-- The exponent is the same, and what follows it is alike. -/
theorem exponent? (h : Alike s s') : exponent? s' = Json.exponent? s ∧
    ∀ x, Json.exponent? s = some x → Alike (s.drop x.2.2) (s'.drop x.2.2) := by
  have unmarked {s : List Char} (he : s.head? ≠ some 'e') (hE : s.head? ≠ some 'E') :
      Json.exponent? s = none := by
    unfold Json.exponent?
    split
    · rename_i c r
      rw [if_neg]
      rintro (rfl | rfl)
      · exact he rfl
      · exact hE rfl
    · rfl
  have mark {c : Char} (hc : c = 'e' ∨ c = 'E') {r r' : List Char} (hr : Alike r r') :
      Json.exponent? (c :: r') = Json.exponent? (c :: r) ∧
        ∀ x, Json.exponent? (c :: r) = some x → Alike ((c :: r).drop x.2.2) ((c :: r').drop x.2.2) := by
    have minus (t : List Char) : Json.exponent? (c :: '-' :: t) =
        if (Json.digits t).isEmpty then none
        else some (true, Json.digits t, 2 + (Json.digits t).length) := if_pos hc
    have plus (t : List Char) : Json.exponent? (c :: '+' :: t) =
        if (Json.digits t).isEmpty then none
        else some (false, Json.digits t, 2 + (Json.digits t).length) := if_pos hc
    have plain {t : List Char} (hm : t.head? ≠ some '-') (hp : t.head? ≠ some '+') :
        Json.exponent? (c :: t) = if (Json.digits t).isEmpty then none
          else some (false, Json.digits t, 1 + (Json.digits t).length) := by
      unfold Json.exponent?
      dsimp only
      rw [if_pos hc]
      split
      · exact absurd rfl hm
      · exact absurd rfl hp
      · rfl
    rcases hr.cases_head '-' rfl with ⟨t, t', rfl, rfl, ht⟩ | ⟨hm, hm'⟩
    · exact exponent?_of_digits true 2 ht (minus t) (minus t') rfl rfl
    rcases hr.cases_head '+' rfl with ⟨t, t', rfl, rfl, ht⟩ | ⟨hp, hp'⟩
    · exact exponent?_of_digits false 2 ht (plus t) (plus t') rfl rfl
    · exact exponent?_of_digits false 1 hr (plain hm hp) (plain hm' hp') rfl rfl
  rcases h.cases_head 'e' rfl with ⟨r, r', rfl, rfl, hr⟩ | ⟨he, he'⟩
  · exact mark (.inl rfl) hr
  rcases h.cases_head 'E' rfl with ⟨r, r', rfl, rfl, hr⟩ | ⟨hE, hE'⟩
  · exact mark (.inr rfl) hr
  rw [unmarked he hE, unmarked he' hE']
  exact ⟨rfl, nofun⟩

end Alike

/-! ## Reading alike texts -/

variable {s s' r : List Char}

/-- A number that is read is read of both texts, and takes at least a digit. -/
theorem readMagnitude_of_alike {negative : Bool} {v : Json}
    (h : readMagnitude negative s = some (v, r)) (ha : Alike s s') :
    ∃ r', readMagnitude negative s' = some (v, r') ∧ Alike r r' ∧ r'.length < s'.length := by
  obtain ⟨hwhole, ha⟩ := ha.wholeDigits
  unfold readMagnitude at h ⊢
  rw [hwhole]
  dsimp only at h ⊢
  split at h
  · cases h
  rename_i hsome
  rw [if_neg hsome]
  have hdigit : 0 < (wholeDigits s).length := List.length_pos_iff.2 fun hw => hsome (by rw [hw]; rfl)
  have hlength : 0 < s'.length := by
    refine List.length_pos_iff.2 ?_
    rintro rfl
    rw [← hwhole] at hdigit
    exact Nat.lt_irrefl 0 hdigit
  obtain ⟨hfraction, ha⟩ := ha.fractionDigits
  rw [hfraction]
  -- from here on only the rest after the fraction matters, which is shorter than the text
  generalize hf : fractionDigits (s.drop (wholeDigits s).length) = fraction at *
  generalize ht : (if fraction.isEmpty then s.drop (wholeDigits s).length
    else (s.drop (wholeDigits s).length).drop (fraction.length + 1)) = t at *
  generalize ht' : (if fraction.isEmpty then s'.drop (wholeDigits s).length
    else (s'.drop (wholeDigits s).length).drop (fraction.length + 1)) = t' at *
  have hrest : t'.length < s'.length := by
    rw [← ht']
    split <;> simp only [List.length_drop] <;> omega
  obtain ⟨hexponent, ha'⟩ := ha.exponent?
  rw [hexponent]
  split at h
  · rename_i down ds n he
    cases h
    refine ⟨_, rfl, ha' _ he, ?_⟩
    rw [List.length_drop]
    omega
  · by_cases hempty : fraction.isEmpty = true
    · rw [if_pos hempty] at h ⊢
      cases h
      exact ⟨_, rfl, ha, hrest⟩
    · rw [if_neg hempty] at h ⊢
      cases h
      exact ⟨_, rfl, ha, hrest⟩

theorem readNumber_of_alike {v : Json} (h : readNumber s = some (v, r)) (ha : Alike s s') :
    ∃ r', readNumber s' = some (v, r') ∧ Alike r r' ∧ r'.length < s'.length := by
  have positive {s : List Char} (hs : s.head? ≠ some '-') :
      readNumber s = readMagnitude false s := by
    unfold readNumber
    split
    · exact absurd rfl hs
    · rfl
  rcases ha.cases_head '-' rfl with ⟨t, t', rfl, rfl, ht⟩ | ⟨hs, hs'⟩
  · obtain ⟨r', hr', hr, hlt⟩ := readMagnitude_of_alike (show readMagnitude true t = _ from h) ht
    exact ⟨r', hr', hr, Nat.lt_succ_of_lt hlt⟩
  · rw [positive hs] at h
    rw [positive hs']
    exact readMagnitude_of_alike h ha

/-- Hexadecimal digits end no line. -/
theorem not_endsLine_of_hex4? {a b c d : Char} {n : Nat} (h : hex4? a b c d = some n) :
    ∀ x ∈ [a, b, c, d], endsLine x = false := by
  have digit {x : Char} {k : Nat} (hx : Text.hexDigit? x = some k) : endsLine x = false :=
    not_endsLine (P := fun c => Text.hexDigit? c = some k) hx (by simp [Text.hexDigit?])
      (by simp [Text.hexDigit?])
  unfold hex4? at h
  obtain ⟨i, hi, h⟩ := Option.bind_eq_some_iff.1 h
  obtain ⟨j, hj, h⟩ := Option.bind_eq_some_iff.1 h
  obtain ⟨k, hk, h⟩ := Option.bind_eq_some_iff.1 h
  obtain ⟨l, hl, -⟩ := Option.bind_eq_some_iff.1 h
  simp only [List.forall_mem_cons]
  exact ⟨digit hi, digit hj, digit hk, digit hl, List.forall_mem_nil _⟩

/-- The pieces of a text between quotes are the same: a line end among them is a
defect. -/
theorem pieces_of_alike {start : Nat} {ps : List Piece} (h : pieces start s = .ok (ps, r))
    (ha : Alike s s') (start' : Nat) :
    ∃ r', pieces start' s' = .ok (ps, r') ∧ Alike r r' ∧ r'.length < s'.length := by
  induction s using pieces.induct generalizing s' ps with
  | case1 => cases h
  | case2 t =>
    obtain ⟨r', rfl, hr⟩ := ha.cons_inv rfl
    cases h
    exact ⟨r', rfl, hr, Nat.lt_succ_self _⟩
  | case3 => cases h
  | case4 a b c d n e t hn ih =>
    rw [pieces_hex hn start (List.cons_ne_nil _ _)] at h
    obtain ⟨⟨qs, q⟩, hq, hps⟩ := of_map_eq_ok h
    have hw : ∀ x ∈ ['\\', 'u', a, b, c, d], endsLine x = false :=
      List.forall_mem_cons.2 ⟨rfl, List.forall_mem_cons.2 ⟨rfl, not_endsLine_of_hex4? hn⟩⟩
    obtain ⟨t', rfl, ht⟩ := Alike.append_inv (w := ['\\', 'u', a, b, c, d]) hw ha
    cases hps
    obtain ⟨r', hr', hr, hlt⟩ := ih hq ht
    refine ⟨r', ?_, hr, by simp only [List.length_append]; omega⟩
    show pieces start' ('\\' :: 'u' :: a :: b :: c :: d :: t') = _
    rw [pieces_hex hn start' (ht.ne_nil (List.cons_ne_nil _ _)), hr']
    rfl
  | case5 a b c d t hn =>
    rw [pieces] at h
    · cases h
    · exact hn
  | case6 t hn =>
    rw [pieces] at h
    · cases h
    · exact hn
  | case7 c t h₁ h₂ e he ih =>
    rw [pieces_letter he] at h
    obtain ⟨⟨qs, q⟩, hq, hps⟩ := of_map_eq_ok h
    have hc : endsLine c = false :=
      not_endsLine (P := fun c => letterEscape? c = some e) he (by simp [letterEscape?])
        (by simp [letterEscape?])
    obtain ⟨t', rfl, ht⟩ := Alike.append_inv (w := ['\\', c])
      (List.forall_mem_cons.2 ⟨rfl, List.forall_mem_singleton.2 hc⟩) ha
    cases hps
    obtain ⟨r', hr', hr, hlt⟩ := ih hq ht
    refine ⟨r', ?_, hr, by simp only [List.length_append]; omega⟩
    show pieces start' ('\\' :: c :: t') = _
    rw [pieces_letter he, hr']
    rfl
  | case8 c t h₁ h₂ he =>
    rw [pieces, he] at h
    · cases h
    · exact h₁
    · exact h₂
  | case9 c t h₁ h₂ h₃ h₄ h₅ hc =>
    rw [pieces, if_pos hc] at h
    · cases h
    all_goals assumption
  | case10 c t h₁ h₂ h₃ h₄ h₅ hc ih =>
    have hb : c ≠ '\\' := by
      rintro rfl
      cases t with
      | nil => exact h₂ rfl rfl
      | cons d t => exact h₅ d t rfl rfl
    rw [pieces_self h₁ hb hc] at h
    obtain ⟨⟨qs, q⟩, hq, hps⟩ := of_map_eq_ok h
    have hend : endsLine c = false :=
      not_endsLine (P := fun c => ¬c < ' ') hc (by decide) (by decide)
    obtain ⟨t', rfl, ht⟩ := ha.cons_inv hend
    cases hps
    obtain ⟨r', hr', hr, hlt⟩ := ih hq ht
    refine ⟨r', ?_, hr, Nat.lt_succ_of_lt hlt⟩
    rw [pieces_self h₁ hb hc, hr']
    rfl

theorem readText_of_alike {k : String} (h : readText s = .ok (k, r)) (ha : Alike s s') :
    ∃ r', readText s' = .ok (k, r') ∧ Alike r r' ∧ r'.length < s'.length := by
  obtain ⟨⟨ps, q⟩, hps, hk⟩ := of_map_eq_ok h
  cases hk
  obtain ⟨r', hr', hr, hlt⟩ := pieces_of_alike hps ha (s'.length + 1)
  refine ⟨r', ?_, hr, hlt⟩
  unfold readText
  rw [hr']
  rfl

/-- Where a number is read, it is the value. -/
theorem readValue_of_readNumber {x : Json × List Char} (h : readNumber s = some x) (bound : Nat) :
    readValue (bound + 1) s = .ok x := by
  rw [readValue, h]
  all_goals
    rintro t rfl
    cases h

theorem length_skip_le (s : List Char) : (skip s).length ≤ s.length :=
  (List.dropWhile_sublist _).length_le

/-- A text that goes on with one character in no way does not start with it. -/
theorem head?_ne_of {c : Char} (h : ∀ r, s = c :: r → False) : s.head? ≠ some c := by
  intro hs
  obtain ⟨r, hr⟩ := List.head?_eq_some_iff.1 hs
  exact h r hr

/-- After blanks, both texts go on with the same character. -/
theorem skip_of_alike {c : Char} (hc : endsLine c = false) (hs : skip s = c :: r) (ha : Alike s s') :
    ∃ r', skip s' = c :: r' ∧ Alike r r' ∧ r'.length < s'.length := by
  have hskip := ha.skip
  rw [hs] at hskip
  obtain ⟨r', hr', hr⟩ := hskip.cons_inv hc
  refine ⟨r', hr', hr, ?_⟩
  have := length_skip_le s'
  rw [hr', List.length_cons] at this
  omega

/-- The reader gets `a` of the text `s'` as well, with any bound that is at least twice its
length and `extra`, and leaves a shorter text that is alike to `r`. -/
def AlsoReads {α : Type} (reader : Nat → List Char → Except Defect (α × List Char)) (extra : Nat)
    (s' : List Char) (a : α) (r : List Char) : Prop :=
  ∃ r', Alike r r' ∧ r'.length < s'.length ∧
    ∀ b, 2 * s'.length + extra ≤ b → reader b s' = .ok (a, r')

namespace AlsoReads

variable {α : Type} {reader : Nat → List Char → Except Defect (α × List Char)} {extra : Nat}
  {a : α} {r' : List Char}

/-- A text of which something is read is not empty, so the bound is not zero. -/
theorem of_succ (hr : Alike r r') (hlt : r'.length < s'.length)
    (h : ∀ b, 2 * s'.length + extra ≤ b + 1 → reader (b + 1) s' = .ok (a, r')) :
    AlsoReads reader extra s' a r := by
  refine ⟨r', hr, hlt, fun b hb => ?_⟩
  obtain ⟨b, rfl⟩ : ∃ b', b = b' + 1 := ⟨b - 1, by omega⟩
  exact h b hb

/-- What is read in one step is read with every bound but zero. -/
theorem of_step (hr : Alike r r') (hlt : r'.length < s'.length)
    (h : ∀ b, reader (b + 1) s' = .ok (a, r')) : AlsoReads reader extra s' a r :=
  of_succ hr hlt fun b _ => h b

end AlsoReads

/-- A word is read in front of anything, and both texts start with it. -/
theorem alsoReads_word {w : List Char} {v : Json} (hw : w.all (!endsLine ·) = true) (hne : w ≠ [])
    (hv : ∀ bound t, readValue (bound + 1) (w ++ t) = .ok (v, t)) (ha : Alike (w ++ r) s') :
    AlsoReads readValue 0 s' v r := by
  have inside : ∀ c ∈ w, endsLine c = false := by
    intro c hc
    have := List.all_eq_true.1 hw c hc
    rwa [Bool.not_eq_true'] at this
  obtain ⟨r', rfl, hr⟩ := Alike.append_inv inside ha
  refine .of_step hr ?_ fun b => hv b r'
  rw [List.length_append]
  have := List.length_pos_iff.2 hne
  omega

/-- Between two brackets with nothing but blanks there is the same in both texts. -/
theorem alsoReads_empty {c d : Char} {v : Json} {t t' : List Char} (hd : endsLine d = false)
    (hv : ∀ bound t q, skip t = d :: q → readValue (bound + 1) (c :: t) = .ok (v, q))
    (ht : skip t = d :: r) (ha : Alike t t') : AlsoReads readValue 0 (c :: t') v r := by
  obtain ⟨r', hr', hr, hlt⟩ := skip_of_alike hd ht ha
  exact .of_step hr (Nat.lt_succ_of_lt hlt) fun b => hv b t' r' hr'

/-- A list with items is read after its opening bracket. -/
theorem alsoReads_arr {t t' : List Char} {js : List Json} (ht : Alike t t')
    (hne : (skip t).head? ≠ some ']') (h : AlsoReads readItems 1 (skip t') js r) :
    AlsoReads readValue 0 ('[' :: t') (.arr js) r := by
  obtain ⟨r', hr, hlt, hitems⟩ := h
  have hskip := length_skip_le t'
  have hlength : ('[' :: t').length = t'.length + 1 := List.length_cons
  refine .of_succ hr (by omega) fun b hb => ?_
  exact readValue_arr rfl (ht.skip.head?_ne rfl hne) (hitems b (by omega))

/-- An object with members is read after its opening brace. -/
theorem alsoReads_obj {t t' : List Char} {ms : Members} (ht : Alike t t')
    (hne : (skip t).head? ≠ some '\x7d')
    (h : AlsoReads (fun b => readMembers b []) 1 (skip t') ms r) :
    AlsoReads readValue 0 ('\x7b' :: t') (.obj ms) r := by
  obtain ⟨r', hr, hlt, hmembers⟩ := h
  have hskip := length_skip_le t'
  have hlength : ('\x7b' :: t').length = t'.length + 1 := List.length_cons
  refine .of_succ hr (by omega) fun b hb => ?_
  exact readValue_obj rfl (ht.skip.head?_ne rfl hne) (hmembers b (by omega))

mutual

/-- **A value that is read of a text is read of every alike one**, with any bound that is
at least twice its length. -/
theorem readValue_of_alike : ∀ (bound : Nat) {s s' r : List Char} {v : Json},
    readValue bound s = .ok (v, r) → Alike s s' → AlsoReads readValue 0 s' v r
  | bound + 1, s, s', r, v, h, ha => by
    unfold readValue at h
    split at h
    · obtain ⟨t', rfl, ht⟩ := ha.cons_inv rfl
      obtain ⟨⟨k, q⟩, hk, hv⟩ := of_map_eq_ok h
      cases hv
      obtain ⟨r', hr', hr, hlt⟩ := readText_of_alike hk ht
      refine .of_step hr (Nat.lt_succ_of_lt hlt) fun b => ?_
      rw [readValue, hr']
      rfl
    · obtain ⟨t', rfl, ht⟩ := ha.cons_inv rfl
      split at h
      · rename_i q hq
        cases h
        refine alsoReads_empty rfl (fun b u q hu => ?_) hq ht
        rw [readValue, hu]
        rfl
      · rename_i hne
        obtain ⟨⟨js, q⟩, hjs, hv⟩ := of_map_eq_ok h
        cases hv
        exact alsoReads_arr ht (head?_ne_of hne) (readItems_of_alike bound hjs ht.skip)
    · obtain ⟨t', rfl, ht⟩ := ha.cons_inv rfl
      split at h
      · rename_i q hq
        cases h
        refine alsoReads_empty rfl (fun b u q hu => ?_) hq ht
        rw [readValue, hu]
        rfl
      · rename_i hne
        obtain ⟨⟨ms, q⟩, hms, hv⟩ := of_map_eq_ok h
        cases hv
        exact alsoReads_obj ht (head?_ne_of hne) (readMembers_of_alike bound hms ht.skip)
    · cases h
      exact alsoReads_word (w := "null".toList) rfl (by decide) (fun _ _ => rfl) ha
    · cases h
      exact alsoReads_word (w := "true".toList) rfl (by decide) (fun _ _ => rfl) ha
    · cases h
      exact alsoReads_word (w := "false".toList) rfl (by decide) (fun _ _ => rfl) ha
    · cases h
      exact alsoReads_word (w := "NaN".toList) rfl (by decide) (fun _ _ => rfl) ha
    · cases h
      exact alsoReads_word (w := "Infinity".toList) rfl (by decide) (fun _ _ => rfl) ha
    · cases h
      exact alsoReads_word (w := "-Infinity".toList) rfl (by decide) (fun _ _ => rfl) ha
    · split at h
      · rename_i x hx
        cases h
        obtain ⟨r', hr', hr, hlt⟩ := readNumber_of_alike hx ha
        exact .of_step hr hlt (readValue_of_readNumber hr')
      · cases h

/-- The items that are read of a text are read of every alike one. -/
theorem readItems_of_alike : ∀ (bound : Nat) {s s' r : List Char} {js : List Json},
    readItems bound s = .ok (js, r) → Alike s s' → AlsoReads readItems 1 s' js r
  | bound + 1, s, s', r, js, h, ha => by
    unfold readItems at h
    split at h
    · cases h
    rename_i v q hv
    obtain ⟨q', hq, hlt, hvalue⟩ := readValue_of_alike bound hv ha
    split at h
    · rename_i t ht
      cases h
      obtain ⟨r', hr', hr, hlt'⟩ := skip_of_alike rfl ht hq
      refine .of_succ hr (by omega) fun b hb => ?_
      exact readItems_last (hvalue b (by omega)) hr'
    · rename_i t ht
      obtain ⟨⟨js, u⟩, hjs, hv⟩ := of_map_eq_ok h
      cases hv
      obtain ⟨t', ht', hta, hlt'⟩ := skip_of_alike rfl ht hq
      have := length_skip_le t'
      obtain ⟨r', hr, hlt'', hitems⟩ := readItems_of_alike bound hjs hta.skip
      refine .of_succ hr (by omega) fun b hb => ?_
      rw [readItems_more (hvalue b (by omega)) ht', hitems b (by omega)]
      rfl
    · cases h

/-- The members that are read of a text are read of every alike one. -/
theorem readMembers_of_alike : ∀ (bound : Nat) {before : Members} {s s' r : List Char}
    {ms : Members}, readMembers bound before s = .ok (ms, r) → Alike s s' →
      AlsoReads (fun b => readMembers b before) 1 s' ms r
  | bound + 1, before, s, s', r, ms, h, ha => by
    unfold readMembers at h
    split at h
    · obtain ⟨t', rfl, ht⟩ := ha.cons_inv rfl
      split at h
      · cases h
      rename_i k q hk
      obtain ⟨q', hk', hq, hlt₁⟩ := readText_of_alike hk ht
      split at h
      · rename_i u hu
        obtain ⟨u', hu', hua, hlt₂⟩ := skip_of_alike rfl hu hq
        split at h
        · cases h
        rename_i v w hv
        have := length_skip_le u'
        obtain ⟨w', hw, hlt₃, hvalue⟩ := readValue_of_alike bound hv hua.skip
        have hlength : ('"' :: t').length = t'.length + 1 := List.length_cons
        dsimp only at h
        split at h
        · rename_i x hx
          cases h
          obtain ⟨r', hr', hr, hlt₄⟩ := skip_of_alike rfl hx hw
          refine .of_succ hr (by omega) fun b hb => ?_
          exact readMembers_last hk' hu' (hvalue b (by omega)) hr'
        · rename_i x hx
          obtain ⟨x', hx', hxa, hlt₄⟩ := skip_of_alike rfl hx hw
          have := length_skip_le x'
          obtain ⟨r', hr, hlt₅, hmembers⟩ := readMembers_of_alike bound h hxa.skip
          refine .of_succ hr (by omega) fun b hb => ?_
          exact (readMembers_more hk' hu' (hvalue b (by omega)) hx').trans (hmembers b (by omega))
        · cases h
      · cases h
    · cases h

end

/-- **What is read of a text is read of every alike one.** -/
theorem read_of_alike {v : Json} (h : read s = .ok v) (ha : Alike s s') : read s' = .ok v := by
  unfold read at h ⊢
  split at h
  · cases h
  rename_i hmark
  rw [if_neg (ha.head?_ne rfl hmark)]
  dsimp only at h ⊢
  split at h
  · cases h
  rename_i w r hv
  obtain ⟨r', hr, -, hvalue⟩ := readValue_of_alike _ hv ha.skip
  rw [hvalue (2 * (skip s').length) (Nat.le_refl _)]
  split at h
  · rename_i hend
    cases h
    have hnil := hr.skip
    rw [hend] at hnil
    dsimp only
    rw [hnil.eq_nil]
  · cases h

end Json
end PowerSupply
