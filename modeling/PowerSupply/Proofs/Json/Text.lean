/-
# Reading back a written text

A text is written between quotes one character after another, and each character is
read back from what is written for it (`readAs_escapeChar`): a short escape and a
character that stands for itself give a character, a `\u` escape gives a unit, and a
character beyond 16 bits gives two.  Units come from characters, which are no surrogates,
so they are joined only where one character was written as two.  Hence the whole text is
read back, and what follows its closing quote is left (`readText_flatMap`).
-/

import PowerSupply.Json.Printer
import PowerSupply.Json.Reader
import PowerSupply.Proofs.Text.Digits

namespace PowerSupply
namespace Json

/-- Whether a text, in front of anything at all, is read as one character. -/
def ReadAs (written : List Char) (c : Char) : Prop :=
  ∃ ps, (∀ start r, r ≠ [] →
      pieces start (written ++ r) = (pieces start r).map fun x => (ps ++ x.1, x.2)) ∧
    ∀ qs, joinPieces (ps ++ qs) = c :: joinPieces qs

/-- A one-letter escape is a piece. -/
theorem pieces_letter {e c : Char} (h : letterEscape? e = some c) (start : Nat) (r : List Char) :
    pieces start ('\\' :: e :: r) = (pieces start r).map fun x => (.char c :: x.1, x.2) := by
  have hu : e ≠ 'u' := by
    rintro rfl
    cases h
  rw [pieces, h]
  · exact fun _ _ _ _ _ he _ => hu he
  · exact hu

/-- A character from the blank on is a piece, but for the quote and the backslash. -/
theorem pieces_self {c : Char} (hq : c ≠ '"') (hb : c ≠ '\\') (hc : ¬c < ' ') (start : Nat)
    (r : List Char) :
    pieces start (c :: r) = (pieces start r).map fun x => (.char c :: x.1, x.2) := by
  rw [pieces, if_neg hc]
  · exact hq
  -- the other branches are those that start with a backslash
  all_goals intros; exact hb ‹c = '\\'›

/-- Four hexadecimal digits after `\u` are a piece, if something follows them. -/
theorem pieces_hex {a b c d : Char} {n : Nat} (h : hex4? a b c d = some n) (start : Nat)
    {r : List Char} (hr : r ≠ []) :
    pieces start ('\\' :: 'u' :: a :: b :: c :: d :: r) =
      (pieces start r).map fun x => (.unit n :: x.1, x.2) := by
  obtain ⟨e, r, rfl⟩ := List.exists_cons_of_ne_nil hr
  rw [pieces]
  exact h

/-- A one-letter escape is read as its character. -/
theorem readAs_letter {e c : Char} (h : letterEscape? e = some c) : ReadAs ['\\', e] c :=
  ⟨[.char c], fun start r _ => pieces_letter h start r, fun _ => rfl⟩

/-- Such a character is read as itself. -/
theorem readAs_self {c : Char} (hq : c ≠ '"') (hb : c ≠ '\\') (hc : ¬c < ' ') : ReadAs [c] c :=
  ⟨[.char c], fun start r _ => pieces_self hq hb hc start r, fun _ => rfl⟩

/-- The four digits of a `\u` escape give its number. -/
theorem hex4?_digits {n : Nat} (h : n < 0x10000) :
    hex4? (n / 4096).digitChar (n / 256 % 16).digitChar (n / 16 % 16).digitChar
      (n % 16).digitChar = some n := by
  have value : (((n / 4096 * 16 + n / 256 % 16) * 16 + n / 16 % 16) * 16 + n % 16) = n := by omega
  unfold hex4?
  rw [Text.hexDigit?_digitChar (by omega), Text.hexDigit?_digitChar (by omega),
    Text.hexDigit?_digitChar (by omega), Text.hexDigit?_digitChar (by omega)]
  exact congrArg some value

/-- A `\u` escape is read as its unit, if something follows it. -/
theorem pieces_unitEscape {n : Nat} (h : n < 0x10000) (start : Nat) {r : List Char} (hr : r ≠ []) :
    pieces start (unitEscape n ++ r) = (pieces start r).map fun x => (.unit n :: x.1, x.2) := by
  unfold unitEscape
  rw [Text.hex_four h]
  exact pieces_hex (hex4?_digits h) start hr

/-- A unit that is no surrogate is a character, whatever follows it. -/
theorem joinPieces_unit {n : Nat} (h : ¬(0xD800 ≤ n ∧ n < 0xE000)) (qs : List Piece) :
    joinPieces (.unit n :: qs) = Char.ofNat n :: joinPieces qs := by
  have hn : joinPieces.unitChar n = Char.ofNat n := if_neg h
  rcases qs with _ | ⟨c | l, qs⟩
  · simp [joinPieces, hn]
  · simp [joinPieces, hn]
  · rw [joinPieces, if_neg (fun hl => h ⟨hl.1, by omega⟩), hn]

/-- A high unit before a low one is one character with it. -/
theorem joinPieces_pair {h l : Nat} (hl : 0xD800 ≤ h ∧ h < 0xDC00 ∧ 0xDC00 ≤ l ∧ l < 0xE000)
    (qs : List Piece) :
    joinPieces (.unit h :: .unit l :: qs) =
      Char.ofNat (0x10000 + (h - 0xD800) * 0x400 + (l - 0xDC00)) :: joinPieces qs := by
  rw [joinPieces, if_pos hl]

/-- **A character of 16 bits** is read from its `\u` escape. -/
theorem readAs_unit {c : Char} (h : c.toNat < 0x10000) : ReadAs (unitEscape c.toNat) c := by
  have valid : c.toNat < 0xD800 ∨ 0xDFFF < c.toNat ∧ c.toNat < 0x110000 := c.valid
  refine ⟨[.unit c.toNat], fun start r hr => pieces_unitEscape h start hr, fun qs => ?_⟩
  rw [List.singleton_append, joinPieces_unit (by omega), Char.ofNat_toNat]

/-- **A character beyond 16 bits** is read from the escapes of its two halves. -/
theorem readAs_pair {c : Char} {high low : Nat}
    (hs : 0xD800 ≤ high ∧ high < 0xDC00 ∧ 0xDC00 ≤ low ∧ low < 0xE000)
    (hc : 0x10000 + (high - 0xD800) * 0x400 + (low - 0xDC00) = c.toNat) :
    ReadAs (unitEscape high ++ unitEscape low) c := by
  refine ⟨[.unit high, .unit low], fun start r hr => ?_, fun qs => ?_⟩
  · rw [List.append_assoc, pieces_unitEscape (by omega) start (by simp [unitEscape]),
      pieces_unitEscape (by omega) start hr]
    cases pieces start r <;> rfl
  · rw [List.cons_append, List.singleton_append, joinPieces_pair hs, hc, Char.ofNat_toNat]

/-- **Each character is read from what is written for it.** -/
theorem readAs_escapeChar (c : Char) : ReadAs (escapeChar c) c := by
  unfold escapeChar
  split
  · rename_i h; subst h; exact readAs_letter rfl
  split
  · rename_i h; subst h; exact readAs_letter rfl
  split
  · rename_i h; subst h; exact readAs_letter rfl
  split
  · rename_i h; subst h; exact readAs_letter rfl
  split
  · rename_i h; subst h; exact readAs_letter rfl
  split
  · rename_i h; subst h; exact readAs_letter rfl
  split
  · rename_i h; subst h; exact readAs_letter rfl
  split
  · rename_i hq hb _ _ _ _ _ h
    exact readAs_self hq hb (Char.not_lt.2 h.1)
  split
  · rename_i h; exact readAs_unit h
  · rename_i h
    have valid : c.toNat < 0xD800 ∨ 0xDFFF < c.toNat ∧ c.toNat < 0x110000 := c.valid
    exact readAs_pair (by omega) (by omega)

theorem pieces_flatMap (start : Nat) (cs r : List Char) :
    ∃ ps, pieces start (cs.flatMap escapeChar ++ '"' :: r) = .ok (ps, r) ∧ joinPieces ps = cs := by
  induction cs with
  | nil => exact ⟨[], rfl, rfl⟩
  | cons c cs ih =>
    obtain ⟨ps, hps, hcs⟩ := ih
    obtain ⟨qs, hqs, hc⟩ := readAs_escapeChar c
    refine ⟨qs ++ ps, ?_, by rw [hc, hcs]⟩
    rw [List.flatMap_cons, List.append_assoc, hqs start _ (by simp), hps]
    rfl

/-- **A text is read back** up to its closing quote. -/
theorem readText_flatMap (s : String) (r : List Char) :
    readText (s.toList.flatMap escapeChar ++ '"' :: r) = .ok (s, r) := by
  unfold readText
  obtain ⟨ps, hps, hs⟩ := pieces_flatMap _ s.toList r
  rw [hps]
  show Except.ok (String.ofList (joinPieces ps), r) = _
  rw [hs, String.ofList_toList]

end Json
end PowerSupply
