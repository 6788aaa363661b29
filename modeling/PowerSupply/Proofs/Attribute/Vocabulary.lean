/-
# Which words a status and a health are told by

The status of a battery is told by the first letter of its text.  So is the health, except
that the words with `O` and `U` have to be there as a whole.  Both are tables (`letters`,
`words`), and a text is looked up in them (`Status.ofText?_eq_some_iff`,
`Health.ofText?_eq_some_iff`); a text that stands there is in the vocabulary.

Hence a text may go on in any way behind a letter that decides (`Status.ofText?_append`,
`Health.ofText?_append`), and a word that is compared as a whole has one spelling
(`Health.ofText?_eq_some_iff_of_mem_words`).  A text that is not found is noted once and
counts as unknown (`foundOr`), so an unknown status or health without a note is one that
the battery said itself (`outcome_foundOr`).
-/

import Mathlib.Tactic.SplitIfs
import PowerSupply.Proofs.Attribute

namespace PowerSupply

namespace Status

/-- The letters that a status starts with, and what each of them stands for. -/
def letters : List (Char × Status) :=
  [('C', .charging), ('D', .discharging), ('F', .full), ('N', .notCharging), ('U', .unknown)]

/-- Whether a text starts with one of the letters. -/
def InVocabulary (text : String) : Prop := ∃ e ∈ letters, text.toList.head? = some e.1

instance (text : String) : Decidable (InVocabulary text) :=
  inferInstanceAs (Decidable (∃ e ∈ letters, _))

/-- **A status is what the first letter stands for.** -/
theorem ofText?_eq_some_iff {text : String} {s : Status} :
    ofText? text = some s ↔ ∃ c, text.toList.head? = some c ∧ (c, s) ∈ letters := by
  unfold ofText?
  cases text.toList with
  | nil => simp
  | cons c r =>
    simp only [List.head?_cons, Option.some.injEq, exists_eq_left', letters, List.mem_cons,
      Prod.mk.injEq, List.not_mem_nil, or_false]
    split <;> simp_all [eq_comm]

theorem ofText?_eq_none_iff {text : String} : ofText? text = none ↔ ¬InVocabulary text := by
  simp only [Option.eq_none_iff_forall_ne_some, ne_eq, ofText?_eq_some_iff, InVocabulary,
    not_exists, not_and, Prod.forall]
  exact ⟨fun h c s hs hc => h s c hc hs, fun h s c hc hs => h c s hs hc⟩

/-- Only the letter `U` stands for an unknown status. -/
theorem ofText?_eq_unknown_iff {text : String} :
    ofText? text = some .unknown ↔ text.toList.head? = some 'U' := by
  simp [ofText?_eq_some_iff, letters]

/-- **What comes after the first letter does not matter.** -/
theorem ofText?_append {text : String} (h : text ≠ "") (suffix : String) :
    ofText? (text ++ suffix) = ofText? text := by
  have hne : text.toList ≠ [] := fun hnil => h (String.toList_eq_nil_iff.1 hnil)
  ext s
  rw [ofText?_eq_some_iff, ofText?_eq_some_iff, String.toList_append,
    List.head?_append, Option.or_of_isSome (List.isSome_head?.2 hne)]

end Status

namespace Health

/-- The letters that decide a health, and what each of them stands for. -/
def letters : List (Char × Health) := [('C', .cold), ('D', .dead), ('G', .good)]

/-- The words that share a letter with another one, and what each of them stands for. -/
def words : List (String × Health) :=
  [("Overheat", .overheat), ("Over voltage", .overVoltage),
   ("Unspecified failure", .unspecifiedFailure), ("Unknown", .unknown)]

/-- Whether a text starts with one of the letters or is one of the words. -/
def InVocabulary (text : String) : Prop :=
  (∃ e ∈ letters, text.toList.head? = some e.1) ∨ ∃ e ∈ words, text = e.1

instance (text : String) : Decidable (InVocabulary text) :=
  inferInstanceAs (Decidable ((∃ e ∈ letters, _) ∨ ∃ e ∈ words, _))

/-- The words start with two letters, and neither of these decides. -/
theorem head?_of_mem_words {e : String × Health} (he : e ∈ words) :
    e.1.toList.head? = some 'O' ∨ e.1.toList.head? = some 'U' := by
  have all : words.all fun e => e.1.toList.head? = some 'O' ∨ e.1.toList.head? = some 'U' := by
    rfl
  simpa using List.all_eq_true.1 all e he

/-- A text that starts with a letter that decides. -/
theorem ofText?_of_letter {text : String} {e : Char × Health} (he : e ∈ letters)
    (hc : text.toList.head? = some e.1) : ofText? text = some e.2 := by
  obtain ⟨r, hr⟩ := List.head?_eq_some_iff.1 hc
  simp only [letters, List.mem_cons, List.not_mem_nil, or_false] at he
  unfold ofText?
  rw [hr]
  rcases he with rfl | rfl | rfl <;> rfl

/-- A text that starts with none of them is compared with the words. -/
theorem ofText?_of_no_letter {text : String} (hc : ∀ e ∈ letters, text.toList.head? ≠ some e.1)
    {h : Health} : ofText? text = some h ↔ (text, h) ∈ words := by
  unfold ofText?
  split
  · rename_i r hr
    exact absurd (congrArg List.head? hr) (hc ('C', .cold) (by decide))
  · rename_i r hr
    exact absurd (congrArg List.head? hr) (hc ('D', .dead) (by decide))
  · rename_i r hr
    exact absurd (congrArg List.head? hr) (hc ('G', .good) (by decide))
  · unfold words
    split_ifs <;> simp_all [eq_comm]

/-- **A health is what the first letter stands for, or else the whole text.** -/
theorem ofText?_eq_some_iff {text : String} {h : Health} :
    ofText? text = some h ↔
      (∃ c, text.toList.head? = some c ∧ (c, h) ∈ letters) ∨ (text, h) ∈ words := by
  constructor
  · intro hs
    by_cases hl : ∃ e ∈ letters, text.toList.head? = some e.1
    · obtain ⟨e, he, hc⟩ := hl
      rw [ofText?_of_letter he hc] at hs
      exact .inl ⟨e.1, hc, Option.some.inj hs ▸ he⟩
    · exact .inr ((ofText?_of_no_letter fun e he hc => hl ⟨e, he, hc⟩).1 hs)
  · rintro (⟨c, hc, he⟩ | hw)
    · exact ofText?_of_letter he hc
    · -- a word starts with `O` or `U`, and neither is in the table of letters
      refine (ofText?_of_no_letter fun e he hc => ?_).2 hw
      simp only [letters, List.mem_cons, List.not_mem_nil, or_false] at he
      have hhead := head?_of_mem_words hw
      rcases he with rfl | rfl | rfl <;> simp [hc] at hhead

theorem ofText?_eq_none_iff {text : String} : ofText? text = none ↔ ¬InVocabulary text := by
  simp only [Option.eq_none_iff_forall_ne_some, ne_eq, ofText?_eq_some_iff, InVocabulary]
  constructor
  · rintro h (⟨e, he, hc⟩ | ⟨e, he, rfl⟩)
    · exact h e.2 (.inl ⟨e.1, hc, he⟩)
    · exact h e.2 (.inr he)
  · rintro h s (⟨c, hc, he⟩ | he)
    · exact h (.inl ⟨_, he, hc⟩)
    · exact h (.inr ⟨_, he, rfl⟩)

/-- **A word that shares its letter has one spelling.** -/
theorem ofText?_eq_some_iff_of_mem_words {word : String} {h : Health} (hw : (word, h) ∈ words)
    {text : String} : ofText? text = some h ↔ text = word := by
  rw [ofText?_eq_some_iff]
  simp only [words, List.mem_cons, Prod.mk.injEq, List.not_mem_nil, or_false] at hw
  rcases hw with ⟨rfl, rfl⟩ | ⟨rfl, rfl⟩ | ⟨rfl, rfl⟩ | ⟨rfl, rfl⟩ <;> simp [letters, words]

/-- **What comes after the first letter does not matter**, unless words share it. -/
theorem ofText?_append {text : String} {c : Char} (hc : text.toList.head? = some c)
    (hO : c ≠ 'O') (hU : c ≠ 'U') (suffix : String) :
    ofText? (text ++ suffix) = ofText? text := by
  have hhead : (text ++ suffix).toList.head? = some c := by
    rw [String.toList_append, List.head?_append, hc, Option.some_or]
  have notWord : ∀ s : String, s.toList.head? = some c → ∀ h, (s, h) ∉ words := by
    intro s hs h hw
    rcases head?_of_mem_words hw with hw | hw
    · exact hO (Option.some.inj (hs.symm.trans hw))
    · exact hU (Option.some.inj (hs.symm.trans hw))
  ext h
  rw [ofText?_eq_some_iff, ofText?_eq_some_iff, hhead, hc, iff_false_intro (notWord _ hhead h),
    iff_false_intro (notWord _ hc h)]

end Health

namespace Attribute

/-- What was found of a text; or else a note, and what the text counts as. -/
def foundOr {α : Type} (found : Option α) (n : Note) (unknown : α) : Logged α :=
  match found with
  | some a => pure a
  | none => ⟨[n], .ok unknown⟩

theorem decodeStatus_eq (text : String) :
    decodeStatus text = foundOr (Status.ofText? text) (.unknownStatus text) .unknown := by
  unfold decodeStatus
  cases Status.ofText? text <;> rfl

theorem decodeHealth_eq (text : String) :
    decodeHealth text = foundOr (Health.ofText? text) (.unknownHealth text) .unknown := by
  unfold decodeHealth
  cases Health.ofText? text <;> rfl

/-- **What is not found is noted**, once, and counts as unknown; what is found is not noted,
and is unknown only where the text says so.  Here `P` tells what can be found. -/
theorem outcome_foundOr {α : Type} {found : Option α} {P : Prop} [Decidable P]
    (hP : found = none ↔ ¬P) (n : Note) (unknown : α) :
    ∃ a, (foundOr found n unknown).result = .ok a ∧
      (foundOr found n unknown).events = (if P then [] else [n]) ∧
      (a ≠ unknown → (foundOr found n unknown).events = []) ∧
      (a = unknown ∧ (foundOr found n unknown).events = [] ↔ found = some unknown) := by
  cases found with
  | some a => exact ⟨a, rfl, by simp_all [foundOr]⟩
  | none => exact ⟨unknown, rfl, by simp_all [foundOr]⟩

/-- **How a text says a status or a health.**  A status is told by the first letter, whatever
follows; so is a health, unless the letter is `O` or `U`, and there each word has to be the
whole text.  There is always an answer, with one warning where the text is outside the
vocabulary and none elsewhere.  So only an unknown status or health comes with a warning, and
it comes without one just where the text says it: by the letter `U`, or by the word. -/
theorem decoding_of_text :
    (∀ text suffix, text ≠ "" →
      (decodeStatus (text ++ suffix)).result = (decodeStatus text).result) ∧
    (∀ text suffix c, text.toList.head? = some c → c ≠ 'O' → c ≠ 'U' →
      (decodeHealth (text ++ suffix)).result = (decodeHealth text).result) ∧
    (∀ text, ((decodeHealth text).result = .ok .overheat ↔ text = "Overheat") ∧
      ((decodeHealth text).result = .ok .overVoltage ↔ text = "Over voltage") ∧
      ((decodeHealth text).result = .ok .unspecifiedFailure ↔ text = "Unspecified failure")) ∧
    (∀ text, ∃ status, (decodeStatus text).result = .ok status ∧
      (decodeStatus text).events =
        (if Status.InVocabulary text then [] else [.unknownStatus text]) ∧
      (Note.unknownStatus text).level = .warning ∧
      (status ≠ .unknown → (decodeStatus text).events = []) ∧
      (status = .unknown ∧ (decodeStatus text).events = [] ↔ text.toList.head? = some 'U')) ∧
    ∀ text, ∃ health, (decodeHealth text).result = .ok health ∧
      (decodeHealth text).events =
        (if Health.InVocabulary text then [] else [.unknownHealth text]) ∧
      (Note.unknownHealth text).level = .warning ∧
      (health ≠ .unknown → (decodeHealth text).events = []) ∧
      (health = .unknown ∧ (decodeHealth text).events = [] ↔ text = "Unknown") := by
  have known : ∀ {word h}, (word, h) ∈ Health.words → h ≠ .unknown → ∀ text,
      (decodeHealth text).result = .ok h ↔ text = word := by
    intro word h hw hne text
    rw [result_decodeHealth, ← Health.ofText?_eq_some_iff_of_mem_words hw, Except.ok.injEq]
    cases Health.ofText? text <;> simp [hne.symm]
  refine ⟨fun text suffix hne => ?_, fun text suffix c hc hO hU => ?_, fun text =>
    ⟨known (by decide) (by decide) text, known (by decide) (by decide) text,
      known (by decide) (by decide) text⟩, fun text => ?_, fun text => ?_⟩
  · rw [result_decodeStatus, result_decodeStatus, Status.ofText?_append hne]
  · rw [result_decodeHealth, result_decodeHealth, Health.ofText?_append hc hO hU]
  · obtain ⟨status, hresult, hevents, hsilent, hunknown⟩ :=
      outcome_foundOr Status.ofText?_eq_none_iff (.unknownStatus text) .unknown
    rw [← decodeStatus_eq] at hresult hevents hsilent hunknown
    exact ⟨status, hresult, hevents, rfl, hsilent, hunknown.trans Status.ofText?_eq_unknown_iff⟩
  · obtain ⟨health, hresult, hevents, hsilent, hunknown⟩ :=
      outcome_foundOr Health.ofText?_eq_none_iff (.unknownHealth text) .unknown
    rw [← decodeHealth_eq] at hresult hevents hsilent hunknown
    exact ⟨health, hresult, hevents, rfl, hsilent,
      hunknown.trans (Health.ofText?_eq_some_iff_of_mem_words (by decide))⟩

/-- A status and a health that go on behind their letter; a word with a blank behind it and a
status in small letters, which are noted; and a letter that is unknown for a status and no
word of a health. -/
theorem decoding_of_awkward_texts :
    "Full" ≠ "" ∧ (decodeStatus ("Full" ++ "y charged")).result = (decodeStatus "Full").result ∧
      "Good".toList.head? = some 'G' ∧ 'G' ≠ 'O' ∧ 'G' ≠ 'U' ∧
      (decodeHealth ("Good" ++ "bye")).result = (decodeHealth "Good").result ∧
      (decodeHealth "Over voltage ").result ≠ .ok .overVoltage ∧
      (decodeHealth "Over voltage ").events = [.unknownHealth "Over voltage "] ∧
      (decodeStatus "charging").events = [.unknownStatus "charging"] ∧
      (decodeStatus "Unplugged").result = .ok .unknown ∧ (decodeStatus "Unplugged").events = [] ∧
      (decodeHealth "Unplugged").events = [.unknownHealth "Unplugged"] := by
  obtain ⟨statusSuffix, healthSuffix, words, status, health⟩ := decoding_of_text
  obtain ⟨_, -, hover, -⟩ := health "Over voltage "
  obtain ⟨_, -, hsmall, -⟩ := status "charging"
  obtain ⟨_, hresult, hletter, -, -, hunknown⟩ := status "Unplugged"
  obtain ⟨_, -, hword, -⟩ := health "Unplugged"
  obtain ⟨rfl, hsilent⟩ := hunknown.2 (by decide)
  exact ⟨by decide, statusSuffix _ _ (by decide), by decide, by decide, by decide,
    healthSuffix _ _ 'G' (by decide) (by decide) (by decide),
    fun h => absurd ((words _).2.1.1 h) (by decide),
    hover.trans (if_neg (by decide)), hsmall.trans (if_neg (by decide)), hresult, hsilent,
    hword.trans (if_neg (by decide))⟩

end Attribute
end PowerSupply
