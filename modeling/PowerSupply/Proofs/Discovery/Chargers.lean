/-
# Which devices are chargers

Six words name a type of charger (`SupplyType.chargerWords`).  The chargers of a
configuration are the devices of the supply root whose type starts with the bytes of such a
word, with nothing but newlines behind them within the limit of a text, and whose state
leads to a regular file.  They are listed once each, in ascending order of name
(`chargers_of_listed_root`).

The scan looks at nothing else for the list: in two trees with the same devices, the same
types and the same chargers with a readable state, the lists are the same
(`chargers_of_same_types`), whatever the batteries offer.
-/

import PowerSupply.FileTree.Change
import PowerSupply.Proofs.Attribute.Word
import PowerSupply.Proofs.Discovery.Files

namespace PowerSupply

namespace SupplyType

/-- The words that a charger has as its type. -/
def chargerWords : List String := ["Mains", "USB_DCP", "USB_CDP", "USB_ACA", "USB", "Wireless"]

/-- Everything is a charger but batteries and what is unknown. -/
theorem isCharger_eq_true_iff {k : SupplyType} :
    k.isCharger = true ↔ k ≠ .battery ∧ k ≠ .unknown := by
  cases k <;> decide

/-- **A text is the type of a charger** exactly where it is one of six words. -/
theorem isCharger_ofText_iff {text : Option String} :
    (ofText text).isCharger = true ↔ ∃ word ∈ chargerWords, text = some word := by
  constructor
  · intro h
    cases text with
    | none => exact absurd h (by decide)
    | some word =>
      refine ⟨word, Decidable.byContradiction fun hword => ?_, rfl⟩
      obtain ⟨hbattery, hunknown⟩ := isCharger_eq_true_iff.1 h
      simp only [chargerWords, List.mem_cons, List.not_mem_nil, or_false, not_or] at hword
      obtain ⟨h₁, h₂, h₃, h₄, h₅, h₆⟩ := hword
      simp only [ofText, ofWord?, Option.bind_some, h₁, h₂, h₃, h₄, h₅, h₆, if_false]
        at hbattery hunknown
      split_ifs at hbattery hunknown
      · exact hbattery rfl
      · exact hunknown rfl
  · rintro ⟨word, hword, rfl⟩
    have hall : ∀ w ∈ chargerWords, (ofText (some w)).isCharger = true := by decide
    exact hall word hword

end SupplyType

namespace Discovery

open Attribute (Readable text?)

variable {t t' : FileTree} {root : Path} {name : String} {names : List String}
variable {c c' : Configuration}

theorem listed_iff :
    Listed t root name ↔
      (∃ word ∈ SupplyType.chargerWords, text? t (root / name / "type") = some word) ∧
        Readable t (root / name / "online") := by
  unfold Listed kind
  rw [SupplyType.isCharger_ofText_iff]

/-- The text of a file is the word of a charger where it starts with the bytes of the word
and goes on with newlines only, as far as it is read. -/
theorem text?_eq_chargerWord_iff {p : Path} {word : String} (h : word ∈ SupplyType.chargerWords) :
    text? t p = some word ↔ ∃ bytes n, t.stat p = .ok (.file bytes) ∧
      bytes.take 128 = Utf8.encode word ++ List.replicate n 10 := by
  have ascii : ∀ w ∈ SupplyType.chargerWords, ∀ c ∈ w.toList, c.toNat < 128 := by
    simp [SupplyType.chargerWords]
  have hend : ∀ w ∈ SupplyType.chargerWords, w.toList.getLast? ≠ some '\n' := by decide +kernel
  have htext := fun bytes => @Attribute.textOf_eq_iff word (ascii word h) (hend word h) bytes
  rw [Attribute.text?_eq_some_iff]
  constructor
  · rintro ⟨bytes, hs, hw⟩
    obtain ⟨n, hn⟩ := (htext _).1 hw
    exact ⟨bytes, n, hs, hn⟩
  · rintro ⟨bytes, n, hs, hn⟩
    exact ⟨bytes, hs, (htext _).2 ⟨n, hn⟩⟩

/-- **The list of chargers depends** on the devices, their types and the states of those
that have the type of a charger. -/
theorem chargers_of_same_types (h : (run t root).result = .ok c)
    (h' : (run t' root).result = .ok c') (hdevices : devices t' root = devices t root)
    (htype : ∀ name ∈ devices t root,
      text? t' (root / name / "type") = text? t (root / name / "type"))
    (hstate : ∀ name ∈ devices t root, (kind t (root / name)).isCharger = true →
      (Readable t' (root / name / "online") ↔ Readable t (root / name / "online"))) :
    c'.chargers = c.chargers := by
  rw [chargers_of_run h, chargers_of_run h', hdevices]
  refine List.filter_congr fun name hn => decide_eq_decide.2 ?_
  have hkind : kind t' (root / name) = kind t (root / name) := by
    unfold kind
    rw [htype name hn]
  unfold Listed
  rw [hkind]
  constructor
  · rintro ⟨hc, hr⟩
    exact ⟨hc, (hstate name hn hc).1 hr⟩
  · rintro ⟨hc, hr⟩
    exact ⟨hc, (hstate name hn hc).2 hr⟩

/-- **The chargers of a root that can be listed**, where discovery ends well.

They are in strictly ascending order of name, so each is there once.  A name is among them
exactly where it is an entry of the root, the first bytes of its type are those of a word
for a charger with newlines behind them, and its state leads to a regular file.  No battery
and no device of an unknown type is among them, and no other tree with the same entries,
types and states of chargers has other chargers. -/
theorem chargers_of_listed_root (hl : t.list root = .ok names) (h : (run t root).result = .ok c) :
    c.chargers.Pairwise (· < ·) ∧
      (∀ name, name ∈ c.chargers ↔ name ∈ names ∧
        (∃ word ∈ SupplyType.chargerWords, ∃ bytes n,
          t.stat (root / name / "type") = .ok (.file bytes) ∧
            bytes.take 128 = Utf8.encode word ++ List.replicate n 10) ∧
        Readable t (root / name / "online")) ∧
      (∀ name : String, kind t (root / name) = .battery ∨ kind t (root / name) = .unknown →
        name ∉ c.chargers) ∧
      ∀ t' c', t'.list root = .ok names → (run t' root).result = .ok c' →
        (∀ name ∈ names, text? t' (root / name / "type") = text? t (root / name / "type")) →
        (∀ name ∈ names, kind t (root / name) ≠ .battery → kind t (root / name) ≠ .unknown →
          (Readable t' (root / name / "online") ↔ Readable t (root / name / "online"))) →
        c'.chargers = c.chargers := by
  have devices_eq : ∀ u : FileTree, u.list root = .ok names → devices u root = names := by
    intro u hu
    unfold devices
    rw [hu]
    rfl
  have hdevices := devices_eq t hl
  have hmem : ∀ name, name ∈ c.chargers ↔ name ∈ names ∧ Listed t root name := by
    intro name
    rw [chargers_of_run h, List.mem_filter, hdevices, decide_eq_true_iff]
  refine ⟨?_, fun name => ?_, ?_, ?_⟩
  · rw [chargers_of_run h]
    exact (pairwise_devices t root).filter _
  · rw [hmem, listed_iff]
    have hword : (∃ word ∈ SupplyType.chargerWords, text? t (root / name / "type") = some word) ↔
        ∃ word ∈ SupplyType.chargerWords, ∃ bytes n,
          t.stat (root / name / "type") = .ok (.file bytes) ∧
            bytes.take 128 = Utf8.encode word ++ List.replicate n 10 :=
      exists_congr fun word => and_congr_right text?_eq_chargerWord_iff
    rw [hword]
  · rintro name hkind hn
    obtain ⟨hbattery, hunknown⟩ := SupplyType.isCharger_eq_true_iff.1 ((hmem name).1 hn).2.1
    exact hkind.elim hbattery hunknown
  · rintro t' c' hl' h' htype hstate
    have hdevices' := devices_eq t' hl'
    refine chargers_of_same_types h h' (hdevices'.trans hdevices.symm) ?_ ?_
    · rw [hdevices]
      exact htype
    · rw [hdevices]
      rintro name hn hc
      obtain ⟨hbattery, hunknown⟩ := SupplyType.isCharger_eq_true_iff.1 hc
      exact hstate name hn hbattery hunknown

/-- A root that is a link, a type with newlines up to the limit and a letter behind it, a
state behind a link and one that dangles, a battery with a state, and a type with a space
at its end.  Then the battery is given other files. -/
theorem chargers_of_linked_root :
    let t := FileTree.empty.changes
      [.device "devices/AC" [("online", "1")],
        .file "devices/AC/type" (Utf8.encode "Mains" ++ List.replicate 123 10 ++ [65]),
        .device "devices/BAT0" [("type", "Battery"), ("online", "1"), ("capacity", "80")],
        .device "devices/USB" [("type", "USB_DCP"), ("state", "1")],
        .link "devices/USB/online" (.ofText "state"),
        .device "devices/lost" [("type", "Wireless")],
        .link "devices/lost/online" (.ofText "gone"),
        .device "devices/pad" [("type", "Wireless"), ("online", "0")],
        .device "devices/spare" [("type", "Mains "), ("online", "1")],
        .link "ps" (.ofText "devices")]
    let t' := t.changes
      [.remove "ps/BAT0/online", .remove "ps/BAT0/capacity",
        .device "ps/BAT0" [("status", "Full"), ("charge_now", "1"), ("charge_full", "2")]]
    ∃ c c', t.list "ps" = .ok ["AC", "BAT0", "USB", "lost", "pad", "spare"] ∧
      (run t "ps").result = .ok c ∧ (run t' "ps").result = .ok c' ∧
      c.chargers = ["AC", "USB", "pad"] ∧ "BAT0" ∉ c.chargers ∧
      c'.chargers = c.chargers ∧ c'.paths ≠ c.paths := by
  intro t t'
  let names := ["AC", "BAT0", "USB", "lost", "pad", "spare"]
  -- evaluated together, so that each tree is built once
  obtain ⟨hlist, hlist', hrun, hrun', hbattery, htype, hstate⟩ :
      (t.list "ps").toOption = some names ∧ (t'.list "ps").toOption = some names ∧
      (run t "ps").result.toOption.any
        (fun c => c.chargers = ["AC", "USB", "pad"] ∧ c.paths.capacity.isSome) = true ∧
      (run t' "ps").result.toOption.any (fun c => c.paths.capacity.isNone) = true ∧
      kind t ("ps" / "BAT0") = .battery ∧
      (∀ name ∈ names, text? t' ("ps" / name / "type") = text? t ("ps" / name / "type")) ∧
      ∀ name ∈ names, kind t ("ps" / name) ≠ .battery → kind t ("ps" / name) ≠ .unknown →
        (Readable t' ("ps" / name / "online") ↔ Readable t ("ps" / name / "online")) := by
    decide +kernel
  have hl : t.list "ps" = .ok names := eq_ok_of_toOption hlist
  have hl' : t'.list "ps" = .ok names := eq_ok_of_toOption hlist'
  obtain ⟨c, hc, hp⟩ := exists_ok_of_any hrun
  obtain ⟨c', hc', hp'⟩ := exists_ok_of_any hrun'
  obtain ⟨hchargers, hcapacity⟩ := of_decide_eq_true hp
  obtain ⟨-, -, hother, hsame⟩ := chargers_of_listed_root hl hc
  refine ⟨c, c', hl, hc, hc', hchargers, hother "BAT0" (.inl hbattery), ?_, ?_⟩
  · exact hsame t' c' hl' hc' htype hstate
  · intro hpaths
    rw [← hpaths] at hcapacity
    have hnone : c'.paths.capacity = none := by simpa using hp'
    rw [hnone] at hcapacity
    cases hcapacity

end Discovery
end PowerSupply
