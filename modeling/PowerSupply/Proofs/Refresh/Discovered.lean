/-
# Refreshing what was discovered

Discovery asks whether a file is readable without opening it, and a refresh opens and
reads it.  In the tree that was scanned the two agree: a refresh with the configuration
that was discovered goes through, finds every file that it looks for, and finds every
listed charger to be one (`refresh_of_discovered`).

What it still may note is about the content of a file alone (`Note.IsOfContent`), for
reading a readable file is silent (`read_eq_pure`).  That the notes of a refresh have some
property is shown once for every property and every part of a refresh
(`forall_notes_run`), from what reading its files and its chargers is known to note.
-/

import PowerSupply.Proofs.Discovery.Files
import PowerSupply.Proofs.Refresh.Effect

namespace PowerSupply

/-- Whether a note is about what a file of a configuration says; the other notes are about
files that cannot be read, about devices, or about the program itself. -/
def Note.IsOfContent : Note → Prop
  | .notNumeric _ | .unknownStatus _ | .unknownHealth _ | .fullIsZero _ | .computedLevel .. => True
  | _ => False

namespace Refreshing

variable {P : Note → Prop} {α β σ : Type}

/-- Every note of a refresh has the property `P`. -/
def Notes (P : Note → Prop) (x : Refreshing α) : Prop := ∀ n, Action.note n ∈ x.events → P n

namespace Notes

theorem pure (a : α) : Notes P (Pure.pure a) := fun _ h => nomatch h

theorem write (w : Write) : Notes P (Refreshing.write w) :=
  fun _ h => nomatch List.mem_singleton.1 h

theorem note {n : Note} (h : P n) : Notes P (Trace.emit (.note n)) := by
  intro m hm
  obtain rfl := Action.note.inj (List.mem_singleton.1 hm)
  exact h

theorem ofExcept (r : Except Fault α) : Notes P (Trace.ofExcept r) := fun _ h => nomatch h

/-- A reading makes the notes of what is read. -/
theorem reading {x : Logged α} (h : ∀ n ∈ x.events, P n) : Notes P (Refreshing.reading x) := by
  intro n hn
  obtain ⟨m, hm, he⟩ := List.mem_map.1 hn
  obtain rfl := Action.note.inj he
  exact h m hm

/-- **The notes of a sequence** are those of its parts, as far as it gets. -/
theorem bind {x : Refreshing α} {f : α → Refreshing β} (hx : Notes P x)
    (hf : ∀ a, x.result = .ok a → Notes P (f a)) : Notes P (x >>= f) := by
  intro n hn
  cases hr : x.result with
  | error e =>
    rw [Trace.events_bind_error f hr] at hn
    exact hx n hn
  | ok a =>
    rw [Trace.events_bind_ok f hr] at hn
    rcases List.mem_append.1 hn with hn | hn
    · exact hx n hn
    · exact hf a hr n hn

/-- A sequence whose second part is right after every result of the first. -/
theorem seq {x : Refreshing α} {f : α → Refreshing β} (hx : Notes P x) (hf : ∀ a, Notes P (f a)) :
    Notes P (x >>= f) := hx.bind fun a _ => hf a

theorem foldlM {f : σ → α → Refreshing σ} {as : List α} (s : σ)
    (h : ∀ a ∈ as, ∀ s, Notes P (f s a)) : Notes P (as.foldlM f s) := by
  induction as generalizing s with
  | nil => exact pure s
  | cons a as ih =>
    rw [List.foldlM_cons]
    exact (h a (List.mem_cons_self ..) s).seq fun s => ih s fun b hb => h b (List.mem_cons_of_mem _ hb)

end Notes
end Refreshing

namespace Attribute

variable {t : FileTree} {path : Option Path}

/-- All notes of a reading of the file at a path have the property `P`, whatever the
limit. -/
def AllOfRead (P : Note → Prop) (t : FileTree) (path : Option Path) : Prop :=
  ∀ limit : Nat, ∀ n ∈ (read t path (some limit)).events, P n

/-- **Reading a readable file is silent**, and so is reading where no path is set. -/
theorem read_eq_pure (h : ∀ p, path = some p → Readable t p) (limit : Nat) :
    read t path (some limit) = pure (said? t path limit) := by
  cases path with
  | none => rfl
  | some p =>
    obtain ⟨hp, bytes, hs⟩ := h p rfl
    have hb : t.read p = .ok bytes := FileTree.read_eq_ok_iff.2 hs
    rw [read_of_content hp hb, said?, Option.bind_some, text?_of_read hb]
    rfl

theorem allOfRead_of_readable (P : Note → Prop) (h : ∀ p, path = some p → Readable t p) :
    AllOfRead P t path := by
  intro limit n hn
  rw [read_eq_pure h] at hn
  cases hn

end Attribute

/-- All notes about the content of files have the property `P`.  A level is noted with the
amounts that it was divided from, and the full one is not zero. -/
structure Note.AllOfContent (P : Note → Prop) : Prop where
  notNumeric (text : String) : P (.notNumeric text)
  unknownStatus (text : String) : P (.unknownStatus text)
  unknownHealth (text : String) : P (.unknownHealth text)
  fullIsZero (path : Path) : P (.fullIsZero path)
  computedLevel (now : Int) {full : Int} (h : full ≠ 0) :
    P (.computedLevel (Int.fdiv (now * 100) full) now full)

theorem Note.allOfContent_isOfContent : Note.AllOfContent Note.IsOfContent :=
  ⟨fun _ => trivial, fun _ => trivial, fun _ => trivial, fun _ => trivial, fun _ _ _ => trivial⟩

namespace Refresh

open Attribute (AllOfRead Readable text? said? read_eq_pure)
open Refreshing (Notes)

variable {P : Note → Prop} {t : FileTree} {c : Configuration}

/-! ### The notes of a refresh -/

theorem forall_notes_read {path : Option Path} (h : AllOfRead P t path) :
    Notes P (Refreshing.reading (Attribute.read t path)) := Notes.reading (h _)

theorem forall_notes_flag {path : Option Path} (h : AllOfRead P t path) :
    Notes P (Refreshing.reading (Attribute.readFlag t path)) :=
  Notes.reading (Trace.forall_events_bind (h _) fun _ _ _ hn => nomatch hn)

theorem forall_notes_leadingInt? (hP : Note.AllOfContent P) (text : Option String) :
    Notes P (Refreshing.reading (Attribute.leadingInt? text)) :=
  Notes.reading (Attribute.forall_note_leadingInt? hP.notNumeric text)

theorem forall_notes_int (hP : Note.AllOfContent P) {path : Option Path} (h : AllOfRead P t path) :
    Notes P (Refreshing.reading (Attribute.readInt t path)) := by
  refine Notes.reading (Trace.forall_events_bind (h _) fun text _ => ?_)
  refine Trace.forall_events_bind ?_ fun _ _ _ hn => nomatch hn
  exact Attribute.forall_note_leadingInt? hP.notNumeric text

/-- **The level is divided by an amount that is not zero**, or not at all. -/
theorem forall_notes_level (hP : Note.AllOfContent P)
    (h : ∀ p ∈ c.files, AllOfRead P t (some p)) (hc : AllOfRead P t c.paths.capacity) :
    Notes P (level t c.paths) := by
  unfold level
  split
  · exact Notes.write _
  split
  · exact (forall_notes_int hP hc).seq fun _ => Notes.write _
  cases hl : c.paths.levelPair with
  | none => exact Notes.pure ()
  | some pair =>
    obtain ⟨hn, hf⟩ := Configuration.levelPair_mem_files hl
    refine (forall_notes_read (h _ hn)).seq fun now => (forall_notes_read (h _ hf)).seq fun full => ?_
    split
    · exact Notes.pure ()
    refine (forall_notes_leadingInt? hP now).seq fun _ => ?_
    refine (forall_notes_leadingInt? hP full).seq fun _ => ?_
    dsimp only
    split
    · exact Notes.note (hP.fullIsZero _)
    · rename_i hfull
      exact (Notes.write _).seq fun _ => Notes.note (hP.computedLevel _ hfull)

theorem forall_notes_status (hP : Note.AllOfContent P) {paths : AttributePaths}
    (h : AllOfRead P t paths.status) : Notes P (status t paths) := by
  unfold status
  refine (forall_notes_read h).seq fun text => ?_
  dsimp only
  split
  · exact Notes.write _
  · exact (Notes.reading (Attribute.forall_note_decodeStatus hP.unknownStatus _)).seq
      fun _ => Notes.write _

theorem forall_notes_health (hP : Note.AllOfContent P) {paths : AttributePaths}
    (h : AllOfRead P t paths.health) : Notes P (health t paths) := by
  unfold health
  refine (forall_notes_read h).seq fun text => ?_
  dsimp only
  split
  · exact Notes.pure ()
  · exact (Notes.reading (Attribute.forall_note_decodeHealth hP.unknownHealth _)).seq
      fun _ => Notes.write _

theorem forall_notes_technology {paths : AttributePaths} (h : AllOfRead P t paths.technology) :
    Notes P (technology t paths) := by
  unfold technology
  refine (forall_notes_read h).seq fun text => ?_
  dsimp only
  split
  · exact Notes.pure ()
  · exact Notes.write _

/-- What a refresh may say of a charger whose type is no longer that of one has the property
`P`. -/
def AllOfChargers (P : Note → Prop) (t : FileTree) (c : Configuration) : Prop :=
  ∀ name ∈ c.chargers, ∀ type,
    (Attribute.read t (some (c.chargerFile name "type"))).result = .ok type →
      (SupplyType.ofText type).isCharger = false → P (.unclearCharger name)

theorem forall_notes_charger (h : ∀ p ∈ c.files, AllOfRead P t (some p))
    (hu : AllOfChargers P t c) {name : String} (hn : name ∈ c.chargers) (online : Online) :
    Notes P (charger t c online name) := by
  unfold charger
  refine (forall_notes_read (h _ (Configuration.online_mem_files hn))).seq fun state => ?_
  split
  · exact Notes.pure online
  refine (forall_notes_read (h _ (Configuration.type_mem_files hn))).bind fun type htype => ?_
  cases hk : SupplyType.ofText type with
  | ac | usb | wireless => exact Notes.pure _
  | unknown | battery =>
    have unclear : P (.unclearCharger name) := hu name hn type htype (by rw [hk]; rfl)
    exact (Notes.note unclear).seq fun _ => Notes.pure online

theorem forall_notes_chargers (h : ∀ p ∈ c.files, AllOfRead P t (some p))
    (hu : AllOfChargers P t c) : Notes P (chargers t c) := by
  unfold chargers
  refine (Notes.foldlM {} fun name hn online => forall_notes_charger h hu hn online).seq
    fun _ => ?_
  exact (Notes.write _).seq fun _ => (Notes.write _).seq fun _ => Notes.write _

/-- **The notes of a refresh** have every property that those on the content of files have,
if reading its files and its chargers makes no other notes. -/
theorem forall_notes_run (hP : Note.AllOfContent P) (h : ∀ p ∈ c.files, AllOfRead P t (some p))
    (hu : AllOfChargers P t c) : Notes P (run t c) := by
  have entry (name : String) {path : Option Path} (hm : (name, path) ∈ c.paths.entries) :
      AllOfRead P t path := by
    cases path with
    | none => exact fun _ _ hn => nomatch hn
    | some p => exact Configuration.forall_of_entry h name hm p rfl
  have capacity : AllOfRead P t c.paths.capacity :=
    entry "capacity" (by simp [AttributePaths.entries])
  unfold run
  refine (forall_notes_flag (entry "present" (by simp [AttributePaths.entries]))).seq fun _ => ?_
  refine (Notes.write _).seq fun _ => (forall_notes_level hP h capacity).seq fun _ => ?_
  refine (forall_notes_int hP (entry "voltage" (by simp [AttributePaths.entries]))).seq fun _ => ?_
  refine (Notes.ofExcept _).seq fun _ => (Notes.write _).seq fun _ => ?_
  refine (forall_notes_int hP (entry "temperature" (by simp [AttributePaths.entries]))).seq
    fun _ => (Notes.write _).seq fun _ => ?_
  refine (forall_notes_status hP (entry "status" (by simp [AttributePaths.entries]))).seq
    fun _ => ?_
  refine (forall_notes_health hP (entry "health" (by simp [AttributePaths.entries]))).seq
    fun _ => ?_
  refine (forall_notes_technology (entry "technology" (by simp [AttributePaths.entries]))).seq
    fun _ => ?_
  exact forall_notes_chargers h hu

/-- **Where every file is readable and every charger is one**, the notes of a refresh are
about the content of files. -/
theorem notes_run (h : ∀ p ∈ c.files, Readable t p)
    (hk : ∀ name ∈ c.chargers,
      (SupplyType.ofText (text? t (c.chargerFile name "type"))).isCharger = true) :
    Notes Note.IsOfContent (run t c) := by
  have silent : ∀ p ∈ c.files, AllOfRead Note.IsOfContent t (some p) := fun p hp =>
    Attribute.allOfRead_of_readable _ fun q hq => Option.some.inj hq ▸ h p hp
  refine forall_notes_run Note.allOfContent_isOfContent silent fun name hn type htype hno => ?_
  have readable : ∀ q, some (c.chargerFile name "type") = some q → Readable t q :=
    fun q hq => Option.some.inj hq ▸ h _ (Configuration.type_mem_files hn)
  rw [read_eq_pure readable] at htype
  have text : text? t (c.chargerFile name "type") = type := Except.ok.inj htype
  rw [← text, hk name hn] at hno
  cases hno

/-! ### Refreshing what was discovered -/

/-- A refresh with a configuration that was discovered goes through in every tree, also
when the tree has changed since. -/
theorem result_run_of_discovered {root : Path} (h : (Discovery.run t root).result = .ok c)
    (t' : FileTree) : (run t' c).result = .ok () := by
  obtain ⟨d, hd, hz⟩ := Discovery.divisor_of_run h
  obtain ⟨v, hv⟩ := exists_millivolts t' c.paths.voltage hz
  rw [← hd] at hv
  exact (makes_run (Discovery.hasNul_of_run h) hv).result

/-- The type of a charger that was discovered is that of a charger. -/
theorem isCharger_of_discovered {root : Path} (h : (Discovery.run t root).result = .ok c)
    {name : String} (hn : name ∈ c.chargers) :
    (SupplyType.ofText (text? t (c.chargerFile name "type"))).isCharger = true := by
  obtain ⟨hroot, -, -⟩ := Discovery.configuration_of_run h
  unfold Configuration.chargerFile
  rw [hroot]
  exact (Discovery.listed_of_mem_chargers h hn).1

/-- **Discovery and refresh agree** on the tree that was scanned.  Every file that the
configuration names can be read, and every charger in it has the type of one.  So a
refresh goes through, with no note of a file that cannot be opened and none of a charger
of another type. -/
theorem refresh_of_discovered {root : Path} (h : (Discovery.run t root).result = .ok c) :
    (∀ p ∈ c.files, Readable t p) ∧
      (∀ name ∈ c.chargers,
        SupplyType.ofText (text? t (c.chargerFile name "type")) ∈ SupplyType.chargers) ∧
      (run t c).result = .ok () ∧
      (∀ p e, .note (.unreadable p e) ∉ (run t c).events) ∧
      ∀ name, .note (.unclearCharger name) ∉ (run t c).events := by
  have notes := notes_run (Discovery.readable_of_run h) fun name => isCharger_of_discovered h
  exact ⟨Discovery.readable_of_run h,
    fun name hn => List.contains_iff_mem.1 (isCharger_of_discovered h hn),
    result_run_of_discovered h t, fun p e hn => notes _ hn, fun name hn => notes _ hn⟩

/-- A root that is a link, a charger that is one, attributes behind links, one that dangles,
one that loops and a directory in place of one. -/
theorem refresh_of_linked_tree :
    let t := FileTree.empty.changes
      [.device "devices/BAT0" [("type", "Battery"), ("present", "1"), ("design", "200"),
          ("charge_now", "50"), ("status", "Napping")],
        .link "devices/BAT0/charge_full" (.ofText "design"),
        .link "devices/BAT0/capacity" (.ofText "gone"),
        .link "devices/BAT0/health" (.ofText "health"),
        .directory "devices/BAT0/technology",
        .device "hidden/port" [("type", "USB_DCP"), ("online", "1")],
        .link "devices/USB" (.ofText "../hidden/port"),
        .device "devices/sensor" [("type", "Thermal"), ("online", "1")],
        .link "ps" (.ofText "devices")]
    ∃ c, (Discovery.run t "ps").result = .ok c ∧ c.chargers = ["USB"] ∧
      c.paths.levelSource = some .charge ∧ (∀ p ∈ c.files, Readable t p) ∧
      ∀ p e, .note (.unreadable p e) ∉ (run t c).events := by
  intro t
  obtain ⟨c, hc, hp⟩ := exists_ok_of_any (x := (Discovery.run t "ps").result)
    (p := fun c => c.chargers = ["USB"] ∧ c.paths.levelSource = some .charge) (by decide +kernel)
  obtain ⟨hchargers, hsource⟩ := of_decide_eq_true hp
  obtain ⟨hfiles, -, -, hnotes, -⟩ := refresh_of_discovered hc
  exact ⟨c, hc, hchargers, hsource, hfiles, hnotes⟩

end Refresh
end PowerSupply
