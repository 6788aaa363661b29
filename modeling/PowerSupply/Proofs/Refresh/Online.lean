/-
# Which chargers are online

A charger is online where the text of its state is not empty and does not start with `0`
(`IsOnline`), and it counts for the type that its type file says at the time of the
refresh (`typeNow`).  The loop over the chargers only ever adds a type to those that are
online (`has_onlineAfter`), so after it a type is online exactly where some charger of this
type is (`has_foldl_onlineAfter`).  Neither the order of the chargers nor how often one is
listed has a part in it.

Each charger is noted in its turn (`chargerNotes`), with a warning if it is online and has
a type that is none of a charger.  No other part of a refresh makes this warning, so the
warnings of a whole refresh are those of the chargers in the order of the list
(`chargers_of_refresh`).
-/

import Mathlib.Data.List.Basic
import PowerSupply.Proofs.Discovery.Log
import PowerSupply.Proofs.Refresh.Parts

namespace PowerSupply

/-- The charger whose type a note finds unclear. -/
def Note.unclear? : Note → Option String
  | .unclearCharger name => some name
  | _ => none

/-- **A text is on** where it is there, is not empty and does not start with `0`. -/
theorem Attribute.isOn_eq_true_iff {text : Option String} :
    isOn text = true ↔ ∃ s, text = some s ∧ s ≠ "" ∧ s.toList.head? ≠ some '0' := by
  unfold isOn
  cases text with
  | none => simp
  | some s =>
    have hempty : s ≠ "" ↔ s.toList ≠ [] := not_congr String.toList_eq_nil_iff.symm
    simp only [Option.some.injEq, exists_eq_left', hempty]
    cases s.toList <;> simp

namespace Refreshing

/-- What is noted on the way is noted by the whole. -/
theorem Notes.of_bind {P : Note → Prop} {α β : Type} {x : Refreshing α} {f : α → Refreshing β}
    (h : Notes P (x >>= f)) : Notes P x := by
  intro n hn
  cases hr : x.result with
  | ok a => exact h n (by rw [Trace.events_bind_ok f hr]; exact List.mem_append_left _ hn)
  | error e => exact h n (by rw [Trace.events_bind_error f hr]; exact hn)

end Refreshing

namespace Refresh

open Attribute (text? readNotes)
open Refreshing (Notes)

/-- Whether a charger is online: its state has a text that is not empty and does not start
with `0`. -/
def IsOnline (t : FileTree) (c : Configuration) (name : String) : Prop :=
  ∃ state, text? t (c.chargerFile name "online") = some state ∧ state ≠ "" ∧
    state.toList.head? ≠ some '0'

/-- The type that a charger has in a tree. -/
def typeNow (t : FileTree) (c : Configuration) (name : String) : SupplyType :=
  SupplyType.ofText (text? t (c.chargerFile name "type"))

instance (t : FileTree) (c : Configuration) (name : String) : Decidable (IsOnline t c name) :=
  decidable_of_iff _ Attribute.isOn_eq_true_iff

/-- Whether a charger is online and has the type of none. -/
def IsUnclear (t : FileTree) (c : Configuration) (name : String) : Prop :=
  IsOnline t c name ∧ (typeNow t c name = .unknown ∨ typeNow t c name = .battery)

instance (t : FileTree) (c : Configuration) (name : String) : Decidable (IsUnclear t c name) :=
  inferInstanceAs (Decidable (_ ∧ _))

/-- Whether a type of charger is online. -/
def Online.has (online : Online) : SupplyType → Bool
  | .ac => online.ac
  | .usb => online.usb
  | .wireless => online.wireless
  | .unknown | .battery => false

/-- The notes on one charger: on its state, and on its type if it is online. -/
def chargerNotes (t : FileTree) (c : Configuration) (name : String) : List Note :=
  readNotes t (c.chargerFile name "online") ++
    if IsOnline t c name then
      readNotes t (c.chargerFile name "type") ++
        if (typeNow t c name).isCharger then [] else [.unclearCharger name]
    else []

/-- The part of a refresh that comes before the chargers. -/
def beforeChargers (t : FileTree) (c : Configuration) : Refreshing Unit :=
  early t c.paths >>= fun _ => middle t c

variable {t : FileTree} {c : Configuration}

/-! ### The types that are online -/

/-- **One more charger** adds its type to those that are online, if it is online. -/
theorem has_onlineAfter {type : SupplyType} (hk : type.isCharger = true) (online : Online)
    (name : String) :
    (onlineAfter t c online name).has type =
      (online.has type || decide (IsOnline t c name ∧ typeNow t c name = type)) := by
  have hon := @Attribute.isOn_eq_true_iff (text? t (c.chargerFile name "online"))
  unfold onlineAfter
  by_cases h : IsOnline t c name
  · rw [if_pos (hon.2 h)]
    unfold typeNow
    cases SupplyType.ofText (text? t (c.chargerFile name "type")) <;> cases type <;>
      simp_all [Online.has, SupplyType.isCharger, SupplyType.chargers]
  · rw [if_neg fun ho => h (hon.1 ho)]
    simp [h]

/-- **After several chargers** a type is online where it was before or some charger of this
type is. -/
theorem has_foldl_onlineAfter {type : SupplyType} (hk : type.isCharger = true)
    (names : List String) (online : Online) :
    (names.foldl (onlineAfter t c) online).has type =
      (online.has type || names.any fun name => IsOnline t c name ∧ typeNow t c name = type) := by
  induction names generalizing online with
  | nil => simp
  | cons name names ih =>
    rw [List.foldl_cons, ih, has_onlineAfter hk, List.any_cons, Bool.or_assoc]

/-- **Which types are online:** those of the chargers that are, and mains power where there
is no charger. -/
theorem has_onlineOf_iff {type : SupplyType} (hk : type.isCharger = true) :
    (onlineOf t c).has type = true ↔ (type = .ac ∧ c.chargers = []) ∨
      ∃ name ∈ c.chargers, IsOnline t c name ∧ typeNow t c name = type := by
  unfold onlineOf
  cases hc : c.chargers with
  | nil =>
    cases type with
    | ac => simp [Online.has]
    | usb | wireless => simp [Online.has]
    | unknown | battery => exact absurd hk (by decide)
  | cons name names =>
    have none : Online.has {} type = false := by cases type <;> rfl
    have found := has_foldl_onlineAfter (t := t) (c := c) hk (name :: names) {}
    show ((name :: names).foldl (onlineAfter t c) {}).has type = true ↔ _
    rw [found, none, Bool.false_or, List.any_eq_true]
    simp only [decide_eq_true_eq, reduceCtorEq, and_false, false_or]

/-! ### The notes on the chargers -/

/-- A reading of a file in a refresh makes its notes, and then the refresh goes on with the
text. -/
theorem events_read_bind {α : Type} {p : Path} (hp : p.hasNul = false)
    (f : Option String → Refreshing α) :
    (Refreshing.reading (Attribute.read t (some p)) >>= f).events =
      (readNotes t p).map .note ++ (f (text? t p)).events := by
  have hr : (Refreshing.reading (Attribute.read t (some p))).result = .ok (text? t p) :=
    Attribute.result_read hp
  rw [Trace.events_bind_ok f hr, ← Attribute.events_read hp]
  rfl

/-- **One charger is noted** in the same way whatever was online before it. -/
theorem events_charger (hn : ∀ p ∈ c.files, p.hasNul = false) {name : String}
    (hc : name ∈ c.chargers) (online : Online) :
    (charger t c online name).events = (chargerNotes t c name).map .note := by
  have hon := @Attribute.isOn_eq_true_iff (text? t (c.chargerFile name "online"))
  unfold charger chargerNotes
  rw [events_read_bind (hn _ (Configuration.online_mem_files hc)), List.map_append]
  refine congrArg _ ?_
  by_cases ho : IsOnline t c name
  · rw [hon.2 ho, if_pos ho, List.map_append]
    refine (events_read_bind (hn _ (Configuration.type_mem_files hc)) _).trans (congrArg _ ?_)
    unfold typeNow
    cases SupplyType.ofText (text? t (c.chargerFile name "type")) with
    | ac | usb | wireless => rfl
    | unknown | battery => exact Trace.events_bind_ok _ (Trace.result_emit _)
  · rw [Bool.eq_false_iff.2 fun h => ho (hon.1 h), if_neg ho]
    rfl

/-- **All chargers** are noted in the order of the list. -/
theorem notes_chargers (hn : ∀ p ∈ c.files, p.hasNul = false) :
    Action.notes (chargers t c).events = c.chargers.flatMap (chargerNotes t c) := by
  have hloop : (c.chargers.foldlM (charger t c) {}).result =
      .ok (c.chargers.foldl (onlineAfter t c) {}) :=
    (Refreshing.Makes.foldlM {} fun name hc online => makes_charger hn hc online).result
  have hevents : (c.chargers.foldlM (charger t c) {}).events =
      c.chargers.flatMap fun name => (chargerNotes t c name).map .note :=
    Trace.events_foldlM (fun name hc online _ _ => events_charger hn hc online) hloop
  have notes_map : ∀ notes : List Note, Action.notes (notes.map .note) = notes := by
    intro notes
    unfold Action.notes
    rw [List.filterMap_map]
    exact List.filterMap_some
  unfold chargers
  rw [Trace.events_bind_ok _ hloop, hevents, ← List.map_flatMap, Action.notes_append, notes_map]
  exact List.append_nil _

/-- A charger is warned of if it is unclear. -/
theorem unclear_chargerNotes (name : String) :
    (chargerNotes t c name).filterMap Note.unclear? =
      (Option.guard (fun name => decide (IsUnclear t c name)) name).toList := by
  have silent : ∀ p, (readNotes t p).filterMap Note.unclear? = [] := by
    intro p
    unfold readNotes
    cases t.read p <;> rfl
  unfold chargerNotes IsUnclear
  rw [List.filterMap_append, silent, List.nil_append]
  by_cases ho : IsOnline t c name
  · rw [if_pos ho, List.filterMap_append, silent, List.nil_append]
    cases hk : typeNow t c name <;>
      simp [ho, hk, SupplyType.isCharger, SupplyType.chargers, Note.unclear?, Option.guard]
  · simp [ho, Option.guard]

/-! ### The rest of a refresh -/

/-- **The chargers come last** in a refresh. -/
theorem run_eq_beforeChargers (t : FileTree) (c : Configuration) :
    run t c = beforeChargers t c >>= fun _ => chargers t c := by
  rw [run_eq_parts, beforeChargers, bind_assoc]

/-- **Before the chargers** there is no warning of one: this part does not look at them, so
its notes are those of a refresh without chargers. -/
theorem unclear_beforeChargers (t : FileTree) (c : Configuration) :
    (Action.notes (beforeChargers t c).events).filterMap Note.unclear? = [] := by
  have clear : Note.AllOfContent fun n => n.unclear? = none :=
    ⟨fun _ => rfl, fun _ => rfl, fun _ => rfl, fun _ => rfl, fun _ _ _ => rfl⟩
  have notes : Notes (fun n => n.unclear? = none) (run t { c with chargers := [] }) :=
    forall_notes_run clear
      (fun p _ limit => Attribute.forall_note_read (fun _ _ => rfl) t (some p) (some limit))
      fun _ hn => nomatch hn
  rw [run_eq_beforeChargers] at notes
  refine List.filterMap_eq_nil_iff.2 fun n hn => notes.of_bind n ?_
  obtain ⟨a, ha, hnote⟩ := List.mem_filterMap.1 hn
  cases a with
  | write w => cases hnote
  | note m =>
    obtain rfl := Option.some.inj hnote
    exact ha

/-- **The warnings of a refresh that goes through** are those of the unclear chargers, in the
order of the list. -/
theorem unclear_run (hn : ∀ p ∈ c.files, p.hasNul = false) (h : (run t c).result = .ok ()) :
    (Action.notes (run t c).events).filterMap Note.unclear? =
      c.chargers.filter fun name => IsUnclear t c name := by
  rw [run_eq_beforeChargers] at h ⊢
  obtain ⟨_, hbefore, -⟩ := Trace.result_bind_eq_ok.1 h
  rw [Trace.events_bind_ok _ hbefore, Action.notes_append, List.filterMap_append,
    unclear_beforeChargers, notes_chargers hn, List.nil_append, List.filterMap_flatMap]
  simp only [unclear_chargerNotes]
  rw [← List.filterMap_eq_flatMap_toList, List.filterMap_eq_filter]

/-! ### The whole refresh -/

/-- Configurations that list the same chargers, in any order and any number of times, name the
same files. -/
theorem hasNul_of_same_chargers {chargers : List String}
    (hc : ∀ name, name ∈ chargers ↔ name ∈ c.chargers) (hn : ∀ p ∈ c.files, p.hasNul = false) :
    ∀ p ∈ ({ c with chargers } : Configuration).files, p.hasNul = false := by
  intro p hp
  rcases List.mem_append.1 hp with hp | hp
  · exact hn p (List.mem_append_left _ hp)
  · obtain ⟨name, hname, hp⟩ := List.mem_flatMap.1 hp
    exact hn p (List.mem_append_right _ (List.mem_flatMap.2 ⟨name, (hc name).1 hname, hp⟩))

/-- The types that are online depend on which chargers are listed, and not on how. -/
theorem onlineOf_of_same_chargers {chargers : List String}
    (hc : ∀ name, name ∈ chargers ↔ name ∈ c.chargers) {type : SupplyType}
    (hk : type.isCharger = true) :
    (onlineOf t { c with chargers }).has type = (onlineOf t c).has type := by
  have hempty : chargers = [] ↔ c.chargers = [] := by
    simp only [List.eq_nil_iff_forall_not_mem, hc]
  rw [Bool.eq_iff_iff, has_onlineOf_iff hk, has_onlineOf_iff hk]
  show (type = .ac ∧ chargers = []) ∨ (∃ name ∈ chargers, _) ↔ _
  rw [hempty]
  simp only [hc]
  rfl

/-- The fields that say which types are online. -/
def onlineFields : List (SupplyType × Field) :=
  [(.ac, .acOnline), (.usb, .usbOnline), (.wireless, .wirelessOnline)]

/-- **A refresh writes to each of these fields** whether its type is online. -/
theorem get?_online {d : Int} (hd : c.voltageDivisor = .int d) (hz : d ≠ 0)
    (hn : ∀ p ∈ c.files, p.hasNul = false) (root : Path) (k : Constants) (source : ConstantSource)
    (snapshot : Snapshot) (t : FileTree) {type : SupplyType} {f : Field}
    (hf : (type, f) ∈ onlineFields) :
    (Service.refresh (.ofRoot root) ⟨source, snapshot, .started k c⟩ t).1.snapshot.get? f.name =
      some (.bool ((onlineOf t c).has type)) := by
  rw [(get?_refresh hd hz hn root k source snapshot t).2 f]
  simp only [onlineFields, List.mem_cons, Prod.mk.injEq, List.not_mem_nil, or_false] at hf
  rcases hf with ⟨rfl, rfl⟩ | ⟨rfl, rfl⟩ | ⟨rfl, rfl⟩ <;> rfl

/-- **The chargers after a refresh**, in every tree and whatever the snapshot held before.

USB and wireless power are online exactly where some listed charger is online and has that
type now; mains power is online too where no charger is listed at all, but not where all
chargers are offline or of another type.  Lists with the same chargers in another order, or
with some of them several times, give the same.  The warnings of a charger whose type is
unclear are those of the unclear chargers, one after the other as they are listed. -/
theorem chargers_of_refresh {d : Int} (hd : c.voltageDivisor = .int d) (hz : d ≠ 0)
    (hn : ∀ p ∈ c.files, p.hasNul = false) (root : Path) (k : Constants) (source : ConstantSource)
    (snapshot : Snapshot) (t : FileTree) :
    let refreshed (chargers : List String) : Service × FileTree × Logged Unit :=
      Service.refresh (.ofRoot root) ⟨source, snapshot, .started k { c with chargers }⟩ t
    let done := refreshed c.chargers
    let someOnline (type : SupplyType) : Prop :=
      ∃ name ∈ c.chargers, IsOnline t c name ∧ typeNow t c name = type
    done.2.2.result = .ok () ∧
      (∃ ac, done.1.snapshot.get? Field.acOnline.name = some (.bool ac) ∧
        (ac = true ↔ c.chargers = [] ∨ someOnline .ac)) ∧
      (∃ usb, done.1.snapshot.get? Field.usbOnline.name = some (.bool usb) ∧
        (usb = true ↔ someOnline .usb)) ∧
      (∃ wireless, done.1.snapshot.get? Field.wirelessOnline.name = some (.bool wireless) ∧
        (wireless = true ↔ someOnline .wireless)) ∧
      (∀ chargers, (∀ name, name ∈ chargers ↔ name ∈ c.chargers) →
        ∀ f ∈ [Field.acOnline, .usbOnline, .wirelessOnline],
          (refreshed chargers).1.snapshot.get? f.name = done.1.snapshot.get? f.name) ∧
      done.2.2.events.filterMap Note.unclear? =
        (c.chargers.filter fun name => IsUnclear t c name) ∧
      ∀ name, (Note.unclearCharger name).line =
        (.warning, name ++ ": Unknown power supply type") := by
  intro refreshed done someOnline
  have hresult : done.2.2.result = .ok () := (get?_refresh hd hz hn root k source snapshot t).1
  have written : ∀ type f, (type, f) ∈ onlineFields → type.isCharger = true ∧
      done.1.snapshot.get? f.name = some (.bool ((onlineOf t c).has type)) := by
    intro type f hf
    have hall : ∀ x ∈ onlineFields, x.1.isCharger = true := by decide
    exact ⟨hall _ hf, get?_online hd hz hn root k source snapshot t hf⟩
  obtain ⟨hac, gac⟩ := written .ac .acOnline (by decide)
  obtain ⟨husb, gusb⟩ := written .usb .usbOnline (by decide)
  obtain ⟨hwireless, gwireless⟩ := written .wireless .wirelessOnline (by decide)
  refine ⟨hresult, ⟨_, gac, ?_⟩, ⟨_, gusb, ?_⟩, ⟨_, gwireless, ?_⟩, fun chargers hc f hf => ?_,
    unclear_run hn hresult, fun _ => rfl⟩
  · simpa using has_onlineOf_iff (t := t) (c := c) hac
  · simpa using has_onlineOf_iff (t := t) (c := c) husb
  · simpa using has_onlineOf_iff (t := t) (c := c) hwireless
  · obtain ⟨type, htype⟩ : ∃ type, (type, f) ∈ onlineFields := by
      simp only [List.mem_cons, List.not_mem_nil, or_false] at hf
      rcases hf with rfl | rfl | rfl
      · exact ⟨.ac, by decide⟩
      · exact ⟨.usb, by decide⟩
      · exact ⟨.wireless, by decide⟩
    obtain ⟨hk, hold⟩ := written type f htype
    have hnew := get?_online (c := { c with chargers }) hd hz (hasNul_of_same_chargers hc hn) root k
      source snapshot t htype
    exact hnew.trans ((congrArg (fun b => some (Json.bool b))
      (onlineOf_of_same_chargers hc hk)).trans hold.symm)

/-- Chargers that are offline, unplugged, turned into a battery, of a type with a space, and
online, some of them listed twice: mains power is offline although none of its chargers
went away. -/
theorem chargers_of_changed_types :
    let c : Configuration :=
      { root := "ps", chargers := ["usb", "AC", "old", "gone", "pad", "old", "odd"] }
    let chargers := ["AC", "gone", "odd", "odd", "old", "pad", "usb"]
    let t := FileTree.empty.changes
      [.device "ps/AC" [("type", "Mains"), ("online", "0")],
        .device "ps/usb" [("type", "USB"), ("online", "1")],
        .device "ps/pad" [("type", "Wireless"), ("online", "")],
        .device "ps/old" [("type", "Battery"), ("online", "1")],
        .device "ps/odd" [("type", "Mains "), ("online", "yes")]]
    let k : Constants := ⟨fun _ => 1, fun _ => 2⟩
    let refreshed (chargers : List String) : Service × FileTree × Logged Unit :=
      Service.refresh (.ofRoot "ps") ⟨.standard, .initial, .started k { c with chargers }⟩ t
    let done := refreshed c.chargers
    c.voltageDivisor = .int 1 ∧ (∀ p ∈ c.files, p.hasNul = false) ∧
      (∀ name, name ∈ chargers ↔ name ∈ c.chargers) ∧
      done.1.snapshot.get? "ac_online" = some (.bool false) ∧
      done.1.snapshot.get? "usb_online" = some (.bool true) ∧
      done.1.snapshot.get? "wireless_online" = some (.bool false) ∧
      (refreshed chargers).1.snapshot.get? "usb_online" = some (.bool true) ∧
      done.2.2.events.filterMap Note.unclear? = ["old", "old", "odd"] := by
  intro c chargers t k refreshed done
  have same : ∀ name, name ∈ chargers ↔ name ∈ c.chargers := by
    intro name
    simp only [chargers, c, List.mem_cons, List.not_mem_nil, or_false]
    grind
  -- evaluated together, so that the tree is built once
  obtain ⟨files, hac, husb, hwireless, hunclear⟩ :
      (∀ p ∈ c.files, p.hasNul = false) ∧
      (∀ name ∈ c.chargers, ¬(IsOnline t c name ∧ typeNow t c name = .ac)) ∧
      (∃ name ∈ c.chargers, IsOnline t c name ∧ typeNow t c name = .usb) ∧
      (∀ name ∈ c.chargers, ¬(IsOnline t c name ∧ typeNow t c name = .wireless)) ∧
      (c.chargers.filter fun name => IsUnclear t c name) = ["old", "old", "odd"] := by
    decide +kernel
  obtain ⟨-, ⟨ac, gac, iac⟩, ⟨usb, gusb, iusb⟩, ⟨wireless, gwireless, iwireless⟩, hsame, hwarned, -⟩ :=
    chargers_of_refresh (c := c) (d := 1) rfl (by decide) files "ps" k .standard .initial t
  obtain rfl : ac = false := by
    refine Bool.eq_false_iff.2 fun h => ?_
    rcases iac.1 h with h | ⟨name, hn, ho⟩
    · cases h
    · exact hac name hn ho
  obtain rfl : usb = true := iusb.2 husb
  obtain rfl : wireless = false := by
    refine Bool.eq_false_iff.2 fun h => ?_
    obtain ⟨name, hn, ho⟩ := iwireless.1 h
    exact hwireless name hn ho
  refine ⟨rfl, files, same, gac, gusb, gwireless, ?_, hwarned.trans hunclear⟩
  exact (hsame chargers same .usbOnline (by decide)).trans gusb

end Refresh
end PowerSupply
